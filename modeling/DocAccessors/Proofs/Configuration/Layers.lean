import DocAccessors.CommandLine.Execute
import DocAccessors.Proofs.Diagnostic.Combine
import DocAccessors.Proofs.Results

/-!
# Layers of configuration

The configuration of a run is made of layers: the built-in one, that of a file and that of the command line. Fields are
set in three ways: by having a value, by a list that is not empty, or by a text that is not empty; the defaults are a
section of fields of their own.

* `Configuration.Field`, `Configuration.value?`: what can be set, and what a layer sets it to; `ext_value?` says that a
  configuration is nothing else;
* `value?_merge`, `value?_overlay`: a field is that of the upper layer if it sets one, and else that of the lower layer;
* `value?_ofGrouping`: in any grouping of layers, a field is that of the last layer that sets it;
* `merge_layers`: so layers are a monoid, and those of a run can be put together in any grouping.
-/

namespace DocAccessors.Configuration

open Failure (Grouping)

/-! ## Fields -/

/-- What a layer can set. That there is a section of defaults is something to set by itself. -/
inductive Field where
  | packages | output | space | logLevel | maxDiagnostics | jobs | color | defaults | trim | renameAll | default | dir
  deriving DecidableEq

def Field.Value : Field → Type
  | .packages => List Text
  | .output | .space | .logLevel | .color | .renameAll | .default | .dir => Text
  | .maxDiagnostics | .jobs => Int
  | .defaults => Unit
  | .trim => Bool

/-- What a layer sets a field to. An empty list of packages and an empty directory set nothing. -/
def value? (c : Configuration) : (f : Field) → Option f.Value
  | .packages => if c.packages = [] then none else some c.packages
  | .output => c.output
  | .space => c.space
  | .logLevel => c.logLevel
  | .maxDiagnostics => c.maxDiagnostics
  | .jobs => c.jobs
  | .color => c.color
  | .defaults => c.defaults.bind fun _ => some ()
  | .trim => c.defaults.bind (·.trim)
  | .renameAll => c.defaults.bind (·.renameAll)
  | .default => c.defaults.bind (·.default)
  | .dir => if c.dir = [] then none else some c.dir

theorem eq_of_unless_nil {α : Type} {xs ys : List α}
    (h : (if xs = [] then none else some xs) = if ys = [] then none else some ys) : xs = ys := by
  split at h <;> split at h <;> simp_all

/-- **A configuration is its fields.** -/
theorem ext_value? {c c' : Configuration} (h : ∀ f, c.value? f = c'.value? f) : c = c' := by
  have sections : c.defaults = c'.defaults := by
    have present : c.defaults.bind (fun _ => some ()) = c'.defaults.bind fun _ => some () := h .defaults
    have trim : c.defaults.bind (·.trim) = c'.defaults.bind (·.trim) := h .trim
    have renameAll : c.defaults.bind (·.renameAll) = c'.defaults.bind (·.renameAll) := h .renameAll
    have default : c.defaults.bind (·.default) = c'.defaults.bind (·.default) := h .default
    rcases hd : c.defaults with - | ⟨t, r, e⟩ <;> rcases hd' : c'.defaults with - | ⟨t', r', e'⟩ <;>
      simp_all
  obtain ⟨packages, output, space, logLevel, maxDiagnostics, jobs, color, defaults, dir⟩ := c
  obtain ⟨packages', output', space', logLevel', maxDiagnostics', jobs', color', defaults', dir'⟩ := c'
  obtain rfl : packages = packages' := eq_of_unless_nil (h .packages)
  obtain rfl : output = output' := h .output
  obtain rfl : space = space' := h .space
  obtain rfl : logLevel = logLevel' := h .logLevel
  obtain rfl : maxDiagnostics = maxDiagnostics' := h .maxDiagnostics
  obtain rfl : jobs = jobs' := h .jobs
  obtain rfl : color = color' := h .color
  obtain rfl : defaults = defaults' := sections
  obtain rfl : dir = dir' := eq_of_unless_nil (h .dir)
  rfl

/-! ## Two layers -/

theorem unless_nil_or {α : Type} (xs ys : List α) :
    (if (if xs.isEmpty then ys else xs) = [] then none else some (if xs.isEmpty then ys else xs)) =
      (if xs = [] then none else some xs).or (if ys = [] then none else some ys) := by
  cases xs <;> simp

/-- A field of the defaults is set by the section that sets it. -/
theorem mergeDefaults_bind {α : Type} (pick : Defaults → Option α)
    (one : ∀ base upper : Defaults, pick (base.merge upper) = (pick upper).or (pick base))
    (base upper : Option Defaults) :
    (mergeDefaults base upper).bind pick = (upper.bind pick).or (base.bind pick) := by
  cases upper with
  | none => rfl
  | some upper =>
    cases base with
    | none => exact (Option.or_none).symm
    | some base => exact one base upper

/-- **A field is that of the upper layer if it sets one, and else that of the lower layer.** -/
theorem value?_merge (base upper : Configuration) (f : Field) :
    (base.merge upper).value? f = (upper.value? f).or (base.value? f) := by
  cases f with
  | packages => exact unless_nil_or upper.packages base.packages
  | dir => exact unless_nil_or upper.dir base.dir
  | output | space | logLevel | maxDiagnostics | jobs | color => rfl
  | defaults => exact mergeDefaults_bind (fun _ => some ()) (fun _ _ => rfl) base.defaults upper.defaults
  | trim => exact mergeDefaults_bind (·.trim) (fun _ _ => rfl) base.defaults upper.defaults
  | renameAll => exact mergeDefaults_bind (·.renameAll) (fun _ _ => rfl) base.defaults upper.defaults
  | default => exact mergeDefaults_bind (·.default) (fun _ _ => rfl) base.defaults upper.defaults

/-- What a layer that may be missing sets a field to. -/
def layerValue? (c : Option Configuration) (f : Field) : Option f.Value := c.bind (·.value? f)

theorem layerValue?_none (f : Field) : layerValue? none f = none := rfl

theorem layerValue?_empty (f : Field) : layerValue? (some {}) f = none := by cases f <;> rfl

theorem value?_getD (c : Option Configuration) (f : Field) : (c.getD {}).value? f = layerValue? c f := by
  cases c with
  | none => exact layerValue?_empty f
  | some c => rfl

theorem value?_overlay (base upper : Option Configuration) (f : Field) :
    (overlay base upper).value? f = (layerValue? upper f).or (layerValue? base f) := by
  cases upper with
  | none => exact value?_getD base f
  | some upper => exact (value?_merge _ _ f).trans (congrArg _ (value?_getD base f))

/-! ## Any number of layers -/

/-- The configuration that layers come to, put together in pairs in some grouping. -/
def ofGrouping (g : Grouping (Option Configuration)) : Configuration :=
  (g.fold fun base upper => some (overlay base upper)).getD {}

/-- **However layers are grouped, a field is that of the last layer that sets it.** -/
theorem value?_ofGrouping (g : Grouping (Option Configuration)) (f : Field) :
    (ofGrouping g).value? f = (g.parts.filterMap (layerValue? · f)).getLast? := by
  rw [ofGrouping, value?_getD]
  induction g with
  | part c => cases set : layerValue? c f <;> simp [Grouping.fold, Grouping.parts, set]
  | pair base upper ihb ihu =>
    rw [Grouping.parts, List.filterMap_append, List.getLast?_append, ← ihb, ← ihu]
    exact value?_overlay _ _ f

/-- What layers come to is a matter of the layers and their order. -/
theorem ofGrouping_congr {g g' : Grouping (Option Configuration)} (same : g'.parts = g.parts) :
    ofGrouping g' = ofGrouping g :=
  ext_value? fun f => by rw [value?_ofGrouping, value?_ofGrouping, same]

/-! ## The layers of a run -/

theorem exists_layer_of_load {d : Disk} {path : Text} {c : Configuration} (h : load d path = .ok c) :
    ∃ file, c = overlay (some builtin) (some file) := by
  unfold load at h
  dsimp only at h
  split at h
  · next data _ =>
    obtain ⟨_, -, h⟩ := bind_eq_ok h
    split at h
    · next format _ =>
      split at h
      · next layer _ =>
        obtain ⟨_, same, h⟩ := bind_eq_ok h
        obtain rfl := Except.ok.inj same
        split at h
        · cases h
        · cases h
          refine ⟨{ layer with dir := d.absolute (Path.dir path) }, ?_⟩
          simp only [overlay, Option.getD_some, merge]
          cases d.absolute (Path.dir path) <;> rfl
      · cases h
    · cases h
  · cases h

theorem exists_layer_of_base {d : Disk} {a : Arguments} {c : Configuration}
    (h : CommandLine.baseConfiguration d a = .ok c) : ∃ file, c = overlay (some builtin) file := by
  unfold CommandLine.baseConfiguration at h
  dsimp only at h
  split at h
  · obtain ⟨file, rfl⟩ := exists_layer_of_load h
    exact ⟨some file, rfl⟩
  · cases h
    exact ⟨none, rfl⟩

/-! ## Layers as a whole -/

/-- **Layers of configuration are a monoid.** One layer over another is associative, and a missing layer and one that
sets nothing leave the other as it is, below and above. In any grouping of any layers each field, also in the section of
defaults, is that of the last layer that sets it, so the grouping does not matter. The configuration of a run is made of
the built-in layer, that of a file if there is one, and that of the command line, and any grouping of them gives the
same. -/
theorem merge_layers (a b c : Option Configuration) (g : Grouping (Option Configuration)) :
    overlay (some (overlay a b)) c = overlay a (some (overlay b c)) ∧
    (overlay none c = c.getD {} ∧ overlay c none = c.getD {}) ∧
    (overlay (some {}) c = c.getD {} ∧ overlay c (some {}) = c.getD {}) ∧
    (∀ f, (ofGrouping g).value? f = (g.parts.filterMap (layerValue? · f)).getLast?) ∧
    (∀ g', g'.parts = g.parts → ofGrouping g' = ofGrouping g) ∧
    (∀ d args final, CommandLine.configuration d args = .ok final → ∃ file,
      CommandLine.baseConfiguration d args = .ok (overlay (some builtin) file) ∧
      ∀ run : Grouping (Option Configuration), run.parts = [some builtin, file, some (CommandLine.layerOf args)] →
        final = if args.rest.isEmpty then ofGrouping run else { ofGrouping run with dir := [] }) := by
  refine ⟨?_, ⟨?_, rfl⟩, ⟨?_, ?_⟩, value?_ofGrouping g, fun g' => ofGrouping_congr, ?_⟩
  · have flat : (Grouping.pair (.pair (.part a) (.part b)) (.part c)).parts =
        (Grouping.pair (.part a) (.pair (.part b) (.part c))).parts := rfl
    exact ofGrouping_congr flat
  · exact ext_value? fun f => by rw [value?_overlay, value?_getD, layerValue?_none, Option.or_none]
  · exact ext_value? fun f => by rw [value?_overlay, value?_getD, layerValue?_empty, Option.or_none]
  · exact ext_value? fun f => by rw [value?_overlay, value?_getD, layerValue?_empty, Option.none_or]
  · intro d args final made
    unfold CommandLine.configuration at made
    dsimp only at made
    split at made
    · cases made
    · next base below =>
      obtain ⟨file, rfl⟩ := exists_layer_of_base below
      split at made
      · cases made
      · obtain rfl := Except.ok.inj made
        refine ⟨file, below, fun run layers => ?_⟩
        rw [ofGrouping_congr (g := .pair (.pair (.part (some builtin)) (.part file)) (.part (some (CommandLine.layerOf args))))
          layers]
        rfl

/-- A file that sets one of the defaults leaves the others. -/
example : (builtin.merge { defaults := some { renameAll := some "snake_case" } }).defaults =
    some { trim := some true, renameAll := some "snake_case" } := by
  decide

/-- A configuration file in the current directory. -/
def diskWithFile : Disk where
  entries := [([".gondoc.json"], .file "\x7b\"jobs\": 2, \"defaults\": \x7b\"rename_all\": \"snake_case\"\x7d\x7d")]

/-- A command line that sets one field. -/
def colorlessArguments : Arguments where
  set := [("color", .text "never")]

theorem merge_layers_fileAndArguments : ∃ file,
    CommandLine.baseConfiguration diskWithFile colorlessArguments = .ok (overlay (some builtin) file) ∧
    ∀ run : Grouping (Option Configuration),
      run.parts = [some builtin, file, some (CommandLine.layerOf colorlessArguments)] →
      ofGrouping run =
        { builtin with
          jobs := some 2
          color := some "never"
          defaults := some { trim := some true, renameAll := some "snake_case" }
          dir := "/" } := by
  have made : CommandLine.configuration diskWithFile colorlessArguments = .ok _ := rfl
  obtain ⟨-, -, -, -, -, configured⟩ := merge_layers none none none (.part none)
  obtain ⟨file, below, grouped⟩ := configured _ _ _ made
  exact ⟨file, below, fun run layers => (grouped run layers).symm⟩

end DocAccessors.Configuration
