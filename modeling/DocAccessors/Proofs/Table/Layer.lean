import DocAccessors.Proofs.Directive.Repetition
import DocAccessors.Table.Resolve
import Mathlib.Data.List.Nodup

/-!
# One layer of options

The options of one level, a container or a member, come from several directive lines.

* `options_eq_ok_iff`: they are read when every line reads and no key occurs twice, and then they are the options of
  the lines, one line after the other;
* `Settings.resolve_of_accepted`, `Settings.resolve_of_rejected`: they apply when the level accepts all their keys, and
  else none does; `settings_eq_ok_iff`: what becomes of one level;
* `options_perm`, `settings_perm`: the order of the lines does not matter;
* `lastGiven`: the value that a layer gives a field; `foldl_apply_trim` and its companions say that a field of the
  settings is that value, and what it was before if the layer gives none.
-/

namespace DocAccessors

/-! ## Reading -/

namespace Failure

theorem combine_eq_none {a b : Option Failure} : combine a b = none ↔ a = none ∧ b = none := by
  cases a <;> cases b <;> simp [combine]

theorem foldl_combine_eq_none {fs : List (Option Failure)} {start : Option Failure} :
    fs.foldl combine start = none ↔ start = none ∧ ∀ f ∈ fs, f = none := by
  induction fs generalizing start with
  | nil => simp
  | cons f fs ih =>
    rw [List.foldl_cons, ih, combine_eq_none]
    simp [and_assoc]

end Failure

namespace Settings

variable {base : Settings} {p : Profile} {layers : List (List ReadOption)}

theorem rejected_eq_nil_iff {os : List ReadOption} :
    (os.filter fun o => !p.accepts o.kind) = [] ↔ ∀ o ∈ os, p.accepts o.kind = true := by
  simp [List.filter_eq_nil_iff]

theorem resolve_of_accepted (h : ∀ o ∈ layers.flatten, p.accepts o.kind = true) :
    base.resolve p layers = (layers.flatten.foldl (fun s o => s.apply o.value) base, none) := by
  unfold resolve
  dsimp only
  rw [rejected_eq_nil_iff.2 h]

/-- With one option that is not accepted, nothing is applied, and each such option is reported. -/
theorem resolve_of_rejected (h : ¬ ∀ o ∈ layers.flatten, p.accepts o.kind = true) :
    base.resolve p layers =
      (base, some (.diagnosed ((layers.flatten.filter fun o => !p.accepts o.kind).map inapplicable))) := by
  unfold resolve
  dsimp only
  cases rejected : layers.flatten.filter fun o => !p.accepts o.kind with
  | nil => exact absurd (rejected_eq_nil_iff.1 rejected) h
  | cons o os => rfl

end Settings

namespace Resolve

/-- The options of directive lines, one line after the other. -/
def lineOptions (ds : List Directive) : List ReadOption := ds.flatMap fun d => (d.options OptionKind.all).1

theorem ofFailure_eq_ok_iff {f : Option Failure} {a b : α} : ofFailure f a = .ok b ↔ f = none ∧ a = b := by
  cases f <;> simp [ofFailure]

/-- **When directive lines are read.** -/
theorem options_eq_ok_iff {ds : List Directive} {os : List ReadOption} :
    options ds = .ok os ↔ (∀ d ∈ ds, (d.options OptionKind.all).2 = none) ∧
      ((lineOptions ds).map (·.kind)).Nodup ∧ lineOptions ds = os := by
  have lines : (ds.map fun d => d.options OptionKind.all).flatMap Prod.fst = lineOptions ds := by
    rw [lineOptions, List.flatMap_map]
  unfold options
  dsimp only
  rw [ofFailure_eq_ok_iff, lines, Failure.combine_eq_none, Failure.foldl_combine_eq_none, ensureUnique_eq_none_iff]
  simp [and_assoc]

/-- **When options apply.** -/
theorem settings_eq_ok_iff {s s' : Settings} {p : Profile} {os : List ReadOption} :
    settings s p os = .ok s' ↔
      (∀ o ∈ os, p.accepts o.kind = true) ∧ os.foldl (fun s o => s.apply o.value) s = s' := by
  have given : [os].flatten = os := List.append_nil os
  unfold settings
  rw [ofFailure_eq_ok_iff]
  by_cases accepted : ∀ o ∈ os, p.accepts o.kind = true
  · rw [Settings.resolve_of_accepted (by rwa [given]), given, and_iff_right rfl, and_iff_right accepted]
  · rw [Settings.resolve_of_rejected (by rwa [given])]
    simp [accepted]

/-! ## Order -/

theorem lineOptions_perm {ds ds' : List Directive} (h : ds.Perm ds') : (lineOptions ds).Perm (lineOptions ds') :=
  h.flatMap_right _

theorem options_perm {ds ds' : List Directive} (h : ds.Perm ds') {os : List ReadOption} (ok : options ds = .ok os) :
    ∃ os', options ds' = .ok os' ∧ os.Perm os' ∧ (os.map (·.kind)).Nodup := by
  obtain ⟨readable, distinct, rfl⟩ := options_eq_ok_iff.1 ok
  have same := lineOptions_perm h
  refine ⟨lineOptions ds', options_eq_ok_iff.2 ⟨fun d hd => readable d (h.mem_iff.2 hd), ?_, rfl⟩, same, distinct⟩
  exact ((same.map _).nodup_iff).1 distinct

theorem apply_comm (s : Settings) {v w : OptionValue} (h : v.kind ≠ w.kind) :
    (s.apply v).apply w = (s.apply w).apply v := by
  cases v <;> cases w <;> first | rfl | exact absurd rfl h

/-- Options with different keys can be applied in any order. -/
theorem foldl_apply_perm {os os' : List ReadOption} (h : os.Perm os') (distinct : (os.map (·.kind)).Nodup)
    (s : Settings) : os.foldl (fun s o => s.apply o.value) s = os'.foldl (fun s o => s.apply o.value) s := by
  refine h.foldl_eq' (fun x hx y hy s => ?_) s
  by_cases same : x = y
  · rw [same]
  · refine apply_comm s fun kinds => same ?_
    exact List.inj_on_of_nodup_map distinct hx hy kinds

theorem settings_perm {os os' : List ReadOption} (h : os.Perm os') (distinct : (os.map (·.kind)).Nodup)
    {s s' : Settings} {p : Profile} (ok : settings s p os = .ok s') : settings s p os' = .ok s' := by
  obtain ⟨accepted, applied⟩ := settings_eq_ok_iff.1 ok
  refine settings_eq_ok_iff.2 ⟨fun o ho => accepted o (h.mem_iff.2 ho), ?_⟩
  rw [← foldl_apply_perm h distinct, applied]

end Resolve

/-! ## Fields -/

namespace OptionValue

def rename? : OptionValue → Option Text
  | .rename n => some n
  | _ => none

def convention? : OptionValue → Option CaseConvention
  | .renameAll c => some c
  | _ => none

def expression? : OptionValue → Option Text
  | .default e => some e
  | _ => none

/-- The trimming that a value sets. -/
def trim? : OptionValue → Option Bool
  | .trim b => some b
  | _ => none

end OptionValue

/-- The last value that options give a field. -/
def lastGiven (pick : OptionValue → Option α) (os : List ReadOption) : Option α :=
  (os.filterMap fun o => pick o.value).getLast?

namespace Settings

/-- A field that each option sets or leaves is set by the last option that sets it. -/
theorem foldl_apply_field (pick : OptionValue → Option α) (field : Settings → Option α)
    (one : ∀ s v, field (s.apply v) = (pick v).or (field s)) (os : List ReadOption) (s : Settings) :
    field (os.foldl (fun s o => s.apply o.value) s) = (lastGiven pick os).or (field s) := by
  induction os generalizing s with
  | nil => rfl
  | cons o os ih =>
    rw [List.foldl_cons, ih, one]
    unfold lastGiven
    rw [List.filterMap_cons]
    cases picked : pick o.value with
    | none => rfl
    | some a =>
      dsimp only
      rw [List.getLast?_cons]
      cases (os.filterMap fun o => pick o.value).getLast? <;> rfl

variable (os : List ReadOption) (s : Settings)

theorem foldl_apply_trim :
    (os.foldl (fun s o => s.apply o.value) s).trim = (lastGiven OptionValue.trim? os).getD s.trim := by
  have set := foldl_apply_field OptionValue.trim? (fun s => some s.trim) (fun s v => by cases v <;> rfl) os s
  rw [Option.or_some] at set
  exact Option.some.inj set

theorem foldl_apply_customName :
    (os.foldl (fun s o => s.apply o.value) s).customName = (lastGiven OptionValue.rename? os).or s.customName :=
  foldl_apply_field OptionValue.rename? Settings.customName (fun s v => by cases v <;> rfl) os s

theorem foldl_apply_renameCase :
    (os.foldl (fun s o => s.apply o.value) s).renameCase =
      (lastGiven OptionValue.convention? os).or s.renameCase :=
  foldl_apply_field OptionValue.convention? Settings.renameCase (fun s v => by cases v <;> rfl) os s

theorem foldl_apply_defaultExpr :
    (os.foldl (fun s o => s.apply o.value) s).defaultExpr =
      (lastGiven OptionValue.expression? os).or s.defaultExpr :=
  foldl_apply_field OptionValue.expression? Settings.defaultExpr (fun s v => by cases v <;> rfl) os s

end Settings

end DocAccessors
