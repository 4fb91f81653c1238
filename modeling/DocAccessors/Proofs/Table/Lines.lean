import DocAccessors.Proofs.Directive.Repetition
import DocAccessors.Proofs.Table.Fault
import Mathlib.Data.List.Induction
import Mathlib.Data.List.Nodup

/-!
# What becomes of directive lines

The lines of a declaration are taken up one after the other. Each is recorded in a binding, or is reported, or is left
to the enum that a constant belongs to.

* `Validation.Stands`, `Validation.Deferred`: an attribute stands on a declaration by right, or is left to its enum;
* `Validation.Placed`: what one line with a known attribute can change; `place_spec` says that nothing else happens;
* `Validation.Collects decl ds bs`: the bindings `bs` collect the lines `ds`; `Validation.Settled`: a line names the
  attribute of a binding or is left to an enum;
* `Validation.Collects.step`: each line keeps the bindings in this form and leaves one error unless it is settled;
  `Validation.collects_foldl` and `Validation.errors_foldl` say so for all lines.
-/

namespace DocAccessors

def Directive.attribute? (x : Directive) : Option Attribute := (Attribute.lookup? x.attr).map Prod.fst

theorem Attribute.isValidOn_congr {a c : Attribute} (h : a.base = c.base) (p : Placement) :
    a.isValidOn p = c.isValidOn p := by
  simp only [isValidOn, validOn, h]

namespace Validation

/-! ## Errors -/

theorem map_filter_singleton (p : Directive → Prop) [DecidablePred p] (x : Directive) :
    ([x].filter fun y => ¬ p y).map Directive.nameSpan = if p x then [] else [x.nameSpan] := by
  by_cases h : p x <;> simp [h]

/-- The errors among what was found. -/
def errors (v : Validation) : List Diagnostic := v.found.filter Diagnostic.isError

theorem errors_report (v : Validation) (d : Diagnostic) :
    (v.report d).errors = v.errors ++ [d].filter Diagnostic.isError :=
  List.filter_append _ _

theorem errors_report_of_isError (v : Validation) {e : Diagnostic} (h : e.isError = true) :
    (v.report e).errors = v.errors ++ [e] := by
  rw [errors_report, List.filter_cons_of_pos h, List.filter_nil]

theorem errors_report_of_minor (v : Validation) {w : Diagnostic} (h : w.isError = false) :
    (v.report w).errors = v.errors := by
  rw [errors_report, List.filter_cons_of_neg (by simp [h]), List.filter_nil, List.append_nil]

/-- One error is reported, at the name of the directive. -/
def Blames (v : Validation) (x : Directive) (v' : Validation) : Prop :=
  ∃ e, e.span = x.nameSpan ∧ v'.errors = v.errors ++ [e]

theorem blames_report (v : Validation) {x : Directive} {e : Diagnostic} (error : e.isError = true)
    (place : e.span = x.nameSpan) : v.Blames x (v.report e) :=
  ⟨e, place, v.errors_report_of_isError error⟩

theorem Blames.of_errors_eq {v w v' : Validation} {x : Directive} (h : w.Blames x v') (same : w.errors = v.errors) :
    v.Blames x v' := by
  unfold Blames at h ⊢
  rwa [same] at h

/-- One error is reported, at the name of the directive, unless the condition holds. -/
def BlamesUnless (ok : Prop) (v : Validation) (x : Directive) (v' : Validation) : Prop :=
  ok ∧ v'.errors = v.errors ∨ ¬ ok ∧ v.Blames x v'

theorem BlamesUnless.of_errors_eq {ok : Prop} {v w v' : Validation} {x : Directive} (h : BlamesUnless ok w x v')
    (same : w.errors = v.errors) : BlamesUnless ok v x v' :=
  h.imp (And.imp_right fun kept => kept.trans same) (And.imp_right fun blamed => blamed.of_errors_eq same)

theorem BlamesUnless.spans {ok : Prop} [Decidable ok] {v v' : Validation} {x : Directive}
    (h : BlamesUnless ok v x v') :
    v'.errors.map Diagnostic.span = v.errors.map Diagnostic.span ++ if ok then [] else [x.nameSpan] := by
  rcases h with ⟨good, same⟩ | ⟨bad, e, place, more⟩
  · rw [if_pos good, same, List.append_nil]
  · rw [if_neg bad, more, List.map_append, List.map_singleton, place]

theorem lookup_spec (v : Validation) (x : Directive) :
    (v.lookup x).1.bindings = v.bindings ∧
    ((x.attribute? = none ∧ (v.lookup x).2 = none ∧ v.Blames x (v.lookup x).1) ∨
      ∃ a, x.attribute? = some a ∧ (v.lookup x).2 = some a ∧ (v.lookup x).1.errors = v.errors) := by
  unfold Validation.lookup Directive.attribute?
  cases found : Attribute.lookup? x.attr with
  | none => exact ⟨rfl, .inl ⟨rfl, rfl, v.blames_report (isFault_unknownAttribute x).1 rfl⟩⟩
  | some p =>
    obtain ⟨a, deprecated⟩ := p
    cases deprecated with
    | false => exact ⟨rfl, .inr ⟨a, rfl, rfl, rfl⟩⟩
    | true =>
      refine ⟨rfl, .inr ⟨a, rfl, rfl, ?_⟩⟩
      exact v.errors_report_of_minor (isRemark_deprecatedAttribute x a).1

/-! ## One line -/

/-- The attribute stands on the declaration by right. -/
def Stands (decl : Declaration) (a : Attribute) : Prop :=
  a.isValidOn decl.placement = true ∧ (decl.isAlias = true → a.base = .docsConst)

/-- The attribute stands on a constant and is left to the enum that the constant belongs to. -/
def Deferred (decl : Declaration) (a : Attribute) : Prop :=
  a.isValidOn decl.placement = false ∧ decl.enum ≠ [] ∧ a.isMemberOn .enumValue = true

instance (decl : Declaration) (a : Attribute) : Decidable (Deferred decl a) :=
  inferInstanceAs (Decidable (_ ∧ _ ∧ _))

theorem Stands.of_base_eq {decl : Declaration} {a c : Attribute} (ha : Stands decl a) (h : a.base = c.base) :
    Stands decl c := by
  refine ⟨?_, fun only => h ▸ ha.2 only⟩
  rw [← Attribute.isValidOn_congr h]
  exact ha.1

theorem Deferred.not_stands {decl : Declaration} {a : Attribute} (h : Deferred decl a) : ¬ Stands decl a := by
  intro stands
  have valid := stands.1
  rw [h.1] at valid
  cases valid

/-- What a line with a known attribute can change. -/
inductive Placed (decl : Declaration) (v : Validation) (x : Directive) (a : Attribute) : Validation → Prop
  | deferred (h : Deferred decl a) : Placed decl v x a v
  /-- The first line of its family. -/
  | opened (h : Stands decl a) (fresh : ∀ b ∈ v.bindings, b.attr.base ≠ a.base) :
      Placed decl v x a { v with bindings := v.bindings ++ [⟨a, x, []⟩] }
  /-- One more line of an attribute. -/
  | extended {b : Binding} (h : Stands decl a) (hb : b ∈ v.bindings) (same : b.attr = a) :
      Placed decl v x a (v.extend x a.base)
  | refused {e : Diagnostic} (fault : e.IsFault) (place : e.span = x.nameSpan) (hd : ¬ Deferred decl a)
      (hs : Stands decl a → ∃ b ∈ v.bindings, b.attr.base = a.base ∧ b.attr ≠ a) : Placed decl v x a (v.report e)

theorem place_spec (decl : Declaration) (v : Validation) (x : Directive) (a : Attribute) :
    Placed decl v x a (v.place decl x a) := by
  unfold place
  split
  · next invalid =>
    rw [Bool.not_eq_true'] at invalid
    have homeless : ¬ Stands decl a := fun h => by
      have valid := h.1
      rw [invalid] at valid
      cases valid
    split
    · next member =>
      rw [Bool.and_eq_true, Bool.not_eq_true', List.isEmpty_eq_false_iff] at member
      exact .deferred ⟨invalid, member.1, member.2⟩
    · next other =>
      refine .refused (isFault_misplaced x a _) rfl (fun h => other ?_) fun h => absurd h homeless
      rw [Bool.and_eq_true, Bool.not_eq_true', List.isEmpty_eq_false_iff]
      exact ⟨h.2.1, h.2.2⟩
  · next valid =>
    rw [Bool.not_eq_true', Bool.not_eq_false] at valid
    have here : ¬ Deferred decl a := fun h => by
      rw [h.1] at valid
      cases valid
    split
    · next only => exact .refused (isFault_onAlias x a) rfl here fun h => absurd (h.2 only.1) only.2
    · next free =>
      have stands : Stands decl a := ⟨valid, fun only => by_contra fun other => free ⟨only, other⟩⟩
      split
      · next none_found =>
        refine .opened stands fun b hb same => ?_
        have := List.find?_eq_none.1 none_found b hb
        exact this (decide_eq_true same)
      · next b found =>
        have hb : b ∈ v.bindings := List.mem_of_find?_eq_some found
        have base : b.attr.base = a.base := by
          unfold binding? at found
          simpa using List.find?_some found
        split
        · next form => exact .extended stands hb (by cases hattr : b.attr; cases a; simp_all)
        · next form =>
          refine .refused (isFault_bothForms x a b decl) rfl here fun _ => ⟨b, hb, base, fun same => form ?_⟩
          rw [same]

theorem step_of_unknown {decl : Declaration} {v : Validation} {x : Directive} (nothing : (v.lookup x).2 = none) :
    v.step decl x = (v.lookup x).1 := by
  unfold Validation.step
  rw [show v.lookup x = ((v.lookup x).1, none) from Prod.ext rfl nothing]

theorem step_of_known {decl : Declaration} {v : Validation} {x : Directive} {a : Attribute}
    (found : (v.lookup x).2 = some a) : v.step decl x = (v.lookup x).1.place decl x a := by
  unfold Validation.step
  rw [show v.lookup x = ((v.lookup x).1, some a) from Prod.ext rfl found]

/-! ## Bindings -/

/-- The bindings collect the lines: one binding for each family, with the lines that name its attribute, in the order of
their first lines. -/
structure Collects (decl : Declaration) (ds : List Directive) (bs : List Binding) : Prop where
  distinct : (bs.map fun b => b.attr.base).Nodup
  stands : ∀ b ∈ bs, Stands decl b.attr
  lines : ∀ b ∈ bs, b.directives = ds.filter fun x => x.attribute? == some b.attr
  families : ∀ x ∈ ds, ∀ a, x.attribute? = some a → Stands decl a → ∃ b ∈ bs, b.attr.base = a.base
  ordered : bs.Pairwise fun b c => ds.idxOf b.first < ds.idxOf c.first

/-- The line names the attribute of a binding. -/
def Enabled (bs : List Binding) (x : Directive) : Prop := ∃ b ∈ bs, x.attribute? = some b.attr

/-- The attribute of a line is left to an enum. -/
def Defers (decl : Declaration) (x : Directive) : Prop := ∃ a ∈ x.attribute?, Deferred decl a

instance (bs : List Binding) (x : Directive) : Decidable (Enabled bs x) :=
  inferInstanceAs (Decidable (∃ b ∈ bs, _))

instance (decl : Declaration) (x : Directive) : Decidable (Defers decl x) :=
  inferInstanceAs (Decidable (∃ a ∈ x.attribute?, _))

namespace Collects

variable {decl : Declaration} {ds : List Directive} {bs : List Binding}

theorem eq_of_base_eq (h : Collects decl ds bs) {b c : Binding} (hb : b ∈ bs) (hc : c ∈ bs)
    (same : b.attr.base = c.attr.base) : b = c := List.inj_on_of_nodup_map h.distinct hb hc same

theorem mem_directives_iff (h : Collects decl ds bs) {b : Binding} (hb : b ∈ bs) {x : Directive} :
    x ∈ b.directives ↔ x ∈ ds ∧ x.attribute? = some b.attr := by
  rw [h.lines b hb, List.mem_filter, beq_iff_eq]

theorem first_mem (h : Collects decl ds bs) {b : Binding} (hb : b ∈ bs) :
    b.first ∈ ds ∧ b.first.attribute? = some b.attr :=
  (h.mem_directives_iff hb).1 List.mem_cons_self

theorem exists_line (h : Collects decl ds bs) {b : Binding} (hb : b ∈ bs) : ∃ x ∈ ds, x.attribute? = some b.attr :=
  ⟨b.first, h.first_mem hb⟩

/-- A line that is left to an enum enters no binding. -/
theorem not_enabled_of_defers (h : Collects decl ds bs) {x : Directive} (defers : Defers decl x) : ¬ Enabled bs x := by
  rintro ⟨b, hb, named⟩
  obtain ⟨a, named', deferred⟩ := defers
  rw [named, Option.mem_some] at named'
  subst named'
  exact deferred.not_stands (h.stands b hb)

/-- More lines behind them leave the bindings in order. -/
theorem ordered_append (h : Collects decl ds bs) (x : Directive) :
    bs.Pairwise fun b c => (ds ++ [x]).idxOf b.first < (ds ++ [x]).idxOf c.first :=
  pairwise_idxOf_append (fun _ hb => (h.first_mem hb).1) h.ordered x

theorem lines_append (h : Collects decl ds bs) {x : Directive} {b : Binding} (hb : b ∈ bs)
    (other : x.attribute? ≠ some b.attr) :
    b.directives = (ds ++ [x]).filter fun y => y.attribute? == some b.attr := by
  rw [List.filter_append, ← h.lines b hb]
  simp [other]

/-- A line that enters no binding. -/
theorem passed (h : Collects decl ds bs) {x : Directive} (other : ¬ Enabled bs x)
    (family : ∀ a, x.attribute? = some a → Stands decl a → ∃ b ∈ bs, b.attr.base = a.base) :
    Collects decl (ds ++ [x]) bs := by
  refine ⟨h.distinct, h.stands, fun b hb => h.lines_append hb fun named => other ⟨b, hb, named⟩,
    fun y hy a hya stands => ?_, h.ordered_append x⟩
  rcases List.mem_append.1 hy with hy | hy
  · exact h.families y hy a hya stands
  · rw [List.mem_singleton.1 hy] at hya
    exact family a hya stands

section Entered

variable {v : Validation} {x : Directive} {a : Attribute} (h : Collects decl ds v.bindings)
  (named : x.attribute? = some a) (stands : Stands decl a)
include h named stands

omit named in
/-- No line before the first one of a family names that family. -/
theorem unseen (fresh : ∀ b ∈ v.bindings, b.attr.base ≠ a.base) : ∀ y ∈ ds, y.attribute? ≠ some a := by
  intro y hy hya
  obtain ⟨b, hb, base⟩ := h.families y hy a hya stands
  exact fresh b hb base

theorem opened (fresh : ∀ b ∈ v.bindings, b.attr.base ≠ a.base) :
    Collects decl (ds ++ [x]) (v.bindings ++ [⟨a, x, []⟩]) := by
  have unseen := h.unseen stands fresh
  refine ⟨?_, fun b hb => ?_, fun b hb => ?_, fun y hy c hyc stands' => ?_, ?_⟩
  · rw [List.map_append, List.nodup_append]
    refine ⟨h.distinct, by simp, fun f hf g hg => ?_⟩
    obtain ⟨b, hb, rfl⟩ := List.mem_map.1 hf
    rw [List.map_singleton, List.mem_singleton] at hg
    rw [hg]
    exact fresh b hb
  · rcases List.mem_append.1 hb with hb | hb
    · exact h.stands b hb
    · rw [List.mem_singleton.1 hb]
      exact stands
  · rcases List.mem_append.1 hb with hb | hb
    · refine h.lines_append hb fun same => fresh b hb ?_
      rw [named] at same
      rw [← Option.some.inj same]
    · rw [List.mem_singleton.1 hb]
      have none_before : ds.filter (fun y => y.attribute? == some a) = [] :=
        List.filter_eq_nil_iff.2 fun y hy same => unseen y hy (beq_iff_eq.1 same)
      simp [Binding.directives, none_before, named]
  · rcases List.mem_append.1 hy with hy | hy
    · obtain ⟨b, hb, base⟩ := h.families y hy c hyc stands'
      exact ⟨b, by simp [hb], base⟩
    · rw [List.mem_singleton.1 hy, named] at hyc
      exact ⟨⟨a, x, []⟩, by simp, by rw [← Option.some.inj hyc]⟩
  · have new : x ∉ ds := fun old => unseen x old named
    exact pairwise_idxOf_concat (c := ⟨a, x, []⟩) (fun _ hb => (h.first_mem hb).1) h.ordered new

omit h named stands in
/-- One more line of a binding changes the attribute and the first line of no binding. -/
theorem map_extend {α : Type} (v : Validation) (x : Directive) (f : AttributeBase) (part : Binding → α)
    (same : ∀ b more, part { b with more } = part b) : (v.extend x f).bindings.map part = v.bindings.map part := by
  unfold extend
  rw [List.map_map]
  refine List.map_congr_left fun b _ => ?_
  dsimp only [Function.comp]
  split
  · exact same b _
  · rfl

omit stands in
theorem extended {b : Binding} (hb : b ∈ v.bindings) (same : b.attr = a) :
    Collects decl (ds ++ [x]) (v.extend x a.base).bindings := by
  have attrs := map_extend v x a.base Binding.attr fun _ _ => rfl
  refine ⟨?_, fun c' hc' => ?_, fun c' hc' => ?_, fun y hy c hyc stands' => ?_, ?_⟩
  · rw [map_extend v x a.base (fun b => b.attr.base) fun _ _ => rfl]
    exact h.distinct
  · obtain ⟨c, hc, eq⟩ := List.mem_map.1 (attrs ▸ List.mem_map_of_mem hc' : c'.attr ∈ v.bindings.map Binding.attr)
    rw [← eq]
    exact h.stands c hc
  · obtain ⟨c, hc, rfl⟩ := List.mem_map.1 hc'
    split
    · next base =>
      obtain rfl : c = b := h.eq_of_base_eq hc hb (by rw [base, same])
      rw [List.filter_append, ← h.lines c hc]
      simp [Binding.directives, named, same]
    · next base =>
      refine h.lines_append hc fun other => base ?_
      rw [named] at other
      rw [← Option.some.inj other]
  · have old : ∃ d ∈ v.bindings, d.attr.base = c.base := by
      rcases List.mem_append.1 hy with hy | hy
      · exact h.families y hy c hyc stands'
      · rw [List.mem_singleton.1 hy, named] at hyc
        exact ⟨b, hb, by rw [same, Option.some.inj hyc]⟩
    obtain ⟨d, hd, base⟩ := old
    obtain ⟨d', hd', eq⟩ := List.mem_map.1 (attrs ▸ List.mem_map_of_mem hd : d.attr ∈ _)
    exact ⟨d', hd', by rw [eq, base]⟩
  · have places := map_extend v x a.base (fun b => (ds ++ [x]).idxOf b.first) fun _ _ => rfl
    exact List.pairwise_map.1 (places ▸ List.pairwise_map.2 (h.ordered_append x))

end Entered

end Collects

/-! ## All lines of a declaration -/

/-- The line is left to an enum, or names the attribute of a binding. -/
def Settled (decl : Declaration) (bs : List Binding) (x : Directive) : Prop := Defers decl x ∨ Enabled bs x

instance (decl : Declaration) (bs : List Binding) (x : Directive) : Decidable (Settled decl bs x) :=
  inferInstanceAs (Decidable (_ ∨ _))

theorem enabled_append {bs cs : List Binding} {x : Directive} : Enabled (bs ++ cs) x ↔ Enabled bs x ∨ Enabled cs x := by
  simp only [Enabled, List.mem_append, or_and_right, exists_or]

theorem enabled_iff_of_map_eq {bs cs : List Binding} (same : bs.map Binding.attr = cs.map Binding.attr)
    {x : Directive} : Enabled bs x ↔ Enabled cs x := by
  have spelled : ∀ ds : List Binding, Enabled ds x ↔ ∃ a ∈ ds.map Binding.attr, x.attribute? = some a := by
    simp [Enabled]
  rw [spelled, spelled, same]

/-- One line is settled without an error or leaves one error, at its name; the lines before it stay as they are. -/
structure TakenUp (decl : Declaration) (ds : List Directive) (v : Validation) (x : Directive) (v' : Validation) :
    Prop where
  collects : Collects decl (ds ++ [x]) v'.bindings
  before : ∀ y ∈ ds, (Settled decl v'.bindings y ↔ Settled decl v.bindings y)
  outcome : BlamesUnless (Settled decl v'.bindings x) v x v'

theorem Collects.placed {decl : Declaration} {ds : List Directive} {v v' : Validation} {x : Directive} {a : Attribute}
    (h : Collects decl ds v.bindings) (named : x.attribute? = some a) (placed : Placed decl v x a v') :
    TakenUp decl ds v x v' := by
  cases placed with
  | deferred hd =>
    have defers : Defers decl x := ⟨a, named, hd⟩
    refine ⟨h.passed (h.not_enabled_of_defers defers) fun c hc stands => ?_, fun _ _ => Iff.rfl,
      .inl ⟨.inl defers, rfl⟩⟩
    rw [named] at hc
    obtain rfl := Option.some.inj hc
    exact absurd stands hd.not_stands
  | opened stands fresh =>
    -- no line before names this attribute, so the new binding concerns only the line that opens it
    refine ⟨h.opened named stands fresh, fun y hy => ?_, .inl ⟨.inr ⟨⟨a, x, []⟩, by simp, named⟩, rfl⟩⟩
    refine or_congr_right ?_
    rw [enabled_append]
    simp [Enabled, h.unseen stands fresh y hy]
  | @extended b stands hb same =>
    have attrs := map_extend v x a.base Binding.attr fun _ _ => rfl
    refine ⟨h.extended named hb same, fun y _ => or_congr_right (enabled_iff_of_map_eq attrs), .inl ⟨.inr ?_, rfl⟩⟩
    exact (enabled_iff_of_map_eq attrs).2 ⟨b, hb, by rw [named, same]⟩
  | refused fault place homeless taken =>
    -- a binding of the same attribute would have taken the line: the family is enabled in its other form, or not at all
    have other : ¬ Enabled v.bindings x := by
      rintro ⟨c, hc, named'⟩
      rw [named] at named'
      obtain rfl := Option.some.inj named'
      obtain ⟨b, hb, base, form⟩ := taken (h.stands c hc)
      exact form (by rw [h.eq_of_base_eq hb hc base])
    have unsettled : ¬ Settled decl v.bindings x := by
      rintro (⟨c, hc, deferred⟩ | enabled)
      · rw [named] at hc
        obtain rfl := Option.some.inj hc
        exact homeless deferred
      · exact other enabled
    refine ⟨h.passed other fun c hc stands => ?_, fun _ _ => Iff.rfl, .inr ⟨unsettled, v.blames_report fault.1 place⟩⟩
    rw [named] at hc
    obtain rfl := Option.some.inj hc
    obtain ⟨b, hb, base, -⟩ := taken stands
    exact ⟨b, hb, base⟩

/-- **One more line.** -/
theorem Collects.step {decl : Declaration} {ds : List Directive} {v : Validation} (h : Collects decl ds v.bindings)
    (x : Directive) : TakenUp decl ds v x (v.step decl x) := by
  obtain ⟨same, ⟨unknown, nothing, blamed⟩ | ⟨a, named, found, errors⟩⟩ := lookup_spec v x
  · rw [step_of_unknown nothing]
    have unsettled : ∀ bs, ¬ Settled decl bs x := by
      rintro bs (⟨a, named, -⟩ | ⟨b, -, named⟩) <;> simp [unknown] at named
    refine ⟨?_, by simp [same], .inr ⟨unsettled _, blamed⟩⟩
    rw [same]
    exact h.passed (fun enabled => unsettled _ (.inr enabled)) (by simp [unknown])
  · rw [step_of_known found]
    rw [← same] at h
    obtain ⟨collects, before, outcome⟩ := h.placed named (place_spec decl (v.lookup x).1 x a)
    exact ⟨collects, by rwa [same] at before, outcome.of_errors_eq errors⟩

theorem collects_foldl (decl : Declaration) (ds : List Directive) :
    Collects decl ds (ds.foldl (step decl) {}).bindings := by
  induction ds using List.reverseRecOn with
  | nil => exact ⟨List.nodup_nil, by simp, by simp, by simp, List.Pairwise.nil⟩
  | append_singleton ds x ih =>
    -- lines are taken up from the front, so the last one is the step
    rw [List.foldl_append]
    exact (ih.step x).collects

/-- **Where the errors of the lines are.** Each line that is not settled leaves one error, at its name; the other lines
leave none. -/
theorem errors_foldl (decl : Declaration) (ds : List Directive) :
    (ds.foldl (step decl) {}).errors.map Diagnostic.span =
      (ds.filter fun x => ¬ Settled decl (ds.foldl (step decl) {}).bindings x).map Directive.nameSpan := by
  induction ds using List.reverseRecOn with
  | nil => rfl
  | append_singleton ds x ih =>
    have collects := collects_foldl decl ds
    rw [List.foldl_append, List.foldl_cons, List.foldl_nil, List.filter_append]
    generalize ds.foldl (step decl) {} = v at collects ih ⊢
    obtain ⟨-, before, outcome⟩ := collects.step x
    -- one more line opens or extends a binding, but never settles a line before it
    have same_before : ds.filter (fun y => ¬ Settled decl (v.step decl x).bindings y) =
        ds.filter fun y => ¬ Settled decl v.bindings y :=
      List.filter_congr fun y hy => decide_eq_decide.2 (not_congr (before y hy))
    rw [same_before, List.map_append, ← ih, outcome.spans, map_filter_singleton]

end Validation

end DocAccessors
