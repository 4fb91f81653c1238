import DocAccessors.Proofs.Table.Account
import DocAccessors.Proofs.Table.Verdict

/-!
# What validation accepts

Which directives are accepted does not depend on how they are taken up one after the other.

* `Validation.Coherent decl ds`: each of the lines `ds` stands on the declaration `decl` by right or is left to its
  enum, and no family of attributes is enabled in two forms; `Validation.Collects.settled_iff_coherent`: the bindings
  that collect the lines settle all of them exactly then;
* `Validation.Sorts decl ds bs`: the bindings `bs` sort the lines `ds` by their attributes;
* `Validation.isClean_ofDeclaration_iff`: validation finds no error exactly when the lines of the declaration are
  coherent and those of its members suit; `Validation.sorts_ofDeclaration`: its bindings then sort the lines;
* `Resolver.process_succeeds_iff`: a declaration is resolved when validation finds no error and each binding has a
  table; `Resolver.nodup_tables`: it has at most one table of each family.
-/

namespace DocAccessors

/-- What is on the right of two related lists has a partner on the left. -/
theorem exists_of_forall₂ {R : α → β → Prop} {as : List α} {bs : List β} (h : List.Forall₂ R as bs) {b : β}
    (hb : b ∈ bs) : ∃ a ∈ as, R a b := by
  induction h with
  | nil => cases hb
  | cons related _ ih =>
    rcases List.mem_cons.1 hb with rfl | hb
    · exact ⟨_, List.mem_cons_self, related⟩
    · obtain ⟨a, ha, related⟩ := ih hb
      exact ⟨a, List.mem_cons_of_mem _ ha, related⟩

namespace Validation

/-- Nothing that was found is an error. -/
def IsClean (v : Validation) : Prop := ∀ x ∈ v.found, x.isError = false

theorem isClean_iff_errors {v : Validation} : v.IsClean ↔ v.errors.map Diagnostic.span = [] := by
  simp [IsClean, errors, List.filter_eq_nil_iff]

/-! ## All lines of a declaration -/

/-- Each line stands on the declaration by right or is left to its enum, and no family is enabled in two forms. -/
structure Coherent (decl : Declaration) (ds : List Directive) : Prop where
  known : ∀ x ∈ ds, ∃ a, x.attribute? = some a ∧ (Deferred decl a ∨ Stands decl a)
  oneForm : ∀ x ∈ ds, ∀ y ∈ ds, ∀ a c, x.attribute? = some a → y.attribute? = some c → Stands decl a →
    a.base = c.base → a = c

/-- The bindings sort the lines by their attributes: no line that stands on the declaration is left out. -/
structure Sorts (decl : Declaration) (ds : List Directive) (bs : List Binding) : Prop
    extends Collects decl ds bs where
  complete : ∀ x ∈ ds, ∀ a, x.attribute? = some a → Stands decl a → ∃ b ∈ bs, b.attr = a

variable {decl : Declaration} {ds : List Directive} {bs : List Binding}

/-- A family is enabled when a line that stands on the declaration names it. -/
theorem Collects.exists_binding_iff (h : Collects decl ds bs) {f : AttributeBase} :
    (∃ b ∈ bs, b.attr.base = f) ↔ ∃ x ∈ ds, ∃ a, x.attribute? = some a ∧ Stands decl a ∧ a.base = f := by
  constructor
  · rintro ⟨b, hb, rfl⟩
    obtain ⟨x, hx, named⟩ := h.exists_line hb
    exact ⟨x, hx, b.attr, named, h.stands b hb, rfl⟩
  · rintro ⟨x, hx, a, named, stands, rfl⟩
    exact h.families x hx a named stands

/-- Bindings that collect coherent lines leave none out. -/
theorem Collects.sorts (h : Collects decl ds bs) (coherent : Coherent decl ds) : Sorts decl ds bs := by
  refine ⟨h, fun x hx a named stands => ?_⟩
  obtain ⟨b, hb, base⟩ := h.families x hx a named stands
  obtain ⟨y, hy, line⟩ := h.exists_line hb
  exact ⟨b, hb, (coherent.oneForm x hx y hy a b.attr named line stands base.symm).symm⟩

/-- **Lines are settled by the bindings that collect them exactly when they are coherent.** -/
theorem Collects.settled_iff_coherent (h : Collects decl ds bs) :
    (∀ x ∈ ds, Settled decl bs x) ↔ Coherent decl ds := by
  constructor
  · intro settled
    -- a line that stands on the declaration cannot be left to an enum
    have entered : ∀ x ∈ ds, ∀ a, x.attribute? = some a → Stands decl a → ∃ b ∈ bs, b.attr = a := by
      intro x hx a named stands
      rcases settled x hx with ⟨c, hc, deferred⟩ | ⟨b, hb, named'⟩
      · rw [named, Option.mem_some] at hc
        exact absurd stands (hc ▸ deferred).not_stands
      · exact ⟨b, hb, by rw [named] at named'; exact (Option.some.inj named').symm⟩
    refine ⟨fun x hx => ?_, fun x hx y hy a c ha hc stands same => ?_⟩
    · rcases settled x hx with ⟨a, named, deferred⟩ | ⟨b, hb, named⟩
      · exact ⟨a, named, .inl deferred⟩
      · exact ⟨b.attr, named, .inr (h.stands b hb)⟩
    · obtain ⟨b, hb, rfl⟩ := entered x hx a ha stands
      obtain ⟨d, hd, rfl⟩ := entered y hy c hc (stands.of_base_eq same)
      rw [h.eq_of_base_eq hb hd same]
  · intro coherent x hx
    obtain ⟨a, named, deferred | stands⟩ := coherent.known x hx
    · exact .inl ⟨a, named, deferred⟩
    · obtain ⟨b, hb, rfl⟩ := (h.sorts coherent).complete x hx a named stands
      exact .inr ⟨b, hb, named⟩

/-! ## Declarations -/

/-- **When validation finds no error.** -/
theorem isClean_ofDeclaration_iff : (ofDeclaration decl).IsClean ↔ Coherent decl decl.directives ∧
    ∀ m ∈ decl.members, ∀ x ∈ m.directives, Suits (ofDeclaration decl).bindings m x := by
  rw [isClean_iff_errors, errors_ofDeclaration, List.append_eq_nil_iff,
    ← (collects_ofDeclaration decl).settled_iff_coherent]
  simp [unsuited, List.filter_eq_nil_iff]

theorem sorts_of_coherent (coherent : Coherent decl decl.directives) :
    Sorts decl decl.directives (ofDeclaration decl).bindings :=
  (collects_ofDeclaration decl).sorts coherent

/-- **The bindings of a declaration without errors sort its lines.** -/
theorem sorts_ofDeclaration (clean : (ofDeclaration decl).IsClean) :
    Sorts decl decl.directives (ofDeclaration decl).bindings :=
  sorts_of_coherent (isClean_ofDeclaration_iff.1 clean).1

end Validation

/-! ## Verdicts -/

namespace Resolver

open Resolve

theorem failure_eq_none_iff {r : Resolver} {d : Declaration} :
    (r.process d).1.failure = none ↔ ∀ x ∈ reported r.base d, x.isError = false := by
  by_cases h : ∃ x ∈ reported r.base d, x.isError = true
  · rw [process_of_error h]
    obtain ⟨x, hx, error⟩ := h
    refine ⟨fun succeeded => ?_, fun clear => ?_⟩
    · cases succeeded
    · rw [clear x hx] at error
      cases error
  · have clear : ∀ x ∈ reported r.base d, x.isError = false := by simpa using h
    rw [process_of_clear clear]
    exact ⟨fun _ => clear, fun _ => rfl⟩

/-- **When a declaration is resolved.** -/
theorem process_succeeds_iff {r : Resolver} {d : Declaration} : (r.process d).1.failure = none ↔
    (Validation.ofDeclaration d).IsClean ∧
      ∀ b ∈ (Validation.ofDeclaration d).bindings, ∃ t, (resolveBinding r.base d b).1 = .ok t := by
  rw [failure_eq_none_iff]
  constructor
  · exact fun clear => ⟨fun x hx => clear x (List.mem_append_left _ hx), fun b hb => made_of_clear clear hb⟩
  · rintro ⟨clean, made⟩ x hx
    rcases List.mem_append.1 hx with hx | hx
    · exact clean x hx
    · obtain ⟨b, hb, hx⟩ := List.mem_flatMap.1 hx
      obtain ⟨t, ht⟩ := made b hb
      rw [reports, ht, List.append_nil] at hx
      exact (isRemark_of_resolveBinding r.base d b x hx).1

theorem failure_of_mem_tables {r : Resolver} {d : Declaration} {t : DocTable} (ht : t ∈ (r.process d).1.tables) :
    (r.process d).1.failure = none := by
  rw [failure_eq_none_iff]
  by_contra rejected
  simp only [not_forall, Bool.not_eq_false] at rejected
  obtain ⟨x, hx, error⟩ := rejected
  rw [process_of_error ⟨x, hx, error⟩] at ht
  cases ht

theorem mem_tables_of_made {r : Resolver} {d : Declaration} (succeeded : (r.process d).1.failure = none) {b : Binding}
    (hb : b ∈ (Validation.ofDeclaration d).bindings) {t : DocTable} (made : (resolveBinding r.base d b).1 = .ok t) :
    t ∈ (r.process d).1.tables := by
  rw [process_of_clear (failure_eq_none_iff.1 succeeded)]
  exact List.mem_filterMap.2 ⟨b, hb, by simp [table?, made, Except.toOption]⟩

theorem nodup_tables (r : Resolver) (d : Declaration) : ((r.process d).1.tables.map (·.base)).Nodup := by
  by_cases succeeded : (r.process d).1.failure = none
  · have clear := failure_eq_none_iff.1 succeeded
    have clean := (process_succeeds_iff.1 succeeded).1
    have bases : (r.process d).1.tables.map (·.base) =
        ((Validation.ofDeclaration d).bindings.map fun b => b.attr.base).map AttributeBase.name := by
      rw [List.map_map, eq_comm, ← List.forall₂_eq_eq_eq, List.forall₂_map_left_iff, List.forall₂_map_right_iff]
      exact (tables_of_clear clear).imp fun b t made => (attribute_of_resolveBinding made).2.1.symm
    rw [bases]
    exact (Validation.sorts_ofDeclaration clean).distinct.map fun a b => eq_of_name_eq
  · have none_made : (r.process d).1.tables = [] :=
      List.eq_nil_iff_forall_not_mem.2 fun t ht => succeeded (failure_of_mem_tables ht)
    rw [none_made]
    exact List.nodup_nil

end Resolver

end DocAccessors
