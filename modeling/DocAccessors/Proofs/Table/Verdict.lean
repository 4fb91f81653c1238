import DocAccessors.Proofs.Table.Account
import DocAccessors.Proofs.Table.Content
import Mathlib.Data.List.Forall2

/-!
# The verdict on a declaration

* `reported base d`: all that is found in the declaration `d`, errors and warnings, in order;
* `Resolver.gather_eq`: a resolver gathers the tables of the bindings, the errors among what is reported, and the rest
  as warnings after those that it holds already;
* `Resolver.process_all_or_nothing`: a declaration gives one table for each binding, or no table and its errors.
-/

namespace DocAccessors

namespace Resolve

/-- The table of a binding, if it is made. -/
def table? (r : Result DocTable × List Diagnostic) : Option DocTable := r.1.toOption

/-- What is reported about a binding: its warnings, and the problems that prevent its table. -/
def reports (r : Result DocTable × List Diagnostic) : List Diagnostic :=
  r.2 ++ match r.1 with
    | .ok _ => []
    | .error f => Failure.diagnosticsOf (some f)

/-- All that is found in a declaration. -/
def reported (base : Settings) (d : Declaration) : List Diagnostic :=
  (Validation.ofDeclaration d).found ++
    (Validation.ofDeclaration d).bindings.flatMap fun b => reports (resolveBinding base d b)

theorem fault_or_remark_of_reported {base : Settings} {d : Declaration} :
    ∀ x ∈ reported base d, x.IsFault ∨ x.IsRemark := by
  intro x hx
  rcases List.mem_append.1 hx with hx | hx
  · exact Validation.isClear_ofDeclaration d x hx
  · obtain ⟨b, -, hx⟩ := List.mem_flatMap.1 hx
    rcases List.mem_append.1 hx with hx | hx
    · exact .inr (isRemark_of_resolveBinding base d b x hx)
    · left
      split at hx
      · cases hx
      · next f hf => exact (reports_resolveBinding base d b f hf).diagnosticsOf.2 x hx

end Resolve

/-! ## Gathering -/

namespace Gathered

open Resolve (table? reports)

/-- The warnings about a binding are no errors, so sorting all its reports leaves them where they are. -/
theorem step_eq {r : Resolve.Result DocTable × List Diagnostic} (own : ∀ w ∈ r.2, w.isError = false) (g : Gathered) :
    g.step r =
      { tables := g.tables ++ (table? r).toList
        errors := g.errors ++ (reports r).filter Diagnostic.isError
        warnings := g.warnings ++ (reports r).filter fun x => !x.isError } := by
  obtain ⟨made, ws⟩ := r
  have errors : ws.filter Diagnostic.isError = [] :=
    List.filter_eq_nil_iff.2 fun w hw => by simp [own w hw]
  have warnings : ws.filter (fun x => !x.isError) = ws :=
    List.filter_eq_self.2 fun w hw => by simp [own w hw]
  cases made with
  | ok t => simp [step, table?, reports, Except.toOption, errors, warnings]
  | error f => simp [step, collect, table?, reports, Except.toOption, errors, warnings]

theorem foldl_step (rs : List (Resolve.Result DocTable × List Diagnostic))
    (own : ∀ r ∈ rs, ∀ w ∈ r.2, w.isError = false) (g : Gathered) :
    rs.foldl step g =
      { tables := g.tables ++ rs.filterMap table?
        errors := g.errors ++ (rs.flatMap reports).filter Diagnostic.isError
        warnings := g.warnings ++ (rs.flatMap reports).filter fun x => !x.isError } := by
  induction rs generalizing g with
  | nil => simp
  | cons r rs ih =>
    rw [List.foldl_cons, step_eq (own r (by simp)), ih fun r' hr' => own r' (by simp [hr'])]
    cases made : table? r <;> simp [made]

end Gathered

namespace Resolver

open Resolve

theorem gather_eq (r : Resolver) (d : Declaration) :
    r.gather d =
      { tables := (Validation.ofDeclaration d).bindings.filterMap fun b => table? (resolveBinding r.base d b)
        errors := (reported r.base d).filter Diagnostic.isError
        warnings := r.warnings ++ (reported r.base d).filter fun x => !x.isError } := by
  unfold gather
  dsimp only
  rw [Gathered.foldl_step]
  · simp [Gathered.collect, reported, List.filterMap_map, List.flatMap_map]
  · intro x hx w hw
    obtain ⟨b, -, rfl⟩ := List.mem_map.1 hx
    exact (isRemark_of_resolveBinding r.base d b w hw).1

/-- The warnings wait behind those that the resolver holds already. -/
theorem warnings_process (r : Resolver) (d : Declaration) :
    (r.process d).2.warnings = r.warnings ++ (reported r.base d).filter fun x => !x.isError := by
  simp [process, gather_eq]

theorem process_of_error {r : Resolver} {d : Declaration} (h : ∃ x ∈ reported r.base d, x.isError = true) :
    (r.process d).1 = { failure := some (.diagnosed ((reported r.base d).filter Diagnostic.isError)) } := by
  obtain ⟨x, hx, he⟩ := h
  have found : ((reported r.base d).filter Diagnostic.isError).any Diagnostic.isError = true :=
    List.any_eq_true.2 ⟨x, List.mem_filter.2 ⟨hx, he⟩, he⟩
  simp only [process, gather_eq, Gathered.verdict, Failure.ofDiagnostics?, found, if_true]

/-- A declaration without errors gives a table for each binding. -/
theorem process_of_clear {r : Resolver} {d : Declaration} (h : ∀ x ∈ reported r.base d, x.isError = false) :
    (r.process d).1 =
      { tables := (Validation.ofDeclaration d).bindings.filterMap fun b => table? (resolveBinding r.base d b) } := by
  have none_found : (reported r.base d).filter Diagnostic.isError = [] :=
    List.filter_eq_nil_iff.2 fun x hx => by simp [h x hx]
  simp [process, gather_eq, Gathered.verdict, Failure.ofDiagnostics?, none_found]

/-- A binding whose failure is reported as an error has a table when no error is reported. -/
theorem made_of_clear {base : Settings} {d : Declaration} (h : ∀ x ∈ reported base d, x.isError = false)
    {b : Binding} (hb : b ∈ (Validation.ofDeclaration d).bindings) :
    ∃ t, (resolveBinding base d b).1 = .ok t := by
  cases made : (resolveBinding base d b).1 with
  | ok t => exact ⟨t, rfl⟩
  | error f =>
    obtain ⟨some_fault, faults⟩ := (reports_resolveBinding base d b f made).diagnosticsOf
    obtain ⟨x, hx⟩ := List.exists_mem_of_ne_nil _ some_fault
    have inReports : x ∈ reports (resolveBinding base d b) := by
      simp [reports, made, hx]
    have clear := h x (List.mem_append_right _ (List.mem_flatMap.2 ⟨b, hb, inReports⟩))
    rw [(faults x hx).1] at clear
    cases clear

theorem forall₂_filterMap {α β : Type} {f : α → Option β} {R : α → β → Prop} {as : List α}
    (h : ∀ a ∈ as, ∃ b, f a = some b ∧ R a b) : List.Forall₂ R as (as.filterMap f) := by
  induction as with
  | nil => exact .nil
  | cons a as ih =>
    obtain ⟨b, hb, hr⟩ := h a (by simp)
    rw [List.filterMap_cons_some hb]
    exact .cons hr (ih fun a' ha' => h a' (by simp [ha']))

theorem tables_of_clear {r : Resolver} {d : Declaration} (h : ∀ x ∈ reported r.base d, x.isError = false) :
    List.Forall₂ (fun b t => (resolveBinding r.base d b).1 = .ok t) (Validation.ofDeclaration d).bindings
      (r.process d).1.tables := by
  rw [process_of_clear h]
  refine forall₂_filterMap fun b hb => ?_
  obtain ⟨t, ht⟩ := made_of_clear h hb
  exact ⟨t, by simp [table?, ht, Except.toOption], ht⟩

theorem exists_binding_of_mem_tables {r : Resolver} {d : Declaration} {t : DocTable}
    (ht : t ∈ (r.process d).1.tables) :
    ∃ b ∈ (Validation.ofDeclaration d).bindings, (resolveBinding r.base d b).1 = .ok t := by
  by_cases h : ∃ x ∈ reported r.base d, x.isError = true
  · rw [process_of_error h] at ht
    cases ht
  · rw [process_of_clear (by simpa using h)] at ht
    obtain ⟨b, hb, made⟩ := List.mem_filterMap.1 ht
    refine ⟨b, hb, ?_⟩
    cases hr : (resolveBinding r.base d b).1 with
    | ok t' => simpa [table?, hr, Except.toOption] using made
    | error f => simp [table?, hr, Except.toOption] at made

theorem decl_of_mem_tables {r : Resolver} {d : Declaration} {t : DocTable} (ht : t ∈ (r.process d).1.tables) :
    t.decl = d := by
  obtain ⟨b, -, made⟩ := exists_binding_of_mem_tables ht
  exact (attribute_of_resolveBinding made).2.2.2

theorem documents_itself {a : AttributeBase}
    (h : a.name = AttributeBase.docsConst.name ∨ a.name = AttributeBase.documented.name) : a.levels.member = none := by
  rcases h with h | h <;> rw [eq_of_name_eq h] <;> rfl

/-- **A declaration is resolved whole or not at all.** Either it is rejected with all errors that are reported, of which
there is one at least, and without a table; or each binding has its table, in order. Whatever else is reported goes
to the warnings, no binding fails without an error, and a table has the documentation that its attribute requires. -/
theorem process_all_or_nothing (r : Resolver) (d : Declaration) :
    ((∃ ds, (r.process d).1.failure = some (.diagnosed ds) ∧ ds = (reported r.base d).filter Diagnostic.isError ∧
          ds ≠ [] ∧ (∀ x ∈ ds, x.isError = true) ∧ (r.process d).1.tables = []) ∨
      ((r.process d).1.failure = none ∧ (∀ x ∈ reported r.base d, x.isError = false) ∧
        List.Forall₂ (fun b t => (resolveBinding r.base d b).1 = .ok t ∧ t.attr = b.attr.name ∧
            t.base = b.attr.base.name ∧ t.optional = b.attr.optional ∧ t.decl = d)
          (Validation.ofDeclaration d).bindings (r.process d).1.tables)) ∧
    (r.process d).2.warnings = r.warnings ++ (reported r.base d).filter (fun x => !x.isError) ∧
    (∀ b f, (resolveBinding r.base d b).1 = .error f → ∃ x ∈ Failure.diagnosticsOf (some f), x.isError = true) ∧
    (∀ t ∈ (r.process d).1.tables, t.optional = false →
      (t.base = AttributeBase.docsConst.name ∨ t.base = AttributeBase.documented.name → t.docs.isPresent = true) ∧
      ∀ i ∈ t.items, i.docs.isPresent = true) := by
  refine ⟨?_, warnings_process r d, ?_, ?_⟩
  · by_cases h : ∃ x ∈ reported r.base d, x.isError = true
    · left
      obtain ⟨x, hx, he⟩ := h
      refine ⟨_, by rw [process_of_error ⟨x, hx, he⟩], rfl, ?_, ?_, by rw [process_of_error ⟨x, hx, he⟩]⟩
      · exact List.ne_nil_of_mem (List.mem_filter.2 ⟨hx, he⟩)
      · exact fun y hy => (List.mem_filter.1 hy).2
    · right
      have clear : ∀ x ∈ reported r.base d, x.isError = false := by simpa using h
      refine ⟨by rw [process_of_clear clear], clear, (tables_of_clear clear).imp fun b t made => ?_⟩
      exact ⟨made, attribute_of_resolveBinding made⟩
  · intro b f failed
    obtain ⟨some_fault, faults⟩ := (reports_resolveBinding r.base d b f failed).diagnosticsOf
    obtain ⟨x, hx⟩ := List.exists_mem_of_ne_nil _ some_fault
    exact ⟨x, hx, (faults x hx).1⟩
  · intro t ht strict
    obtain ⟨b, -, made⟩ := exists_binding_of_mem_tables ht
    obtain ⟨-, base, optional, -⟩ := attribute_of_resolveBinding made
    obtain ⟨own, items⟩ := isPresent_of_resolveBinding made (optional ▸ strict)
    exact ⟨fun h => own (documents_itself (base ▸ h)), items⟩

end Resolver

end DocAccessors
