import DocAccessors.Proofs.Diagnostic.Bag
import DocAccessors.Proofs.Table.Verdict

/-!
# Declarations are independent

A resolver holds warnings until they are taken, and all declarations of a package share one bag with a limit. Neither
lets one declaration change what another comes to.

* `Progress.step_eq`: one declaration, taken up by a resolver that holds no warnings, adds its own tables and reports
  and leaves such a resolver behind;
* `Resolver.processAll_independent`: so the tables of a list of declarations, and their errors, are those of each
  declaration alone, one after the other.
-/

namespace DocAccessors

open Resolve

/-- The errors of a declaration by itself. -/
def errorsAlone (base : Settings) (d : Declaration) : List Diagnostic :=
  Failure.diagnosticsOf (processDeclaration base d).failure

namespace Resolver

theorem process_failure {r : Resolver} {d : Declaration} {f : Failure} (h : (r.process d).1.failure = some f) :
    f.IsFaulty ∧ (r.process d).1.tables = [] := by
  by_cases some_error : ∃ x ∈ reported r.base d, x.isError = true
  · rw [process_of_error some_error] at h ⊢
    injection h with h
    subst h
    obtain ⟨x, hx, he⟩ := some_error
    refine ⟨Failure.isFaulty_diagnosed (List.ne_nil_of_mem (List.mem_filter.2 ⟨hx, he⟩)) fun y hy => ?_, rfl⟩
    obtain ⟨hy, error⟩ := List.mem_filter.1 hy
    rcases fault_or_remark_of_reported y hy with fault | remark
    · exact fault
    · rw [remark.1] at error
      cases error
  · rw [process_of_clear (by simpa using some_error)] at h
    cases h

end Resolver

/-! ## One declaration -/

namespace Progress

/-- What the bag of a package takes of a declaration. -/
def takeReports (b : Bag) (p : Processed) : Bag := (b.addAll p.warnings).addFailure p.failure

theorem step_eq {p : Progress} {base : Settings} (hp : p.resolver = { base }) (d : Declaration) :
    p.step d =
      { resolver := { base }
        tables := p.tables ++ (processDeclaration base d).tables
        bag := takeReports p.bag (processDeclaration base d) } := by
  unfold step takeReports processDeclaration Resolver.takeWarnings
  rw [hp]
  dsimp only
  have stays : ({ ((({ base } : Resolver).process d).2) with warnings := [] } : Resolver) = { base } := rfl
  cases hf : (({ base } : Resolver).process d).1.failure with
  | none => rfl
  | some f => simp [(Resolver.process_failure hf).2, stays]

theorem errors_takeReports (b : Bag) (base : Settings) (d : Declaration) :
    (takeReports b (processDeclaration base d)).errors = b.errors ++ errorsAlone base d := by
  have warnings : (processDeclaration base d).warnings.filter Diagnostic.isError = [] := by
    have := Resolver.warnings_process { base } d
    refine List.filter_eq_nil_iff.2 fun w hw => ?_
    change w ∈ (({ base } : Resolver).process d).2.warnings at hw
    rw [this, List.nil_append] at hw
    simpa using (List.mem_filter.1 hw).2
  unfold takeReports errorsAlone
  cases hf : (processDeclaration base d).failure with
  | none => simp [Bag.addFailure, Bag.errors_addAll, warnings, Failure.diagnosticsOf]
  | some f => rw [Bag.errors_addFailure (Resolver.process_failure hf).1, Bag.errors_addAll, warnings, List.append_nil]

end Progress

/-! ## Many declarations -/

namespace Resolver

theorem foldl_step_eq {base : Settings} (ds : List Declaration) {p : Progress} (hp : p.resolver = { base }) :
    ds.foldl Progress.step p =
      { resolver := { base }
        tables := p.tables ++ ds.flatMap fun d => (processDeclaration base d).tables
        bag := (ds.map (processDeclaration base)).foldl Progress.takeReports p.bag } := by
  induction ds generalizing p with
  | nil => simp [← hp]
  | cons d ds ih => simp [Progress.step_eq hp, ih]

theorem errors_foldl_takeReports (base : Settings) (ds : List Declaration) (b : Bag) :
    ((ds.map (processDeclaration base)).foldl Progress.takeReports b).errors =
      b.errors ++ ds.flatMap (errorsAlone base) := by
  induction ds generalizing b with
  | nil => simp
  | cons d ds ih => simp [ih, Progress.errors_takeReports]

theorem processAll_eq (base : Settings) (ds : List Declaration) (b : Bag) :
    ({ base } : Resolver).processAll ds b =
      { resolver := { base }
        tables := ds.flatMap fun d => (processDeclaration base d).tables
        bag := (ds.map (processDeclaration base)).foldl Progress.takeReports b } := by
  unfold processAll
  rw [foldl_step_eq ds rfl, List.nil_append]

/-- **Declarations are independent.** Declarations that are resolved together have the tables that each has alone, in
order, and add the errors that each has alone; no warning waits in the resolver afterwards. So whatever stands between
the declarations before and those after, failing or not, these keep their tables and their errors. -/
theorem processAll_independent (base : Settings) (b : Bag) :
    (∀ ds, (({ base } : Resolver).processAll ds b).resolver = { base } ∧
      (({ base } : Resolver).processAll ds b).tables =
        ds.flatMap (fun d => (({ base } : Resolver).process d).1.tables) ∧
      (({ base } : Resolver).processAll ds b).bag.errors =
        b.errors ++ ds.flatMap (fun d => Failure.diagnosticsOf (({ base } : Resolver).process d).1.failure)) ∧
    ∀ before mid after limit,
      let alone (ds : List Declaration) := ({ base } : Resolver).processAll ds (Bag.empty limit)
      (({ base } : Resolver).processAll (before ++ mid ++ after) b).tables =
        (alone before).tables ++ (alone mid).tables ++ (alone after).tables ∧
      (({ base } : Resolver).processAll (before ++ mid ++ after) b).bag.errors =
        b.errors ++ ((alone before).bag.errors ++ (alone mid).bag.errors ++ (alone after).bag.errors) := by
  refine ⟨fun ds => ?_, fun before mid after limit => ?_⟩
  · rw [processAll_eq]
    exact ⟨rfl, rfl, errors_foldl_takeReports base ds b⟩
  · simp only [processAll_eq, errors_foldl_takeReports, List.flatMap_append, Bag.errors_empty, List.nil_append,
      and_self]

end Resolver

end DocAccessors
