import DocAccessors.Proofs.Table.Independence

/-!
# The report on a package

The bag of a package has a limit, and repetitions are dropped from it by code, position and message. Still no error
gets lost: the limit holds for warnings only, and no warning says what an error says.

* `isFault_of_mem_errorsAlone`, `isRemark_of_mem_warnings`: what a declaration reports;
* `exists_error_of_fault`: an error in a bag of faults and remarks still has an error that says the same after
  repetitions are dropped;
* `Resolver.exists_error_report`, `Resolver.hasErrors_report_iff`: the errors of a package are those of its
  declarations.
-/

namespace DocAccessors

open Resolve

theorem isFault_of_mem_errorsAlone {base : Settings} {d : Declaration} {x : Diagnostic} (h : x ∈ errorsAlone base d) :
    x.IsFault := by
  unfold errorsAlone at h
  cases hf : (processDeclaration base d).failure with
  | none => simp [hf, Failure.diagnosticsOf] at h
  | some f =>
    rw [hf] at h
    exact (Resolver.process_failure hf).1.diagnosticsOf.2 x h

theorem isRemark_of_mem_warnings {base : Settings} {d : Declaration} {x : Diagnostic}
    (h : x ∈ (processDeclaration base d).warnings) : x.IsRemark := by
  change x ∈ (({ base } : Resolver).process d).2.warnings at h
  rw [Resolver.warnings_process, List.nil_append] at h
  obtain ⟨hx, minor⟩ := List.mem_filter.1 h
  rcases fault_or_remark_of_reported x hx with fault | remark
  · rw [fault.1] at minor
    cases minor
  · exact remark

theorem exists_mem_errorsAlone {base : Settings} {d : Declaration} {f : Failure}
    (h : (processDeclaration base d).failure = some f) : ∃ x, x ∈ errorsAlone base d := by
  unfold errorsAlone
  rw [h]
  exact List.exists_mem_of_ne_nil _ (Resolver.process_failure h).1.diagnosticsOf.1

/-! ## Bags of faults and remarks -/

/-- Everything in the bag is a fault or a remark. -/
def Bag.IsClear (b : Bag) : Prop := ∀ x ∈ b.items, x.IsFault ∨ x.IsRemark

theorem Bag.IsClear.takeReports {b : Bag} (hb : b.IsClear) (base : Settings) (d : Declaration) :
    (Progress.takeReports b (processDeclaration base d)).IsClear := by
  have warned : (b.addAll (processDeclaration base d).warnings).IsClear := by
    intro x hx
    rcases Bag.mem_of_mem_addAll hx with hx | hx
    · exact hb x hx
    · exact .inr (isRemark_of_mem_warnings hx)
  unfold Progress.takeReports
  cases hf : (processDeclaration base d).failure with
  | none => exact warned
  | some f =>
    intro x hx
    rcases Bag.mem_of_mem_addFailure (Resolver.process_failure hf).1 hx with hx | hx
    · exact warned x hx
    · have faulty : ∀ x ∈ errorsAlone base d, x.IsFault := fun x => isFault_of_mem_errorsAlone
      rw [errorsAlone, hf] at faulty
      exact .inl (faulty x hx)

theorem Bag.IsClear.foldl_takeReports {b : Bag} (hb : b.IsClear) (base : Settings) (ds : List Declaration) :
    ((ds.map (processDeclaration base)).foldl Progress.takeReports b).IsClear := by
  induction ds generalizing b with
  | nil => exact hb
  | cons d ds ih => exact ih (hb.takeReports base d)

/-- An error is never dropped in favour of a warning: what says the same is an error as well. -/
theorem exists_error_of_fault {b : Bag} (hb : b.IsClear) {x : Diagnostic} (hx : x ∈ b.items) (fault : x.IsFault) :
    ∃ y ∈ b.dedup.items, y.isError = true ∧ y.code = x.code ∧ y.span.pos = x.span.pos ∧ y.message = x.message := by
  obtain ⟨y, hy, alike⟩ := Bag.exists_same_dedup hx
  obtain ⟨code, pos, message⟩ := Bag.said_eq_iff.1 (Bag.same_iff_said.1 alike)
  refine ⟨y, hy, ?_, code.symm, pos.symm, message.symm⟩
  rcases hb y (Bag.mem_of_mem_dedup hy) with h | remark
  · exact h.1
  · exact absurd ⟨code, message⟩ (fault.ne_remark remark)

/-! ## The report -/

namespace Resolver

variable (base : Settings) (ds : List Declaration) (limit : Int) (files : FileSet)

/-- The bag of a package before repetitions are dropped. -/
theorem report_bag : (({ base } : Resolver).report ds limit files).2 =
    (((ds.map (processDeclaration base)).foldl Progress.takeReports (Bag.empty limit)).dedup).sort (some files) := by
  unfold report
  rw [processAll_eq]

variable {base ds limit files}

theorem exists_error_report {d : Declaration} (hd : d ∈ ds) {x : Diagnostic} (hx : x ∈ errorsAlone base d) :
    ∃ y ∈ (({ base } : Resolver).report ds limit files).2.items,
      y.isError = true ∧ y.code = x.code ∧ y.span.pos = x.span.pos ∧ y.message = x.message := by
  have clear : (Bag.empty limit).IsClear := by
    intro y hy
    cases hy
  have kept : x ∈ ((ds.map (processDeclaration base)).foldl Progress.takeReports (Bag.empty limit)).errors := by
    rw [errors_foldl_takeReports]
    exact List.mem_append_right _ (List.mem_flatMap.2 ⟨d, hd, hx⟩)
  obtain ⟨y, hy, alike⟩ := exists_error_of_fault (clear.foldl_takeReports base ds) (List.mem_filter.1 kept).1
    (isFault_of_mem_errorsAlone hx)
  rw [report_bag]
  exact ⟨y, Bag.mem_sort.2 hy, alike⟩

theorem exists_declaration_of_error {y : Diagnostic} (hy : y ∈ (({ base } : Resolver).report ds limit files).2.items)
    (error : y.isError = true) : ∃ d ∈ ds, y ∈ errorsAlone base d := by
  rw [report_bag, Bag.mem_sort] at hy
  have kept : y ∈ ((ds.map (processDeclaration base)).foldl Progress.takeReports (Bag.empty limit)).errors :=
    List.mem_filter.2 ⟨Bag.mem_of_mem_dedup hy, error⟩
  rw [errors_foldl_takeReports, Bag.errors_empty, List.nil_append] at kept
  exact List.mem_flatMap.1 kept

/-- **A package has errors exactly when a declaration is rejected.** -/
theorem hasErrors_report_iff : (({ base } : Resolver).report ds limit files).2.hasErrors = true ↔
    ∃ d ∈ ds, (processDeclaration base d).failure ≠ none := by
  rw [Bag.hasErrors_iff]
  constructor
  · rintro ⟨y, hy, error⟩
    obtain ⟨d, hd, hy⟩ := exists_declaration_of_error hy error
    refine ⟨d, hd, fun clear => ?_⟩
    simp [errorsAlone, clear, Failure.diagnosticsOf] at hy
  · rintro ⟨d, hd, rejected⟩
    obtain ⟨f, hf⟩ := Option.ne_none_iff_exists'.1 rejected
    obtain ⟨x, hx⟩ := exists_mem_errorsAlone hf
    obtain ⟨y, hy, error, -⟩ := exists_error_report hd hx
    exact ⟨y, hy, error⟩

end Resolver

end DocAccessors
