import DocAccessors.Proofs.Table.Report
import DocAccessors.Run.Basic

/-!
# The gate before generation

Nothing is written for a package in which a declaration is rejected. `Resolution.writeAll_congr` says that writing
depends on what the writer does to packages without errors only; `Resolution.error_gate` puts it together with the
report on a package.
-/

namespace DocAccessors

/-- The errors of a resolved package are those of the report on its declarations. -/
theorem processPackage_bag (c : Configuration) (p : Package) :
    (processPackage c p).bag =
      (({ base := c.settings } : Resolver).report (p.declarations c) c.diagnosticLimit p.fileSet).2 := rfl

namespace Resolution

theorem writeAll_congr {write write' : Writer} (ps : List PackageResult)
    (h : ∀ p ∈ ps, p.bag.hasErrors = false → ∀ d, write d p = write' d p) (d : Disk) :
    writeAll write d ps = writeAll write' d ps := by
  induction ps generalizing d with
  | nil => rfl
  | cons p ps ih =>
    have rest := fun d => ih (fun q hq => h q (by simp [hq])) d
    unfold writeAll
    cases gate : p.bag.hasErrors with
    | true => simp only [if_true, rest]
    | false => simp only [h p (by simp) gate d, rest]

/-- **The error gate is exact.** Whatever the limit of the bag, a package has errors exactly when one of its
declarations is rejected, and every error of a rejected declaration is still there, or another error that says the
same at the same place. So no file is written for a package with a rejected declaration: any other way to write the
files of such packages gives the same run. -/
theorem error_gate (base : Settings) (ds : List Declaration) (limit : Int) (files : FileSet) :
    ((({ base } : Resolver).report ds limit files).2.hasErrors = true ↔
      ∃ d ∈ ds, (({ base } : Resolver).process d).1.failure ≠ none) ∧
    (∀ d ∈ ds, ∀ f, (({ base } : Resolver).process d).1.failure = some f →
      ∀ x ∈ Failure.diagnosticsOf (some f), ∃ y ∈ (({ base } : Resolver).report ds limit files).2.items,
        y.isError = true ∧ y.code = x.code ∧ y.span.pos = x.span.pos ∧ y.message = x.message) ∧
    ∀ (c : Configuration) (ps : List Package) (disk : Disk) (write : Writer),
      (∀ p ∈ ps, (∀ d ∈ p.declarations c, ((Resolver.ofConfiguration c).process d).1.failure = none) →
        ∀ disk, (generatorOf c).write disk (processPackage c p) = write disk (processPackage c p)) →
      let written := writeAll write disk (ps.map (processPackage c))
      generate { packages := ps.map (processPackage c), files } c disk =
        (written.1, { packages := written.2.1, files }, written.2.2) := by
  refine ⟨Resolver.hasErrors_report_iff, fun d hd f hf x hx => ?_, fun c ps disk write h => ?_⟩
  · refine Resolver.exists_error_report hd ?_
    change x ∈ Failure.diagnosticsOf (({ base } : Resolver).process d).1.failure
    rwa [hf]
  · have same : writeAll (generatorOf c).write disk (ps.map (processPackage c)) =
        writeAll write disk (ps.map (processPackage c)) := by
      refine writeAll_congr _ (fun r hr clear => ?_) disk
      obtain ⟨p, hp, rfl⟩ := List.mem_map.1 hr
      refine h p hp fun d hd => ?_
      by_contra rejected
      rw [processPackage_bag, Resolver.hasErrors_report_iff.2 ⟨d, hd, rejected⟩] at clear
      cases clear
    dsimp only
    rw [generate, same]

end Resolution

end DocAccessors
