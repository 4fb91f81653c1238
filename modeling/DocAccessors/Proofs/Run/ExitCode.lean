import DocAccessors.CommandLine.Execute
import DocAccessors.Proofs.Diagnostic.Accounting
import DocAccessors.Proofs.Diagnostic.Report

/-!
# What the exit code depends on

Before the diagnostics of a run are told, the bags of all packages are merged into one, and the exit code is decided by
that one bag. The limit of the bag grows as it is filled, so nothing that decides is lost.

* `Bag.merge_of_room`: merging keeps everything as long as a bag can hold it;
* `Bag.errors_foldl_merge`, `Bag.foldl_merge_of_room`: merging many bags keeps every error, and everything as long as a
  bag can hold it;
* `CommandLine.code_report`: the exit code is read off the merged bag, sorted or not, if that can be told;
* `Resolution.merged_diagnostics`: so it is read off the bags of the packages.
-/

namespace DocAccessors

/-! ## Merging bags -/

namespace Bag

variable {b other : Bag}

theorem addAll_of_room {ds : List Diagnostic} (room : b.size + ds.length ≤ b.cap) :
    b.addAll ds = { b with items := b.items ++ ds } := by
  induction ds generalizing b with
  | nil => simp
  | cons d ds ih =>
    rw [List.length_cons] at room
    have accepted : b.accepts d = true := by
      have free : b.items.length < b.cap := by
        rw [size] at room
        omega
      simp [accepts, free]
    rw [addAll_cons, add_of_accepts accepted, ih]
    · simp
    · simp only [size, List.length_append, List.length_singleton] at room ⊢
      omega

theorem size_le_mergedCap (fits : b.size + other.size ≤ limit) : b.size + other.size ≤ b.mergedCap other := by
  unfold mergedCap
  split <;> omega

/-- Merging keeps everything when a bag can hold it, whatever the limit was before. -/
theorem merge_of_room (fits : b.size + other.size ≤ limit) :
    (b.merge other).items = b.items ++ other.items ∧ (b.merge other).omitted = b.omitted + other.omitted := by
  rw [merge_eq, addAll_of_room (size_le_mergedCap fits)]
  exact ⟨rfl, rfl⟩

theorem errors_foldl_merge (b : Bag) (bs : List Bag) :
    (bs.foldl merge b).errors = b.errors ++ bs.flatMap errors := by
  induction bs generalizing b with
  | nil => simp
  | cons other bs ih => rw [List.foldl_cons, ih, errors_merge, List.flatMap_cons, List.append_assoc]

theorem foldl_merge_of_room {bs : List Bag} (fits : b.size + (bs.map size).sum ≤ limit) :
    (bs.foldl merge b).items = b.items ++ bs.flatMap items ∧
      (bs.foldl merge b).omitted = b.omitted + (bs.map omitted).sum := by
  induction bs generalizing b with
  | nil => simp
  | cons other bs ih =>
    rw [List.map_cons, List.sum_cons] at fits
    obtain ⟨items, omitted⟩ := merge_of_room (show b.size + other.size ≤ limit by omega)
    have size : (b.merge other).size = b.size + other.size := by
      rw [Bag.size, items, List.length_append]
      rfl
    obtain ⟨all, counted⟩ := ih (b := b.merge other) (by omega)
    rw [List.foldl_cons, all, counted, items, omitted]
    simp [Nat.add_assoc]

/-- Sorting does not change whether there are errors, or warnings. -/
theorem any_sort (files : Option FileSet) (b : Bag) (p : Diagnostic → Bool) :
    (b.sort files).items.any p = b.items.any p :=
  (items_sort_perm files b).any_eq

end Bag

/-! ## Runs -/

namespace Resolution

theorem diagnostics_eq (r : Resolution) (limit : Int) :
    r.diagnostics limit = (r.packages.map (·.bag)).foldl Bag.merge (Bag.empty limit) := by
  rw [diagnostics, List.foldl_map]

theorem hasErrors_diagnostics (r : Resolution) (limit : Int) : (r.diagnostics limit).hasErrors = r.hasErrors := by
  rw [Bool.eq_iff_iff, Bag.hasErrors_iff_errors, diagnostics_eq, Bag.errors_foldl_merge, Bag.errors_empty,
    List.nil_append, Ne, List.flatMap_eq_nil_iff, hasErrors, List.any_eq_true]
  simp only [List.mem_map, forall_exists_index, and_imp, forall_apply_eq_imp_iff₂, Bag.hasErrors_iff_errors]
  exact Classical.not_forall.trans (exists_congr fun p => Classical.not_imp)

theorem diagnostics_of_room {r : Resolution} (fits : (r.packages.map fun p => p.bag.size).sum ≤ Bag.limit) (limit : Int) :
    (r.diagnostics limit).items = r.packages.flatMap (fun p => p.bag.items) ∧
      (r.diagnostics limit).omitted = (r.packages.map fun p => p.bag.omitted).sum := by
  have room : (Bag.empty limit).size + ((r.packages.map (·.bag)).map Bag.size).sum ≤ Bag.limit := by
    rw [List.map_map]
    exact Nat.le_trans (Nat.le_of_eq (Nat.zero_add _)) fits
  obtain ⟨items, omitted⟩ := Bag.foldl_merge_of_room room
  rw [← diagnostics_eq, List.flatMap_map, List.map_map] at *
  exact ⟨items.trans (List.nil_append _), omitted.trans (Nat.zero_add _)⟩

end Resolution

namespace CommandLine

variable {c : Configuration} {r : Resolution} {o : Outcome} {t : Text}

/-- The exit code is read off the merged bag, if that can be told: it is 1 when the bag has errors or, in a strict run,
warnings. -/
theorem code_report [Text.Widths] (rendered : (reportContext c r o.disk).bag (reportBag c r) = .ok t) (strict : Bool) :
    (report c r strict o).code =
      if (r.diagnostics c.diagnosticLimit).hasErrors || (strict && (r.diagnostics c.diagnosticLimit).hasWarnings)
      then 1 else o.code := by
  simp only [report, rendered, apply_ite Outcome.code]
  simp only [reportBag, Bag.hasErrors, Bag.hasWarnings, Bag.any_sort]
  rfl

theorem fault_report [Text.Widths] (c : Configuration) (r : Resolution) (strict : Bool) {o : Outcome} (running : o.fault = none) :
    (report c r strict o).fault = none ↔ ∃ t, (reportContext c r o.disk).bag (reportBag c r) = .ok t := by
  rw [report]
  cases (reportContext c r o.disk).bag (reportBag c r) with
  | error f => simp [Outcome.crash]
  | ok t => simp [Outcome.fail, Outcome.tell, running, apply_ite Outcome.fault]

end CommandLine

namespace Resolution

open CommandLine (report reportBag reportContext)

/-- **Merging the bags of all packages loses nothing that decides the exit code.** Whatever the limit, the merged bag has
errors exactly when the bag of some package has. While a bag can hold all diagnostics together, it holds them all, in the
order of the packages, and adds up what they have omitted. A report ends with a fault exactly when the diagnostics cannot
be written. When they can, it fails exactly when a package has errors and, in a strict run up to that number, when a
package has warnings or errors. -/
theorem merged_diagnostics [Text.Widths] (r : Resolution) :
    (∀ limit, (r.diagnostics limit).hasErrors = true ↔ ∃ p ∈ r.packages, p.bag.hasErrors = true) ∧
    ((r.packages.map fun p => p.bag.size).sum ≤ 65535 → ∀ limit,
      (r.diagnostics limit).items = r.packages.flatMap (fun p => p.bag.items) ∧
        (r.diagnostics limit).omitted = (r.packages.map fun p => p.bag.omitted).sum) ∧
    ∀ (c : Configuration) (o : Outcome), o.fault = none →
      (∀ strict, (report c r strict o).fault = none ↔ ∃ t, (reportContext c r o.disk).bag (reportBag c r) = .ok t) ∧
      ((∃ t, (reportContext c r o.disk).bag (reportBag c r) = .ok t) →
        (report c r false o).code = (if r.hasErrors then 1 else o.code) ∧
        ((r.packages.map fun p => p.bag.size).sum ≤ 65535 →
          (report c r true o).code = if r.packages.any (fun p => p.bag.hasWarnings) then 1 else o.code)) := by
  refine ⟨fun limit => ?_, diagnostics_of_room, fun c o running =>
    ⟨fun strict => CommandLine.fault_report c r strict running, fun ⟨t, rendered⟩ => ⟨?_, fun fits => ?_⟩⟩⟩
  · rw [hasErrors_diagnostics, hasErrors, List.any_eq_true]
  · rw [CommandLine.code_report rendered, hasErrors_diagnostics, Bool.false_and, Bool.or_false]
  · -- an error counts among the warnings, so the warnings decide alone
    have warnings : (r.diagnostics c.diagnosticLimit).hasWarnings = r.packages.any fun p => p.bag.hasWarnings := by
      rw [Bag.hasWarnings, (diagnostics_of_room fits c.diagnosticLimit).1, List.any_flatMap]
      rfl
    have errors : (r.diagnostics c.diagnosticLimit).hasErrors = true →
        (r.diagnostics c.diagnosticLimit).hasWarnings = true := by
      simp only [Bag.hasErrors, Bag.hasWarnings, List.any_eq_true]
      rintro ⟨d, hd, error⟩
      refine ⟨d, hd, ?_⟩
      rw [Diagnostic.isError, beq_iff_eq] at error
      rw [Diagnostic.isWarning, error]
      rfl
    rw [CommandLine.code_report rendered, Bool.true_and, ← warnings]
    cases some_error : (r.diagnostics c.diagnosticLimit).hasErrors with
    | true => rw [errors some_error, Bool.true_or]
    | false => rw [Bool.false_or]

/-- A package without errors and one with a warning that stands nowhere. -/
def warned : Resolution where
  packages := [
    { name := "silent", dir := "/silent", files := {}, tables := [], bag := Bag.empty 10 },
    { name := "warned", dir := "/warned", files := {}, tables := [],
      bag := (Bag.empty 1).add (.warning .unknownOption {} "attribute is deprecated") }]

theorem merged_diagnostics_warned :
    (report .builtin warned false { disk := {} }).code = 0 ∧ (report .builtin warned true { disk := {} }).code = 1 := by
  have rendered : ∃ t, (reportContext .builtin warned {}).bag (reportBag .builtin warned) = .ok t := by
    refine Report.Context.exists_bag_iff.2 fun d hd => Report.Context.exists_diagnostic_iff.2 fun s hs q quoted => ?_
    have none_quoted : ∀ d ∈ (reportBag .builtin warned).items, ∀ s ∈ d.spans,
        (reportContext .builtin warned {}).quoted? s = none := by
      decide +kernel
    rw [none_quoted d hd s hs] at quoted
    cases quoted
  have codes := ((merged_diagnostics warned).2.2 .builtin { disk := {} } rfl).2 rendered
  refine ⟨codes.1.trans ?_, (codes.2 (by decide)).trans ?_⟩
  · decide
  · decide

end Resolution

end DocAccessors
