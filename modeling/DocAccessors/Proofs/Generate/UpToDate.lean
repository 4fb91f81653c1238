import DocAccessors.Generate.File
import DocAccessors.Proofs.Diagnostic.Bag
import DocAccessors.Proofs.Disk.Walk
import DocAccessors.Proofs.Results

/-!
# Bringing one file up to date

Writing and comparing decide by the same three facts: what is generated, what the output path holds, and whether that
bears the mark.

* `Disk.Admits d p`: the path leads to a file, or to a free place in a directory;
* `Generator.Outcome`: what writing and comparing come to for one package. Either nothing is to be done, or the file is
  written or removed and nothing is left to be done after it, or both fail;
* `Generator.outcome`: one of the three is the case, as long as generated files bear the mark;
* `Generator.isStale_congr`: comparing looks at one place of the disk only.
-/

namespace DocAccessors

/-! ## Failures that are reported -/

/-- Adding the failure to a bag leaves an error in it. -/
def Failure.IsReported (f : Failure) : Prop := ∃ x ∈ Bag.ofFailure f, x.isError = true

theorem Bag.hasErrors_addFailure {f : Failure} (h : f.IsReported) (b : Bag) :
    (b.addFailure (some f)).hasErrors = true := by
  obtain ⟨x, hx, isError⟩ := h
  have kept : x ∈ (b.addFailure (some f)).errors := by
    rw [addFailure, errors_addAll]
    exact List.mem_append_right _ (List.mem_filter.2 ⟨hx, isError⟩)
  exact hasErrors_iff.2 ⟨x, (List.mem_filter.1 kept).1, isError⟩

theorem Failure.isReported_of_diagnostics?_eq_none {f : Failure} (h : f.diagnostics? = none) : f.IsReported := by
  refine ⟨Diagnostic.error .unknown {} f.message, ?_, rfl⟩
  simp [Bag.ofFailure, h]

theorem Failure.isReported_ofDiagnostic {x : Diagnostic} (h : x.isError = true) : (ofDiagnostic x).IsReported :=
  ⟨x, by simp [Bag.ofFailure, ofDiagnostic, diagnostics?], h⟩

/-! ## Paths that can be written to -/

namespace Disk

variable {d d' : Disk} {p : Text} {l : Location}

/-- The path leads to a file, or to a free place in a directory. -/
def Admits (d : Disk) (p : Text) : Prop := ∃ l, d.locate p = .ok l ∧ d.get? l ≠ some .directory

/-- What a file that a place holds consists of. -/
def contents? (d : Disk) (l : Location) : Option Text :=
  match d.get? l with
  | some (.file c) => some c
  | _ => none

theorem read?_eq (h : d.locate p = .ok l) : d.read? p = d.contents? l := by
  cases held : d.get? l with
  | none => simp [read?, read, stat, contents?, h, held, during, bind, Except.bind, Except.mapError, Except.toOption]
  | some e =>
    cases e <;>
      simp [read?, read, stat, contents?, h, held, during, bind, Except.bind, Except.mapError, Except.toOption]

theorem isFile_eq (h : d.locate p = .ok l) : d.isFile p = (d.contents? l).isSome := by
  cases held : d.get? l with
  | none => simp [isFile, stat, contents?, h, held, bind, Except.bind, Except.toOption]
  | some e =>
    cases e <;> simp [isFile, stat, contents?, h, held, bind, Except.bind, Except.toOption, Entry.isDirectory]

/-- A path that leads to a place which is no directory does not end with a slash. -/
theorem getLast?_ne_slash (h : d.locate p = .ok l) (free : d.get? l ≠ some .directory) : p.getLast? ≠ some 47 := by
  intro last
  obtain ⟨a, rfl⟩ : ∃ a, p = a ++ [47] := by
    obtain ⟨ne, rfl⟩ := List.getLast?_eq_some_iff.1 last
    exact ⟨_, rfl⟩
  rw [locate_eq (by simp), steps_slash] at h
  obtain ⟨k, -, here⟩ := walk_append_ok h
  obtain ⟨rfl, dir⟩ := walk_dot here
  exact free dir

theorem write_eq (h : d.locate p = .ok l) (free : d.get? l ≠ some .directory) (c : Text) :
    d.write p c = .ok (d.put l (.file c)) := by
  have last : (p.getLast? == some 47) = false := by simpa using getLast?_ne_slash h free
  have place : d.writable p = .ok l := by
    cases held : d.get? l with
    | none => simp [writable, last, h, held, bind, Except.bind, pure, Except.pure]
    | some e =>
      cases e with
      | file c => simp [writable, last, h, held, bind, Except.bind, pure, Except.pure]
      | directory => exact absurd held free
  simp [write, place, during, Except.mapError, bind, Except.bind, pure, Except.pure]

theorem remove_eq {c : Text} (h : d.locate p = .ok l) (held : d.contents? l = some c) : d.remove p = .ok (d.erase l) := by
  have file : d.get? l = some (.file c) := by
    unfold contents? at held
    split at held
    · next c' found => rw [found, Option.some.inj held]
    · cases held
  simp [remove, h, file, during, Except.mapError, bind, Except.bind, pure, Except.pure]

theorem contents?_put (ne : l ≠ []) (c : Text) : (d.put l (.file c)).contents? l = some c := by
  simp [contents?, get?_put_self d l _ ne]

theorem contents?_erase (ne : l ≠ []) : (d.erase l).contents? l = none := by
  simp [contents?, get?_erase_self d l ne]

theorem ne_root (free : d.get? l ≠ some .directory) : l ≠ [] := by
  rintro rfl
  exact free rfl

end Disk

namespace Generator

open Disk (Admits SameBut)

variable {g : Generator} {d d' : Disk} {r : PackageResult}

/-! ## What is generated -/

theorem isReported_of_emitTable {t : DocTable} {f : Failure} (h : g.emitTable t = .error f) : f.IsReported := by
  unfold emitTable at h
  split at h
  · cases h
    exact Failure.isReported_ofDiagnostic rfl
  · split at h
    · cases h
    · cases h
      exact Failure.isReported_ofDiagnostic rfl

theorem isReported_of_generate {f : Failure} (h : g.generate r = .error f) : f.IsReported := by
  unfold generate at h
  split at h
  · cases h
  · cases parts : r.tables.mapM g.emitTable with
    | error e =>
      simp only [parts, bind, Except.bind] at h
      cases h
      obtain ⟨t, -, failed⟩ := exists_of_mapM_error parts
      exact isReported_of_emitTable failed
    | ok ps =>
      simp only [parts, bind, Except.bind, pure, Except.pure] at h
      split at h
      · cases h
      · cases h
        exact Failure.isReported_ofDiagnostic rfl

theorem path_of_generate {f : GeneratedFile} (h : g.generate r = .ok (some f)) : f.path = g.path r := by
  unfold generate at h
  split at h
  · cases h
  · cases parts : r.tables.mapM g.emitTable with
    | error e =>
      simp only [parts, bind, Except.bind] at h
      cases h
    | ok ps =>
      simp only [parts, bind, Except.bind, pure, Except.pure] at h
      split at h
      · cases h
        rfl
      · cases h
        
/-! ## One package -/

/-- The generated file of a package, if there is one, bears the mark. -/
def Marks (g : Generator) (r : PackageResult) : Prop := ∀ f, g.generate r = .ok (some f) → bearsMark f.content = true

/-- What comparing and writing come to for a package. -/
inductive Outcome (g : Generator) (d : Disk) (r : PackageResult) : Prop where
  /-- There is nothing to do. -/
  | settled (compared : g.isStale d r = .ok false) (written : g.write d r = .ok (none, d))
  /-- The file is written or removed, and is up to date after that. -/
  | touched {d' : Disk} {l : Location} (compared : g.isStale d r = .ok true)
    (written : g.write d r = .ok (some (g.path r), d')) (leads : d.locate (g.path r) = .ok l)
    (rest : SameBut (· = l) d d') (after : g.isStale d' r = .ok false)
  /-- Both fail. -/
  | refused {f f' : Failure} (compared : g.isStale d r = .error f) (written : g.write d r = .error f')
    (reported : f.IsReported) (reported' : f'.IsReported)

theorem isStale_of_error {f : Failure} (h : g.generate r = .error f) : g.isStale d r = .error f := by
  simp [isStale, h, bind, Except.bind]

theorem write_of_error {f : Failure} (h : g.generate r = .error f) : g.write d r = .error f := by
  simp [write, h, bind, Except.bind]

theorem isStale_of_none (h : g.generate r = .ok none) :
    g.isStale d r = .ok ((d.read? (g.path r)).any bearsMark) := by
  simp [isStale, h, bind, Except.bind, pure, Except.pure]

theorem write_of_none (h : g.generate r = .ok none) : g.write d r = clear d (g.path r) := by
  simp [write, h, bind, Except.bind]

theorem isStale_of_some {f : GeneratedFile} (h : g.generate r = .ok (some f)) :
    g.isStale d r = match d.read? (g.path r) with
      | none => .ok true
      | some c => if bearsMark c then .ok (c != f.content) else .error (.context (g.path r) notGenerated) := by
  simp only [isStale, h, bind, Except.bind, pure, Except.pure]
  cases d.read? (g.path r) <;> rfl

theorem write_of_some {f : GeneratedFile} (h : g.generate r = .ok (some f)) : g.write d r = store d f := by
  simp [write, h, bind, Except.bind]

/-- Comparing looks at the contents at the output path only. -/
theorem isStale_congr (h : d'.read? (g.path r) = d.read? (g.path r)) : g.isStale d' r = g.isStale d r := by
  unfold isStale
  rw [h]

/-- Nothing is generated: a file that bears the mark is left over, and is removed. -/
theorem outcome_of_none {l : Location} (leads : d.locate (g.path r) = .ok l) (free : d.get? l ≠ some .directory)
    (made : g.generate r = .ok none) : g.Outcome d r := by
  have held := Disk.read?_eq leads
  cases owned : owns d (g.path r) with
  | false =>
    refine .settled ?_ ?_
    · rw [isStale_of_none made, ← owned, owns]
    · rw [write_of_none made, clear, owned]
      rfl
  | true =>
    obtain ⟨c, contents⟩ : ∃ c, d.contents? l = some c := by
      rw [owns, held, Option.any_eq_true] at owned
      obtain ⟨c, contents, -⟩ := owned
      exact ⟨c, contents⟩
    have rest : SameBut (· = l) d (d.erase l) := Disk.sameBut_erase free
    refine .touched ?_ ?_ leads rest ?_
    · rw [isStale_of_none made, ← owned, owns]
    · rw [write_of_none made, clear, owned, Disk.remove_eq leads contents]
      rfl
    · rw [isStale_of_none made, Disk.read?_eq (rest.locate leads), Disk.contents?_erase (Disk.ne_root free)]
      rfl

/-- A file is generated: it is written unless the path holds it already, or a file without the mark. -/
theorem outcome_of_some {l : Location} {f : GeneratedFile} (leads : d.locate (g.path r) = .ok l)
    (free : d.get? l ≠ some .directory) (made : g.generate r = .ok (some f)) (mark : bearsMark f.content = true) :
    g.Outcome d r := by
  have held := Disk.read?_eq leads
  have path := path_of_generate made
  have rest := Disk.sameBut_put free f.content
  have after : g.isStale (d.put l (.file f.content)) r = .ok false := by
    rw [isStale_of_some made, Disk.read?_eq (rest.locate leads), Disk.contents?_put (Disk.ne_root free)]
    simp [mark]
  have stored : (d.read? (g.path r) == some f.content) = false → (d.isFile (g.path r) && !owns d (g.path r)) = false →
      g.write d r = .ok (some (g.path r), d.put l (.file f.content)) := by
    intro differs owned
    rw [write_of_some made, store, path, differs, owned, Disk.ensureDirectory_dir leads free]
    simp [Disk.write_eq leads free]
  cases contents : d.contents? l with
  | none =>
    rw [contents] at held
    refine .touched ?_ (stored ?_ ?_) leads rest after
    · rw [isStale_of_some made, held]
    · rw [held]
      rfl
    · rw [Disk.isFile_eq leads, contents]
      rfl
  | some c =>
    rw [contents] at held
    by_cases same : c = f.content
    · subst same
      refine .settled ?_ ?_
      · rw [isStale_of_some made, held]
        simp [mark]
      · rw [write_of_some made, store, path, held]
        simp
    · have differs : (d.read? (g.path r) == some f.content) = false := by
        rw [held]
        simpa using same
      cases owned : bearsMark c with
      | true =>
        refine .touched ?_ (stored differs ?_) leads rest after
        · rw [isStale_of_some made, held]
          simp [owned, same]
        · rw [owns, held]
          simp [owned]
      | false =>
        have compared : g.isStale d r = .error (.context (g.path r) notGenerated) := by
          rw [isStale_of_some made, held]
          simp [owned]
        have written : g.write d r = .error (.context (text "refusing to overwrite " ++ g.path r) notGenerated) := by
          rw [write_of_some made, store, path, differs, Disk.isFile_eq leads, contents, owns, held]
          simp [owned]
        exact .refused compared written (Failure.isReported_of_diagnostics?_eq_none rfl)
          (Failure.isReported_of_diagnostics?_eq_none rfl)

/-- **Writing and comparing agree on one package.** -/
theorem outcome (admits : d.Admits (g.path r)) (marks : g.Marks r) : g.Outcome d r := by
  obtain ⟨l, leads, free⟩ := admits
  cases made : g.generate r with
  | error f =>
    have reported := isReported_of_generate made
    exact .refused (isStale_of_error made) (write_of_error made) reported reported
  | ok file =>
    cases file with
    | none => exact outcome_of_none leads free made
    | some f => exact outcome_of_some leads free made (marks f made)

end Generator

end DocAccessors
