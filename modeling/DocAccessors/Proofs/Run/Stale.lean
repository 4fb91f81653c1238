import DocAccessors.Proofs.Generate.UpToDate
import DocAccessors.Proofs.Table.Accepted
import DocAccessors.Run.Basic

/-!
# Comparing predicts writing

A run over packages with different output files does for each package what comparing said before the run, and
comparing has nothing left to say after it.

* `Resolution.Written`: what is known of a run over packages, by what comparing says at its start;
* `Resolution.written`: every run is like that, by induction on the packages: the file of one package is at a place
  that comparing and writing for the others do not look at;
* `Resolution.Ready`: the packages that this is about; with absolute directories, output paths that are different texts
  are different files (`Resolution.Ready.ofAbsolute`);
* `Resolution.stale_predicts_generate`: the two commands agree.
-/

namespace DocAccessors

namespace Disk

variable {d d' : Disk} {places : Location → Prop} {p : Text}

theorem SameBut.locate_eq (h : SameBut places d d') (admits : d.Admits p) : d'.locate p = d.locate p := by
  obtain ⟨l, leads, -⟩ := admits
  rw [leads, h.locate leads]

theorem SameBut.admits (h : SameBut places d d') (admits : d.Admits p) : d'.Admits p := by
  obtain ⟨l, leads, free⟩ := admits
  exact ⟨l, h.locate leads, fun dir => free ((h.directories l).1 dir)⟩

/-- A path to a place where the disks are the same holds the same on both. -/
theorem SameBut.read?_eq {l : Location} (h : SameBut places d d') (leads : d.locate p = .ok l) (other : ¬ places l) :
    d'.read? p = d.read? p := by
  rw [Disk.read?_eq leads, Disk.read?_eq (h.locate leads), contents?, contents?, h.same l other]

/-- The output path of a package in an absolute directory spells the place that it leads to. -/
theorem pathOf_of_generator {g : Generator} {r : PackageResult} {l : Location} (abs : Path.isAbs r.dir = true)
    (h : d.locate (g.path r) = .ok l) : g.path r = pathOf l := by
  obtain ⟨b, rest, cons⟩ := List.exists_cons_of_ne_nil (l := r.dir) fun empty => by simp [Path.isAbs, empty] at abs
  have shape : ∃ x, g.path r = Path.clean x ∧ Path.isAbs x = true := by
    have first : b = 47 := by simpa [Path.isAbs, cons] using abs
    cases out : g.output.isEmpty with
    | true => exact ⟨r.dir, by simp [Generator.path, Path.join, cons, out, Text.join], abs⟩
    | false =>
      refine ⟨r.dir ++ text "/" ++ g.output, by simp [Generator.path, Path.join, cons, out, Text.join], ?_⟩
      simp [cons, Path.isAbs, first]
  obtain ⟨x, shape, abs⟩ := shape
  rw [shape] at h ⊢
  exact pathOf_of_locate abs h

end Disk

namespace Resolution

open Generator (Marks Outcome)
open Disk (SameBut)

variable {g : Generator} {d : Disk}

/-- What a package without errors becomes in a run that starts on the disk `d`: it gets an error exactly when
comparing fails, and stays as it is otherwise. -/
inductive Kept (g : Generator) (d : Disk) (p : PackageResult) : PackageResult → Prop where
  | same {b : Bool} (compared : g.isStale d p = .ok b) : Kept g d p p
  | rejected {q : PackageResult} {f : Failure} (compared : g.isStale d p = .error f) (reported : f.IsReported)
    (errors : q.bag.hasErrors = true) : Kept g d p q

/-- What writing the packages `ps` on the disk `d` comes to: paths, packages and the disk after it. -/
structure Written (g : Generator) (d : Disk) (ps : List PackageResult)
    (w : List Text × List PackageResult × Disk) : Prop where
  paths : w.1 = (ps.filter fun p => (inspect g d p).1).map g.path
  packages : List.Forall₂ (Kept g d) ps w.2.1
  rest : SameBut (fun l => ∃ p ∈ ps, d.locate (g.path p) = .ok l) d w.2.2
  settled : ∀ p ∈ ps, ∀ b, g.isStale d p = .ok b → g.isStale w.2.2 p = .ok false

theorem inspect_of_ok {p : PackageResult} {b : Bool} (clear : p.bag.hasErrors = false) (h : g.isStale d p = .ok b) :
    inspect g d p = (b, p) := by
  simp [inspect, clear, h]

theorem inspect_of_error {p : PackageResult} {f : Failure} (clear : p.bag.hasErrors = false)
    (h : g.isStale d p = .error f) : inspect g d p = (false, { p with bag := p.bag.addFailure (some f) }) := by
  simp [inspect, clear, h]

theorem inspect_congr {d' : Disk} {p : PackageResult} (h : g.isStale d' p = g.isStale d p) :
    inspect g d' p = inspect g d p := by
  unfold inspect
  rw [h]

/-- What is done for one package, and the disk after it: nothing at other places has changed. -/
theorem exists_step {p : PackageResult} {l : Location} (clear : p.bag.hasErrors = false)
    (leads : d.locate (g.path p) = .ok l) (outcome : g.Outcome d p) (ps : List PackageResult) :
    ∃ d₁ q, SameBut (· = l) d d₁ ∧ Kept g d p q ∧
      (∀ b, g.isStale d p = .ok b → g.isStale d₁ p = .ok false) ∧
      writeAll g.write d (p :: ps) =
        (([p].filter fun p => (inspect g d p).1).map g.path ++ (writeAll g.write d₁ ps).1,
          q :: (writeAll g.write d₁ ps).2.1, (writeAll g.write d₁ ps).2.2) := by
  cases outcome with
  | settled compared written =>
    refine ⟨d, p, .refl _ d, .same compared, fun _ _ => compared, ?_⟩
    · rw [writeAll]
      simp [clear, written, inspect_of_ok clear compared]
  | @touched d' l' compared written leads' rest after =>
    rw [leads, Except.ok.injEq] at leads'
    subst leads'
    refine ⟨d', p, rest, .same compared, fun _ _ => after, ?_⟩
    · rw [writeAll]
      simp [clear, written, inspect_of_ok clear compared]
  | @refused f f' compared written reported reported' =>
    refine ⟨d, { p with bag := p.bag.addFailure (some f') }, .refl _ d,
      .rejected compared reported (Bag.hasErrors_addFailure reported' p.bag), fun b hb => ?_, ?_⟩
    · rw [compared] at hb
      cases hb
    · rw [writeAll]
      simp [clear, written, inspect_of_error clear compared]

/-- **A run does what comparing said before it.** -/
theorem written {ps : List PackageResult} (clear : ∀ p ∈ ps, p.bag.hasErrors = false)
    (admits : ∀ p ∈ ps, d.Admits (g.path p))
    (distinct : ps.Pairwise fun p q => d.locate (g.path p) ≠ d.locate (g.path q)) (marks : ∀ p ∈ ps, g.Marks p) :
    Written g d ps (writeAll g.write d ps) := by
  induction ps generalizing d with
  | nil => exact ⟨rfl, .nil, .refl _ d, by simp⟩
  | cons p ps ih =>
    rw [List.pairwise_cons] at distinct
    obtain ⟨l, leads, free⟩ := admits p (by simp)
    have others : ∀ q ∈ ps, d.Admits (g.path q) := fun q hq => admits q (by simp [hq])
    obtain ⟨d₁, q, first, kept, done, step⟩ := exists_step (clear p (by simp)) leads
      (Generator.outcome ⟨l, leads, free⟩ (marks p (by simp))) ps
    -- the files of the other packages are at other places, so all is as before for them
    have located : ∀ q ∈ ps, d₁.locate (g.path q) = d.locate (g.path q) := fun q hq => first.locate_eq (others q hq)
    have elsewhere : ∀ q ∈ ps, g.isStale d₁ q = g.isStale d q := by
      intro q hq
      obtain ⟨m, leads', -⟩ := others q hq
      refine Generator.isStale_congr (first.read?_eq leads' fun same => distinct.1 q hq ?_)
      rw [leads, leads', same]
    have run := ih (d := d₁) (fun q hq => clear q (by simp [hq])) (fun q hq => first.admits (others q hq))
      (distinct.2.imp_of_mem fun hx hy ne => by rwa [located _ hx, located _ hy]) fun q hq => marks q (by simp [hq])
    rw [step]
    refine ⟨?_, .cons kept ?_, ?_, ?_⟩
    · have same : (ps.filter fun q => (inspect g d₁ q).1) = ps.filter fun q => (inspect g d q).1 :=
        List.filter_congr fun q hq => by rw [inspect_congr (elsewhere q hq)]
      change _ ++ (writeAll g.write d₁ ps).1 = _
      rw [run.paths, same, ← List.map_append, ← List.filter_append, List.singleton_append]
    · refine ((List.forall₂_and_left _ _).2 ⟨fun x hx => hx, run.packages⟩).imp ?_
      rintro x y ⟨hx, kept⟩
      cases kept with
      | same compared => exact .same (elsewhere x hx ▸ compared)
      | rejected compared reported errors => exact .rejected (elsewhere x hx ▸ compared) reported errors
    · refine (first.trans run.rest).mono ?_
      rintro m (rfl | ⟨x, hx, hm⟩)
      · exact ⟨p, by simp, leads⟩
      · exact ⟨x, by simp [hx], located x hx ▸ hm⟩
    · intro x hx b hb
      rcases List.mem_cons.1 hx with rfl | hx
      · rw [Generator.isStale_congr (run.rest.read?_eq (first.locate leads) ?_), done b hb]
        rintro ⟨y, hy, same⟩
        rw [located y hy] at same
        exact distinct.1 y hy (leads.trans same.symm)
      · exact run.settled x hx b (elsewhere x hx ▸ hb)

/-! ## Both commands -/

/-- Packages without errors, each with an output file of its own that can be written, and generated files that bear
the mark. -/
structure Ready (g : Generator) (d : Disk) (ps : List PackageResult) : Prop where
  clear : ∀ p ∈ ps, p.bag.hasErrors = false
  admits : ∀ p ∈ ps, d.Admits (g.path p)
  /-- No two output paths lead to the same place. -/
  distinct : ps.Pairwise fun p q => d.locate (g.path p) ≠ d.locate (g.path q)
  marks : ∀ p ∈ ps, g.Marks p

/-- Absolute paths that are different texts lead to different places. -/
theorem Ready.ofAbsolute {ps : List PackageResult} (clear : ∀ p ∈ ps, p.bag.hasErrors = false)
    (absolute : ∀ p ∈ ps, Path.isAbs p.dir = true) (admits : ∀ p ∈ ps, d.Admits (g.path p))
    (distinct : (ps.map g.path).Nodup) (marks : ∀ p ∈ ps, g.Marks p) : Ready g d ps where
  clear := clear
  admits := admits
  marks := marks
  distinct := by
    refine (List.pairwise_map.1 distinct).imp_of_mem fun {p q} hp hq ne same => ne ?_
    obtain ⟨l, leads, -⟩ := admits p hp
    rw [Disk.pathOf_of_generator (absolute p hp) leads, Disk.pathOf_of_generator (absolute q hq) (same ▸ leads)]

theorem stale_eq (r : Resolution) (c : Configuration) (d : Disk) (clear : ∀ p ∈ r.packages, p.bag.hasErrors = false) :
    (r.stale c d).1 = (r.packages.filter fun p => (inspect (generatorOf c) d p).1).map (·.dir) := by
  have kept : ∀ p ∈ r.packages, (inspect (generatorOf c) d p).2.dir = p.dir := by
    intro p hp
    cases compared : (generatorOf c).isStale d p with
    | ok b => rw [inspect_of_ok (clear p hp) compared]
    | error f => rw [inspect_of_error (clear p hp) compared]
  rw [stale, List.filter_map, List.map_map]
  exact List.map_congr_left fun p hp => kept p (List.mem_filter.1 hp).1

theorem Kept.hasErrors_eq {p q : PackageResult} (h : Kept g d p q) (clear : p.bag.hasErrors = false) :
    q.bag.hasErrors = (inspect g d p).2.bag.hasErrors := by
  cases h with
  | same compared => rw [inspect_of_ok clear compared]
  | rejected compared reported errors =>
    rw [inspect_of_error clear compared, errors, Bag.hasErrors_addFailure reported]

/-- After a run nothing is to be done for the packages that it has left without errors. -/
theorem Written.done {ps : List PackageResult} {w : List Text × List PackageResult × Disk} (h : Written g d ps w)
    {q : PackageResult} (hq : q ∈ w.2.1) : q.bag.hasErrors = true ∨ q ∈ ps ∧ g.isStale w.2.2 q = .ok false := by
  obtain ⟨p, hp, kept⟩ := exists_of_forall₂ h.packages hq
  cases kept with
  | same compared => exact .inr ⟨hp, h.settled q hp _ compared⟩
  | rejected _ _ errors => exact .inl errors

theorem writeAll_of_done {qs : List PackageResult}
    (h : ∀ q ∈ qs, q.bag.hasErrors = true ∨ g.write d q = .ok (none, d)) :
    writeAll g.write d qs = ([], qs, d) := by
  induction qs with
  | nil => rfl
  | cons q qs ih =>
    have rest := ih fun x hx => h x (by simp [hx])
    rw [writeAll]
    rcases h q (by simp) with errors | written
    · simp [errors, rest]
    · simp [written, rest]

theorem Ready.second {ps : List PackageResult} (ready : Ready g d ps) {q : PackageResult} (hq : q ∈ ps)
    {w : List Text × List PackageResult × Disk} (h : Written g d ps w) (settled : g.isStale w.2.2 q = .ok false) :
    g.write w.2.2 q = .ok (none, w.2.2) := by
  cases Generator.outcome (h.rest.admits (ready.admits q hq)) (ready.marks q hq) with
  | settled _ written => exact written
  | touched compared =>
    rw [settled] at compared
    cases compared
  | refused compared =>
    rw [settled] at compared
    cases compared

/-- **Comparing predicts writing.** For packages without errors and with different output files: the paths written or
removed are those of the packages that comparing would have named just before, and the packages that get an error are
those that would have got one. Right after it comparing names no package, and a second run touches no path and leaves
the disk as it is. -/
theorem stale_predicts_generate {r : Resolution} {c : Configuration} {d : Disk}
    (ready : Ready (generatorOf c) d r.packages) :
    let outdated := r.packages.filter fun p => (inspect (generatorOf c) d p).1
    let after := (r.generate c d).2.1
    let disk := (r.generate c d).2.2
    ((r.stale c d).1 = outdated.map (·.dir) ∧ (r.generate c d).1 = outdated.map (generatorOf c).path) ∧
    after.packages.map (fun q => q.bag.hasErrors) = (r.stale c d).2.packages.map (fun q => q.bag.hasErrors) ∧
    (after.stale c disk).1 = [] ∧
    after.generate c disk = ([], after, disk) := by
  have run := written ready.clear ready.admits ready.distinct ready.marks
  refine ⟨⟨stale_eq r c d ready.clear, run.paths⟩, ?_, ?_, ?_⟩
  · change (writeAll (generatorOf c).write d r.packages).2.1.map _ = (r.packages.map _ |>.map Prod.snd).map _
    rw [List.map_map, List.map_map]
    have aligned : List.Forall₂ (fun p q => q.bag.hasErrors = (inspect (generatorOf c) d p).2.bag.hasErrors)
        r.packages (writeAll (generatorOf c).write d r.packages).2.1 :=
      ((List.forall₂_and_left _ _).2 ⟨ready.clear, run.packages⟩).imp fun p q h => h.2.hasErrors_eq h.1
    rw [eq_comm, ← List.forall₂_eq_eq_eq, List.forall₂_map_left_iff, List.forall₂_map_right_iff]
    exact aligned.imp fun p q h => h.symm
  · change (((writeAll (generatorOf c).write d r.packages).2.1.map
      (inspect (generatorOf c) (writeAll (generatorOf c).write d r.packages).2.2)).filter Prod.fst).map _ = []
    rw [List.map_eq_nil_iff, List.filter_eq_nil_iff]
    intro i hi
    obtain ⟨q, hq, rfl⟩ := List.mem_map.1 hi
    rcases run.done hq with errors | ⟨known, settled⟩
    · simp [inspect, errors]
    · simp [inspect_of_ok (ready.clear q known) settled]
  · have again := writeAll_of_done (d := (writeAll (generatorOf c).write d r.packages).2.2) fun q hq =>
      (run.done hq).imp_right fun h => ready.second h.1 run h.2
    simp only [generate, again]

end Resolution

/-- A package with a table for a type with documentation. -/
def greeting : PackageResult :=
  processPackage {} (({} : Package).takeFile "a.go" "package p

// Hello.
//documented:docs_const
type Greeting int
" false).1

/-- Four directories: the first has no output file, the second one that is left over, the third one that is out of date,
and the fourth one that was written by hand. -/
def fourDirectories : Disk where
  entries :=
    [(["a"], .directory), (["b"], .directory), (["c"], .directory), (["d"], .directory),
      (["b", "documented_gen.go"], .file (generatedHeader ++ text "\n\npackage b\n")),
      (["c", "documented_gen.go"], .file (generatedHeader ++ text "\n\npackage p\n")),
      (["d", "documented_gen.go"], .file "package p\n")]

/-- A package for each directory; only the second one has no tables. -/
def fourPackages : Resolution where
  packages := [{ greeting with dir := "/a" }, { greeting with dir := "/b", tables := [] }, { greeting with dir := "/c" },
    { greeting with dir := "/d" }]

theorem ready_fourPackages : Resolution.Ready (Resolution.generatorOf {}) fourDirectories fourPackages.packages := by
  refine .ofAbsolute (by decide +kernel) (by decide +kernel) (fun p hp => ?_) (by decide +kernel) fun p hp f hf => ?_
  · have led : ∀ p ∈ fourPackages.packages, (fourDirectories.locate ((Resolution.generatorOf {}).path p)).toOption.any
        (fun l => fourDirectories.get? l != some .directory) = true := by
      decide +kernel
    have at' := led p hp
    cases leads : fourDirectories.locate ((Resolution.generatorOf {}).path p) with
    | error e => simp [leads, Except.toOption] at at'
    | ok l => exact ⟨l, leads, by simpa [leads, Except.toOption] using at'⟩
  · have marked : ∀ p ∈ fourPackages.packages,
        ((Resolution.generatorOf {}).generate p).toOption.join.all (fun f => bearsMark f.content) = true := by
      decide +kernel
    have all := marked p hp
    rw [hf] at all
    exact all

theorem stale_predicts_generate_fourDirectories :
    (fourPackages.stale {} fourDirectories).1 = ["/a", "/b", "/c"] ∧
    (fourPackages.generate {} fourDirectories).1 =
      ["/a/documented_gen.go", "/b/documented_gen.go", "/c/documented_gen.go"] ∧
    (fourPackages.generate {} fourDirectories).2.1.packages.map (fun q => q.bag.hasErrors) =
      [false, false, false, true] ∧
    ((fourPackages.generate {} fourDirectories).2.1.stale {} (fourPackages.generate {} fourDirectories).2.2).1 = [] := by
  obtain ⟨⟨dirs, paths⟩, errors, done, -⟩ := Resolution.stale_predicts_generate (c := {}) ready_fourPackages
  refine ⟨dirs.trans ?_, paths.trans ?_, errors.trans ?_, done⟩ <;> decide +kernel

end DocAccessors
