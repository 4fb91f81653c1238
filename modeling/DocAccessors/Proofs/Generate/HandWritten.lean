import DocAccessors.Proofs.Disk.Access
import DocAccessors.Proofs.Run.Stale

/-!
# Hand-written files

Whatever lies where a generated file belongs, it is only changed or removed if it bears the mark. That does not depend on
which calls on the disk succeed, so it is stated of `writeWithin`, which brings a generated file up to date with limited
access and says what the disk is like after that even when it fails.

* `Generator.writeWithin` and `Generator.writeWithin_unlimited`: without limits it is `Generator.write`;
* `Generator.Effect`: the four things that it can come to;
* `Generator.effect_writeWithin`: it comes to one of them;
* `Generator.handWritten_kept`: no file without the mark is lost.
-/

namespace DocAccessors

/-! ## What reading and writing tell -/

theorem Path.join_eq (ps : List Text) : join ps = [] ∨ ∃ q, join ps = clean q := by
  unfold join
  split
  · exact .inl rfl
  · exact .inr ⟨_, rfl⟩

namespace Disk

variable {d d' : Disk} {p t : Text}

theorem exists_of_read? (h : d.read? p = some t) : ∃ l, d.locate p = .ok l ∧ d.get? l = some (.file t) := by
  cases leads : d.locate p with
  | error c => simp [read?, read, stat, leads, during, bind, Except.bind, Except.mapError, Except.toOption] at h
  | ok l =>
    refine ⟨l, rfl, ?_⟩
    rw [read?_eq leads, contents?] at h
    split at h
    · next held => rw [held, Option.some.inj h]
    · cases h

theorem locate_of_writable {l : Location} (h : d.writable p = .ok l) :
    d.locate p = .ok l ∧ d.get? l ≠ some .directory := by
  simp only [writable, bind, Except.bind] at h
  split at h
  · cases h
  · split at h
    · cases h
    · next leads =>
      split at h
      · cases h
      · next other =>
        cases h
        exact ⟨leads, other⟩

theorem exists_of_write (h : d.write p t = .ok d') :
    ∃ l, d.locate p = .ok l ∧ d.get? l ≠ some .directory ∧ d' = d.put l (.file t) := by
  rw [write] at h
  cases place : d.writable p with
  | error c =>
    rw [place] at h
    cases h
  | ok l =>
    rw [place] at h
    cases h
    exact ⟨l, (locate_of_writable place).1, (locate_of_writable place).2, rfl⟩

end Disk

namespace Generator

open Disk (Access)
open Disk.Access (settled)

/-! ## Writing with limited access -/

/-- Whether a path leads to a generated file that can be read. -/
def ownsWithin (a : Access) (d : Disk) (path : Text) : Bool := (a.read? d path).any bearsMark

/-- Removes the generated file of a package for which nothing is generated. -/
def clearWithin (a : Access) (d : Disk) (path : Text) : Except Failure (Option Text) × Disk :=
  if ownsWithin a d path then
    match a.remove d path with
    | .ok d => (.ok (some path), d)
    | .error f => (.error (.context (text "failed to remove stale " ++ path) f), d)
  else (.ok none, d)

/-- The failure that a file was not written by the generator. -/
def refusal (path : Text) : Failure := .context (text "refusing to overwrite " ++ path) notGenerated

/-- Writes a generated file to its directory. -/
def placeWithin (a : Access) (d : Disk) (f : GeneratedFile) : Except Failure (Option Text) × Disk :=
  match a.write d f.path f.content with
  | .ok d => (.ok (some f.path), d)
  | .error e => (.error (.context (text "failed to write " ++ f.path) e), d)

/-- Writes a generated file, unless it is there already. -/
def storeWithin (a : Access) (d : Disk) (f : GeneratedFile) : Except Failure (Option Text) × Disk :=
  if a.read? d f.path == some f.content then (.ok none, d)
  else if a.isFile d f.path && !ownsWithin a d f.path then (.error (refusal f.path), d)
  else Access.andThen (a.ensureDirectory d (Path.dir f.path)) fun d => placeWithin a d f

/-- Brings the generated file of a package up to date: the path written or removed, if any, or why that failed, and the
disk after it. -/
def writeWithin (g : Generator) (a : Access) (d : Disk) (r : PackageResult) : Except Failure (Option Text) × Disk :=
  match g.generate r with
  | .error f => (.error f, d)
  | .ok none => clearWithin a d (g.path r)
  | .ok (some f) => storeWithin a d f

variable {g : Generator} {a : Access} {d d' : Disk} {r : PackageResult}

theorem ownsWithin_unlimited (d : Disk) (path : Text) : ownsWithin .unlimited d path = owns d path := by
  rw [ownsWithin, owns, Access.read?_unlimited]

theorem clearWithin_unlimited (d : Disk) (path : Text) :
    settled (clearWithin .unlimited d path) = clear d path := by
  rw [clearWithin, clear, ownsWithin_unlimited, Access.remove, Access.call_unlimited]
  split
  · cases d.remove path <;> rfl
  · rfl

theorem placeWithin_unlimited (d : Disk) (f : GeneratedFile) :
    settled (placeWithin .unlimited d f) =
      match d.write f.path f.content with
      | .ok d => .ok (some f.path, d)
      | .error e => .error (.context (text "failed to write " ++ f.path) e.toFailure) := by
  rw [placeWithin, Access.write, Access.call_unlimited]
  cases d.write f.path f.content <;> rfl

theorem storeWithin_unlimited (d : Disk) (f : GeneratedFile) : settled (storeWithin .unlimited d f) = store d f := by
  rw [storeWithin, store, Access.read?_unlimited, ownsWithin_unlimited, Access.isFile_of_granted rfl]
  split
  · rfl
  · split
    · rfl
    · rw [Access.settled_andThen, Access.ensureDirectory_unlimited]
      cases d.ensureDirectory (Path.dir f.path) with
      | error e => rfl
      | ok d => exact placeWithin_unlimited d f

/-- Without limits this is how a generated file is brought up to date. -/
theorem writeWithin_unlimited (g : Generator) (d : Disk) (r : PackageResult) :
    settled (g.writeWithin .unlimited d r) = g.write d r := by
  rw [writeWithin]
  cases made : g.generate r with
  | error f => exact (write_of_error made).symm
  | ok file =>
    cases file with
    | none => exact (clearWithin_unlimited d _).trans (write_of_none made).symm
    | some f => exact (storeWithin_unlimited d f).trans (write_of_some made).symm

/-! ## What writing can come to -/

/-- The place is free, or it holds a file that bears the mark. -/
def Replaceable (d : Disk) (l : Location) : Prop :=
  d.get? l = none ∨ ∃ c, d.get? l = some (.file c) ∧ bearsMark c = true

/-- What bringing a generated file up to date comes to. -/
inductive Effect (g : Generator) (d : Disk) (r : PackageResult) : Except Failure (Option Text) × Disk → Prop where
  /-- Nothing is done. -/
  | nothing {result : Except Failure (Option Text)} : Effect g d r (result, d)
  /-- A file that bears the mark is removed. -/
  | removed {l : Location} (made : g.generate r = .ok none) (leads : d.locate (g.path r) = .ok l) (other : d.get? l ≠ some .directory)
    (replaceable : Replaceable d l) : Effect g d r (.ok (some (g.path r)), d.erase l)
  /-- Directories are made for the file, but it is not written. -/
  | prepared {d' : Disk} {f : Failure} {file : GeneratedFile} (made : g.generate r = .ok (some file))
    (grows : d.Grows d') (failed : f.holds (.plain "not generated by gondoc") = false) : Effect g d r (.error f, d')
  /-- The file is written. -/
  | written {d' : Disk} {l : Location} {file : GeneratedFile} (made : g.generate r = .ok (some file))
    (grows : d.Grows d') (leads : d'.locate (g.path r) = .ok l) (other : d'.get? l ≠ some .directory)
    (replaceable : Replaceable d l) : Effect g d r (.ok (some (g.path r)), d'.put l (.file file.content))

theorem exists_of_ownsWithin {path : Text} (owned : ownsWithin a d path = true) :
    ∃ l c, d.locate path = .ok l ∧ d.get? l = some (.file c) ∧ bearsMark c = true := by
  obtain ⟨c, read, mark⟩ := (Option.any_eq_true ..).1 owned
  obtain ⟨l, leads, held⟩ := Disk.exists_of_read? (Access.read?_eq_some read)
  exact ⟨l, c, leads, held, mark⟩

theorem effect_clearWithin (made : g.generate r = .ok none) : Effect g d r (clearWithin a d (g.path r)) := by
  unfold clearWithin
  split
  · next owned =>
    obtain ⟨l, c, leads, held, mark⟩ := exists_of_ownsWithin owned
    split
    · next d' removed =>
      have gone := (Access.call_ok removed).2
      rw [Disk.remove_eq leads (by rw [Disk.contents?, held])] at gone
      cases gone
      exact .removed made leads (by simp [held]) (.inr ⟨c, held, mark⟩)
    · exact .nothing
  · exact .nothing

/-- A call that does not succeed says nothing about who wrote a file. -/
theorem holds_of_isRefusal {f : Failure} (h : Access.IsRefusal f) : f.holds (.plain "not generated by gondoc") = false := by
  obtain ⟨about, rfl | ⟨cause, rfl⟩⟩ := h
  · rfl
  · cases cause <;> rfl

/-- Whatever a file is written to once there is a directory for it was free before, or it was seen to bear the mark. -/
theorem replaceable_of_write (tree : d.IsTree) (grows : d.Grows d') {l : Location}
    (granted : a.refuses .stat (g.path r) = false)
    (checked : (a.isFile d (g.path r) && !ownsWithin a d (g.path r)) = false)
    (leads : d'.locate (g.path r) = .ok l) (other : d'.get? l ≠ some .directory) : Replaceable d l := by
  have same := grows.get?_eq other
  cases held : d.get? l with
  | none => exact .inl held
  | some e =>
    cases e with
    | directory => exact absurd (same.trans held) other
    | file c =>
      -- the check before has looked at this very file
      have here : d.locate (g.path r) = .ok l := by
        rcases Path.join_eq [r.dir, g.output] with nothing | ⟨q, shortest⟩
        · rw [path, nothing] at leads
          cases leads
        · rw [path, shortest] at leads ⊢
          exact tree.locate_clean_of_locate grows.current leads held
      have file : a.isFile d (g.path r) = true := by
        rw [Access.isFile_of_granted granted, Disk.isFile_eq here, Disk.contents?, held]
        rfl
      rw [file, Bool.true_and, Bool.not_eq_false'] at checked
      obtain ⟨m, c', leads', held', mark⟩ := exists_of_ownsWithin checked
      cases here.symm.trans leads'
      exact .inr ⟨c', held', mark⟩

theorem effect_placeWithin (tree : d.IsTree) (grows : d.Grows d') {f : GeneratedFile}
    (made : g.generate r = .ok (some f)) (checked : (a.isFile d (g.path r) && !ownsWithin a d (g.path r)) = false) :
    Effect g d r (placeWithin a d' f) := by
  rw [placeWithin, path_of_generate made]
  split
  · next written =>
    obtain ⟨granted, stored⟩ := Access.call_ok written
    obtain ⟨l, leads, other, rfl⟩ := Disk.exists_of_write stored
    have replaceable := replaceable_of_write tree grows (a.stat_of_write _ granted) checked leads other
    exact .written made grows leads other replaceable
  · next e failed =>
    have holds := holds_of_isRefusal (Access.call_error failed)
    exact .prepared made grows holds

theorem effect_storeWithin (tree : d.IsTree) {f : GeneratedFile} (made : g.generate r = .ok (some f)) :
    Effect g d r (storeWithin a d f) := by
  rw [storeWithin, path_of_generate made]
  split
  · exact .nothing
  · split
    · exact .nothing
    · next checked =>
      have prepares := Access.prepares_ensureDirectory a d (Path.dir (g.path r))
      generalize a.ensureDirectory d (Path.dir (g.path r)) = x at prepares
      obtain ⟨result, d'⟩ := x
      cases result with
      | error e => exact .prepared made prepares.grows (holds_of_isRefusal (prepares.fails e rfl))
      | ok _ => exact effect_placeWithin tree prepares.grows made (Bool.eq_false_iff.2 checked)

/-- Bringing a generated file up to date comes to one of four things. -/
theorem effect_writeWithin (g : Generator) (a : Access) (tree : d.IsTree) (r : PackageResult) :
    Effect g d r (g.writeWithin a d r) := by
  unfold writeWithin
  split
  · exact .nothing
  · next made => exact effect_clearWithin made
  · next made => exact effect_storeWithin tree made

namespace Effect

variable {x : Except Failure (Option Text) × Disk}

/-- A place that changes is that of the output path, and it was free or bore the mark; or it was free, and is a directory
made for the file. -/
theorem changed (h : Effect g d r x) {l : Location} (change : x.2.get? l ≠ d.get? l) :
    (x.2.locate (g.path r) = .ok l ∧ Replaceable d l) ∨
      (d.get? l = none ∧ x.2.get? l = some .directory ∧ ∃ f, g.generate r = .ok (some f)) := by
  cases h with
  | nothing => exact absurd rfl change
  | @removed m made leads other replaceable =>
    by_cases same : l = m
    · subst same
      exact .inl ⟨(Disk.sameBut_erase other).locate leads, replaceable⟩
    · exact absurd (Disk.get?_erase_of_ne d same) change
  | @prepared d' f file made grows failed => exact .inr ⟨(grows.changed change).1, (grows.changed change).2, file, made⟩
  | @written d' m file made grows leads other replaceable =>
    by_cases same : l = m
    · subst same
      exact .inl ⟨(Disk.sameBut_put other _).locate leads, replaceable⟩
    · have rest := Disk.get?_put_of_ne d' (.file file.content) same
      rw [rest] at change
      exact .inr ⟨(grows.changed change).1, rest.trans (grows.changed change).2, file, made⟩

/-- When nothing can be generated, when a file turns out not to be a generated one and when there is nothing to do, the
disk stays as it is. -/
theorem unchanged (h : Effect g d r x)
    (stopped : (∃ f, g.generate r = .error f) ∨
      (∃ f, x.1 = .error f ∧ f.holds (.plain "not generated by gondoc") = true) ∨ x.1 = .ok none) : x.2 = d := by
  rcases stopped with ⟨f, failed⟩ | ⟨f, failed, found⟩ | idle
  · cases h with
    | nothing => rfl
    | removed made => cases made.symm.trans failed
    | prepared made => cases made.symm.trans failed
    | written made => cases made.symm.trans failed
  · cases h with
    | nothing => rfl
    | removed => cases failed
    | prepared made grows other =>
      cases failed
      cases found.symm.trans other
    | written => cases failed
  · cases h with
    | nothing => rfl
    | removed => cases idle
    | prepared => cases idle
    | written => cases idle

end Effect

/-- **Hand-written files are never destroyed.** Whatever calls on the disk are refused, a file without the mark is left
as it is. A place that changes is that of the output path, and it was free or held a file with the mark; all else that
changes are directories made for a generated file. The whole disk stays as it is when nothing can be generated, when a
file turns out not to be a generated one, and when there is nothing to do. When no call is refused, this is how generated
files are written. -/
theorem handWritten_kept (g : Generator) (a : Access) (tree : d.IsTree) (r : PackageResult) :
    let result := (g.writeWithin a d r).1
    let after := (g.writeWithin a d r).2
    (∀ l c, d.get? l = some (.file c) → bearsMark c = false → after.get? l = some (.file c)) ∧
    (∀ l, after.get? l ≠ d.get? l →
      (after.locate (g.path r) = .ok l ∧ Replaceable d l) ∨
        (d.get? l = none ∧ after.get? l = some .directory ∧ ∃ f, g.generate r = .ok (some f))) ∧
    ((∃ f, g.generate r = .error f) ∨
      (∃ f, result = .error f ∧ f.holds (.plain "not generated by gondoc") = true) ∨ result = .ok none → after = d) ∧
    settled (g.writeWithin .unlimited d r) = g.write d r := by
  have effect := effect_writeWithin g a tree r
  refine ⟨fun l c held other => ?_, fun l => effect.changed, effect.unchanged, writeWithin_unlimited g d r⟩
  by_contra change
  rw [← held] at change
  rcases effect.changed change with ⟨-, free | ⟨c', held', mark⟩⟩ | ⟨free, -, -⟩
  · cases held.symm.trans free
  · cases held.symm.trans held'
    cases mark.symm.trans other
  · cases held.symm.trans free

end Generator

theorem handWritten_kept_fourDirectories :
    fourDirectories.IsTree ∧
    (({} : Generator).writeWithin .unlimited fourDirectories { greeting with dir := "/c" }).1.toOption =
      some (some (text "/c/documented_gen.go")) ∧
    (({} : Generator).writeWithin .unlimited fourDirectories { greeting with dir := "/c" }).2.get?
      ["d", "documented_gen.go"] = some (.file "package p\n") ∧
    (({} : Generator).writeWithin .unlimited fourDirectories { greeting with dir := "/d" }).1.toOption = none ∧
    (({} : Generator).writeWithin .unlimited fourDirectories { greeting with dir := "/d" }).2.get?
      ["d", "documented_gen.go"] = some (.file "package p\n") := by
  have tree : fourDirectories.IsTree := Disk.isTree_of_entries rfl (by decide)
  have kept := fun r => (Generator.handWritten_kept {} .unlimited tree r).1
  exact ⟨tree, by decide +kernel, kept _ _ _ (by decide) (by decide), by decide +kernel, kept _ _ _ (by decide) (by decide)⟩

end DocAccessors
