import DocAccessors.Proofs.Disk.Tree

/-!
# Limited access to a disk

Whether an operation succeeds does not depend on the disk alone: a file may be there and not be readable, or a directory
may admit no new entry. And an operation of several steps that fails leaves behind what its first steps have done.

* `Disk.Access` says which calls are refused;
* `Access.makeDirectories` and `Access.ensureDirectory` make directories call by call, and say what the disk is like
  after that in any case;
* `Access.Prepares`: all that they do to a disk is to add directories to it;
* `Access.ensureDirectory_unlimited`: when no call is refused, this is `Disk.ensureDirectory`.
-/

namespace DocAccessors.Disk

/-- The calls on a disk. -/
inductive Call where
  | stat | read | makeDirectory | write | remove
  deriving DecidableEq

/-- What a call is named in failures. -/
def Call.name : Call → Text
  | .stat => "stat"
  | .read | .write => "open"
  | .makeDirectory => "mkdir"
  | .remove => "remove"

/-- Which calls on which paths are refused. -/
structure Access where
  refuses : Call → Text → Bool
  /-- To look at a file takes nothing but a way through the directories above it, and so does to open it. -/
  stat_of_write : ∀ p, refuses .write p = false → refuses .stat p = false

namespace Access

/-- Access without limits. -/
def unlimited : Access := ⟨fun _ _ => false, fun _ _ => rfl⟩

variable {α : Type}

/-- The result of a call, unless it is refused. -/
def call (a : Access) (c : Call) (p : Text) (r : Except Fault α) : Except Failure α :=
  if a.refuses c p then .error (.context (c.name ++ text " " ++ p) (.plain "permission denied"))
  else r.mapError Fault.toFailure

/-- What the place of a path holds. -/
def stat (a : Access) (d : Disk) (p : Text) : Except Failure Entry := a.call .stat p (during "stat" p (d.stat p))

/-- Whether a path leads to a file. -/
def isFile (a : Access) (d : Disk) (p : Text) : Bool := (a.stat d p).toOption.any fun e => !e.isDirectory

/-- The contents of a file, if it can be read. -/
def read? (a : Access) (d : Disk) (p : Text) : Option Text := (a.call .read p (d.read p)).toOption

/-- The disk after a file was written. -/
def write (a : Access) (d : Disk) (p contents : Text) : Except Failure Disk := a.call .write p (d.write p contents)

/-- The disk after a file or an empty directory was removed. -/
def remove (a : Access) (d : Disk) (p : Text) : Except Failure Disk := a.call .remove p (d.remove p)

def makeDirectory (a : Access) (d : Disk) (p : Text) : Except Failure Disk :=
  a.call .makeDirectory p (during "mkdir" p (d.makeDirectory p))

/-- Goes on with the disk that an operation has left, unless the operation has failed. -/
def andThen (x : Except Failure Unit × Disk) (next : Disk → Except Failure α × Disk) : Except Failure α × Disk :=
  match x with
  | (.error f, d) => (.error f, d)
  | (.ok (), d) => next d

/-- Makes one more directory, unless it is there. -/
def makeLast (a : Access) (d : Disk) (p : Text) : Except Failure Unit × Disk :=
  match a.makeDirectory d p with
  | .ok d => (.ok (), d)
  | .error f => if (a.stat d p).toOption.any Entry.isDirectory then (.ok (), d) else (.error f, d)

/-- Makes a directory and those above it, and says what the disk is like after that; `depth` bounds their number. -/
def makeDirectoriesWithin (a : Access) : Nat → Disk → Text → Except Failure Unit × Disk
  | 0, d, _ => (.ok (), d)
  | depth + 1, d, p =>
    match a.stat d p with
    | .ok .directory => (.ok (), d)
    | .ok (.file _) => (.error (Fault.toFailure ⟨"mkdir", p, .notDirectory⟩), d)
    | .error _ =>
      let above := parentPart p
      andThen (if above.isEmpty then (.ok (), d) else a.makeDirectoriesWithin depth d above) fun d => a.makeLast d p

/-- Makes a directory and those above it. -/
def makeDirectories (a : Access) (d : Disk) (p : Text) : Except Failure Unit × Disk :=
  a.makeDirectoriesWithin (p.length + 1) d p

/-- Makes a directory, unless it is the current one, which needs no making. -/
def ensureDirectory (a : Access) (d : Disk) (p : Text) : Except Failure Unit × Disk :=
  if p.isEmpty || p == text "." then (.ok (), d) else a.makeDirectories d p

/-! ## Calls -/

variable {a : Access} {c : Call} {p : Text}

/-- The failure of a call: for a lack of access, or because of what the disk holds. -/
def IsRefusal (f : Failure) : Prop :=
  ∃ about, f = .context about (.plain "permission denied") ∨
    ∃ cause : Cause, f = .context about (.plain cause.message)

theorem isRefusal_toFailure (f : Fault) : IsRefusal f.toFailure := ⟨_, .inr ⟨f.cause, rfl⟩⟩

theorem call_ok {r : Except Fault α} {x : α} (h : a.call c p r = .ok x) : a.refuses c p = false ∧ r = .ok x := by
  unfold call at h
  split at h
  · cases h
  · next granted =>
    cases r with
    | error f => cases h
    | ok y =>
      cases h
      exact ⟨Bool.eq_false_iff.2 granted, rfl⟩

/-- A call fails for a lack of access, or because of what the disk holds. -/
theorem call_error {r : Except Fault α} {f : Failure} (h : a.call c p r = .error f) : IsRefusal f := by
  unfold call at h
  split at h
  · cases h
    exact ⟨_, .inl rfl⟩
  · cases r with
    | ok x => cases h
    | error fault =>
      cases h
      exact isRefusal_toFailure fault

@[simp] theorem call_unlimited (r : Except Fault α) : unlimited.call c p r = r.mapError Fault.toFailure := rfl

theorem read?_eq_some {d : Disk} {t : Text} (h : a.read? d p = some t) : d.read? p = some t := by
  unfold read? at h
  cases result : a.call .read p (d.read p) with
  | error f =>
    rw [result] at h
    cases h
  | ok x =>
    rw [result] at h
    rw [Disk.read?, (call_ok result).2]
    exact h

@[simp] theorem read?_unlimited (d : Disk) (p : Text) : unlimited.read? d p = d.read? p := by
  rw [read?, call_unlimited, Disk.read?]
  cases d.read p <;> rfl

theorem isFile_of_granted {d : Disk} (granted : a.refuses .stat p = false) : a.isFile d p = d.isFile p := by
  rw [isFile, stat, call, granted, Disk.isFile]
  cases d.stat p <;> rfl

/-! ## Making directories -/

/-- All that was done to a disk is that directories were added to it; a failure is that of a call. -/
structure Prepares (d : Disk) (x : Except Failure Unit × Disk) : Prop where
  grows : d.Grows x.2
  fails : ∀ f, x.1 = .error f → IsRefusal f

namespace Prepares

variable {d d' : Disk} {x : Except Failure Unit × Disk}

theorem ofGrows (grows : d.Grows d') : Prepares d (.ok (), d') := ⟨grows, nofun⟩

theorem andThen {next : Disk → Except Failure Unit × Disk} (h : Prepares d x) (more : ∀ d, Prepares d (next d)) :
    Prepares d (andThen x next) := by
  obtain ⟨result, d'⟩ := x
  cases result with
  | error f => exact h
  | ok _ => exact ⟨h.grows.trans (more d').grows, (more d').fails⟩

theorem ofError {f : Failure} (refusal : IsRefusal f) (d : Disk) : Prepares d (.error f, d) :=
  ⟨.refl d, fun _ failed => Except.error.inj failed ▸ refusal⟩

/-- Doing nothing when a condition holds. -/
theorem orNothing (h : Prepares d x) (b : Bool) : Prepares d (if b = true then (.ok (), d) else x) := by
  cases b with
  | true => exact ofGrows (.refl d)
  | false => exact h

end Prepares

theorem grows_makeDirectory {d d' : Disk} (h : a.makeDirectory d p = .ok d') : d.Grows d' := by
  have made := (call_ok h).2
  simp only [during, Disk.makeDirectory, bind, Except.bind] at made
  split at made
  · cases made
  · split at made
    · cases made
    · next free =>
      cases made
      exact .put free

theorem prepares_makeLast (a : Access) (d : Disk) (p : Text) : Prepares d (a.makeLast d p) := by
  unfold makeLast
  split
  · next made => exact .ofGrows (grows_makeDirectory made)
  · next failed =>
    split
    · exact .ofGrows (.refl d)
    · exact .ofError (call_error failed) d

/-- Making directories does nothing but to add directories, whether it succeeds or not. -/
theorem prepares_makeDirectoriesWithin (a : Access) (depth : Nat) (d : Disk) (p : Text) :
    Prepares d (a.makeDirectoriesWithin depth d p) := by
  fun_induction makeDirectoriesWithin a depth d p with
  | case1 d p => exact .ofGrows (.refl d)
  | case2 depth d p there => exact .ofGrows (.refl d)
  | case3 depth d p contents file => exact .ofError (isRefusal_toFailure _) d
  | case4 depth d p missing stat above ih => exact (ih.orNothing _).andThen fun d => prepares_makeLast a d p

theorem prepares_ensureDirectory (a : Access) (d : Disk) (p : Text) : Prepares d (a.ensureDirectory d p) :=
  (prepares_makeDirectoriesWithin a _ d p).orNothing _

/-! ## Unlimited access -/

/-- The result of an operation together with the disk after it, if it has succeeded. -/
def settled (x : Except Failure α × Disk) : Except Failure (α × Disk) := x.1.map (·, x.2)

theorem settled_andThen (x : Except Failure Unit × Disk) (next : Disk → Except Failure α × Disk) :
    settled (andThen x next) = (settled x).bind fun y => settled (next y.2) := by
  obtain ⟨result, d⟩ := x
  cases result <;> rfl

/-- The result of making directories on a disk, as that of an operation. -/
def made (r : Except Fault Disk) : Except Failure (Unit × Disk) := (r.mapError Fault.toFailure).map ((), ·)

theorem makeLast_unlimited (d : Disk) (p : Text) :
    settled (unlimited.makeLast d p) =
      made (match d.makeDirectory p with
        | .ok d => .ok d
        | .error c => if d.isDirectory p then .ok d else .error ⟨"mkdir", p, c⟩) := by
  rw [makeLast, makeDirectory, stat, call_unlimited, call_unlimited, isDirectory]
  cases d.makeDirectory p with
  | ok d => rfl
  | error c =>
    cases d.stat p with
    | error c => rfl
    | ok e => cases e <;> rfl

theorem makeDirectoriesWithin_unlimited (depth : Nat) (d : Disk) (p : Text) :
    settled (unlimited.makeDirectoriesWithin depth d p) = made (d.makeDirectoriesWithin depth p) := by
  induction depth generalizing d p with
  | zero => rfl
  | succ depth ih =>
    rw [makeDirectoriesWithin, Disk.makeDirectoriesWithin, stat, call_unlimited]
    cases d.stat p with
    | ok e => cases e <;> rfl
    | error c =>
      cases empty : (parentPart p).isEmpty with
      | true =>
        simp only [empty]
        exact makeLast_unlimited d p
      | false =>
        simp only [empty]
        refine (settled_andThen _ _).trans ?_
        rw [if_neg Bool.false_ne_true, ih]
        simp only [makeLast_unlimited]
        cases d.makeDirectoriesWithin depth (parentPart p) <;> rfl

theorem ensureDirectory_unlimited (d : Disk) (p : Text) :
    settled (unlimited.ensureDirectory d p) = made (d.ensureDirectory p) := by
  rw [ensureDirectory, Disk.ensureDirectory]
  split
  · rfl
  · exact makeDirectoriesWithin_unlimited _ d p

end Access

end DocAccessors.Disk
