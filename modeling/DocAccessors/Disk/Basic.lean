import DocAccessors.Diagnostic.Failure
import DocAccessors.Position.Path

/-!
# Files and directories

The part of a file system that a run works on, as a value: reading looks it up, writing gives a new one.

* `Location`: the names from the root down to a place;
* `Disk`: what the places hold, and the directory that relative paths start from;
* `Disk.get?` looks at a place: `get?_put_self`, `get?_put_of_ne`, `get?_erase_self` and `get?_erase_of_ne` say what
  writing and erasing do to it;
* `Disk.locate` follows a path step by step; every place on the way has to be a directory;
* `Disk.read`, `write`, `remove`, `list`, `makeDirectories`: the operations, which fail with a `Disk.Fault`.
-/

namespace DocAccessors

/-- The names from the root down to a place. -/
abbrev Location := List Text

/-- What a place holds. -/
inductive Entry where
  | file (contents : Text)
  | directory
  deriving DecidableEq, Repr

def Entry.isDirectory : Entry → Bool
  | .directory => true
  | .file _ => false

/-- Files and directories. -/
structure Disk where
  entries : List (Location × Entry) := []
  /-- Where relative paths start. -/
  current : Location := []
  deriving DecidableEq, Repr

namespace Disk

/-- Why an operation on a path fails. -/
inductive Cause where
  | missing | notDirectory | isDirectory | present | notEmpty
  deriving DecidableEq, Repr

def Cause.message : Cause → Text
  | .missing => "no such file or directory"
  | .notDirectory => "not a directory"
  | .isDirectory => "is a directory"
  | .present => "file exists"
  | .notEmpty => "directory not empty"

/-- A failed operation. -/
structure Fault where
  operation : Text
  path : Text
  cause : Cause
  deriving DecidableEq, Repr

/-- A failed operation as a failure: the operation and its path give the context. -/
def Fault.toFailure (f : Fault) : Failure := .context (f.operation ++ text " " ++ f.path) (.plain f.cause.message)

/-- Names an operation and its path as the reason of a result. -/
def during {α : Type} (operation path : Text) (r : Except Cause α) : Except Fault α :=
  r.mapError fun c => ⟨operation, path, c⟩

/-! ## Places -/

/-- What a place holds; the root is always a directory. -/
def get? (d : Disk) (l : Location) : Option Entry := if l.isEmpty then some .directory else d.entries.lookup l

/-- The disk without a place. -/
def erase (d : Disk) (l : Location) : Disk := { d with entries := d.entries.filter fun e => e.1 != l }

/-- The disk with a place that holds something. -/
def put (d : Disk) (l : Location) (e : Entry) : Disk := { d.erase l with entries := (l, e) :: (d.erase l).entries }

/-- The disk without a place and all that is below it. -/
def eraseTree (d : Disk) (l : Location) : Disk := { d with entries := d.entries.filter fun e => !l.isPrefixOf e.1 }

/-- What lies in a directory: names in order, with what they stand for. -/
def children (d : Disk) (l : Location) : List (Text × Entry) :=
  let found := d.entries.filterMap fun (k, e) =>
    if k.dropLast == l then k.getLast?.map fun n => (n, e) else none
  found.mergeSort fun a b => Text.le a.1 b.1

theorem get?_erase_self (d : Disk) (l : Location) (h : l ≠ []) : (d.erase l).get? l = none := by
  have gone : (d.entries.filter fun e => e.1 != l).lookup l = none := by
    rw [List.lookup_eq_none_iff]
    intro e he
    have other : e.1 ≠ l := bne_iff_ne.1 (List.mem_filter.1 he).2
    exact bne_iff_ne.2 other.symm
  simp [get?, erase, h, gone]

theorem get?_erase_of_ne (d : Disk) {l m : Location} (h : m ≠ l) : (d.erase l).get? m = d.get? m := by
  have same : ∀ es : List (Location × Entry), (es.filter fun e => e.1 != l).lookup m = es.lookup m := by
    intro es
    induction es with
    | nil => rfl
    | cons e es ih =>
      obtain ⟨k, v⟩ := e
      by_cases he : k = l
      · subst he
        simp [List.lookup_cons, beq_false_of_ne h, ih]
      · simp [List.lookup_cons, he, ih]
  simp [get?, erase, same]

theorem get?_put_self (d : Disk) (l : Location) (e : Entry) (h : l ≠ []) : (d.put l e).get? l = some e := by
  simp [get?, put, h]

theorem get?_put_of_ne (d : Disk) {l m : Location} (e : Entry) (h : m ≠ l) : (d.put l e).get? m = d.get? m := by
  rw [← get?_erase_of_ne d h]
  simp [get?, put, List.lookup_cons, beq_false_of_ne h]

/-! ## Paths -/

/-- The steps of a path; a slash at its end asks for a directory. -/
def steps (p : Text) : List Text :=
  let names := (Text.split 47 p).filter fun n => !n.isEmpty
  if p.getLast? == some 47 then names ++ [text "."] else names

/-- Where steps lead from a place. -/
def walk (d : Disk) (l : Location) : List Text → Except Cause Location
  | [] => .ok l
  | n :: ns =>
    match d.get? l with
    | none => .error .missing
    | some (.file _) => .error .notDirectory
    | some .directory =>
      d.walk (if n == text "." then l else if n == text ".." then l.dropLast else l ++ [n]) ns

/-- The place of a path, which may hold nothing. -/
def locate (d : Disk) (p : Text) : Except Cause Location :=
  if p.isEmpty then .error .missing else d.walk (if Path.isAbs p then [] else d.current) (steps p)

/-- What the place of a path holds. -/
def stat (d : Disk) (p : Text) : Except Cause Entry := do
  match d.get? (← d.locate p) with
  | some e => .ok e
  | none => .error .missing

/-- Whether a path leads to a file. -/
def isFile (d : Disk) (p : Text) : Bool := (d.stat p).toOption.any fun e => !e.isDirectory

/-- Whether a path leads to a directory. -/
def isDirectory (d : Disk) (p : Text) : Bool := (d.stat p).toOption.any Entry.isDirectory

def pathOf (l : Location) : Text := text "/" ++ Text.join "/" l

/-- The directory that relative paths start from. -/
def currentPath (d : Disk) : Text := pathOf d.current

/-- A path seen from the root. -/
def absolute (d : Disk) (p : Text) : Text := if Path.isAbs p then Path.clean p else Path.join [d.currentPath, p]

/-! ## Operations -/

/-- The contents of a file. -/
def read (d : Disk) (p : Text) : Except Fault Text := do
  match ← during "open" p (d.stat p) with
  | .file c => .ok c
  | .directory => .error ⟨"read", p, .isDirectory⟩

/-- The contents of a file, if it can be read. -/
def read? (d : Disk) (p : Text) : Option Text := (d.read p).toOption

/-- The place that a path can be written to. -/
def writable (d : Disk) (p : Text) : Except Cause Location := do
  if p.getLast? == some 47 then throw .isDirectory
  let l ← d.locate p
  match d.get? l with
  | some .directory => throw .isDirectory
  | _ => return l

/-- The disk after a file was written: it is created, or its contents are replaced. -/
def write (d : Disk) (p contents : Text) : Except Fault Disk := do
  return d.put (← during "open" p (d.writable p)) (.file contents)

/-- The disk after a file or an empty directory was removed. -/
def remove (d : Disk) (p : Text) : Except Fault Disk := do
  let l ← during "remove" p (d.locate p)
  match d.get? l with
  | none => throw ⟨"remove", p, .missing⟩
  | some .directory => if (d.children l).isEmpty then return d.erase l else throw ⟨"remove", p, .notEmpty⟩
  | some (.file _) => return d.erase l

/-- The names in a directory, in order, with what they stand for. -/
def list (d : Disk) (p : Text) : Except Fault (List (Text × Entry)) := do
  let l ← during "open" p (d.locate p)
  match d.get? l with
  | some .directory => return d.children l
  | some (.file _) => throw ⟨"open", p, .notDirectory⟩
  | none => throw ⟨"open", p, .missing⟩

def makeDirectory (d : Disk) (p : Text) : Except Cause Disk := do
  let l ← d.locate (if p.all (· == 47) then p else Text.dropEndWhile (· == 47) p)
  match d.get? l with
  | some _ => throw .present
  | none => return d.put l .directory

/-- A path without its last step, up to the slash before it. -/
def parentPart (p : Text) : Text := Text.dropEndWhile (· != 47) (Text.dropEndWhile (· == 47) p)

/-- The disk with a directory and those above it; `depth` bounds their number. -/
def makeDirectoriesWithin : Nat → Disk → Text → Except Fault Disk
  | 0, d, _ => .ok d
  | depth + 1, d, p =>
    match d.stat p with
    | .ok .directory => .ok d
    | .ok (.file _) => .error ⟨"mkdir", p, .notDirectory⟩
    | .error _ => do
      let above := parentPart p
      let d ← if above.isEmpty then pure d else makeDirectoriesWithin depth d above
      match d.makeDirectory p with
      | .ok d => return d
      | .error c => if d.isDirectory p then return d else throw ⟨"mkdir", p, c⟩

/-- The disk with a directory and those above it. -/
def makeDirectories (d : Disk) (p : Text) : Except Fault Disk := makeDirectoriesWithin (p.length + 1) d p

/-- The disk with a directory, unless it is the current one, which needs no making. -/
def ensureDirectory (d : Disk) (p : Text) : Except Fault Disk :=
  if p.isEmpty || p == text "." then .ok d else d.makeDirectories p

/-- The files below a place: their paths seen from there, and their contents. -/
def filesBelow (d : Disk) (l : Location) : List (Text × Text) :=
  d.entries.filterMap fun (k, e) =>
    match e with
    | .file c => if l.isPrefixOf k && k != l then some (Text.join "/" (k.drop l.length), c) else none
    | .directory => none

end Disk

end DocAccessors
