import DocAccessors.Disk.Basic
import DocAccessors.Generate.Basic

/-!
# Generated files on disk

* `Generator.write` brings the generated file of a package up to date. A file that does not bear the mark of
  generated files is never touched;
* `Generator.isStale` asks whether `write` would have something to do.
-/

namespace DocAccessors

/-- Whether contents bear the mark of generated files. -/
def bearsMark (contents : Text) : Bool := Text.startsWith contents generatedHeader

/-- What is said about a file that the generator did not write. -/
def notGenerated : Failure := .plain "not generated by gondoc"

namespace Generator

/-- Whether a path leads to a generated file. -/
def owns (d : Disk) (path : Text) : Bool := (d.read? path).any bearsMark

/-- Removes the generated file of a package for which nothing is generated. -/
def clear (d : Disk) (path : Text) : Except Failure (Option Text × Disk) :=
  if owns d path then
    match d.remove path with
    | .ok d => .ok (some path, d)
    | .error f => .error (.context (text "failed to remove stale " ++ path) f.toFailure)
  else .ok (none, d)

/-- Writes a generated file, unless it is there already. -/
def store (d : Disk) (f : GeneratedFile) : Except Failure (Option Text × Disk) :=
  if d.read? f.path == some f.content then .ok (none, d)
  else if d.isFile f.path && !owns d f.path then
    .error (.context (text "refusing to overwrite " ++ f.path) notGenerated)
  else
    match d.ensureDirectory (Path.dir f.path) with
    | .error e => .error e.toFailure
    | .ok d =>
      match d.write f.path f.content with
      | .ok d => .ok (some f.path, d)
      | .error e => .error (.context (text "failed to write " ++ f.path) e.toFailure)

/-- Brings the generated file of a package up to date: the path written or removed, if any, and the disk after
it. -/
def write (g : Generator) (d : Disk) (r : PackageResult) : Except Failure (Option Text × Disk) := do
  match ← g.generate r with
  | none => clear d (g.path r)
  | some f => store d f

/-- Whether the generated file of a package is missing, out of date or left over. -/
def isStale (g : Generator) (d : Disk) (r : PackageResult) : Except Failure Bool := do
  match ← g.generate r, d.read? (g.path r) with
  | none, existing => return existing.any bearsMark
  | some _, none => return true
  | some f, some existing =>
    if bearsMark existing then return existing != f.content
    else throw (.context (g.path r) notGenerated)

end Generator

end DocAccessors
