import DocAccessors.Disk.Basic
import DocAccessors.Position.Wildcard
import DocAccessors.Text.Class

/-!
# Paths that follow patterns

* `Disk.glob?` finds the paths that follow a pattern, directory by directory;
* `Disk.expand` puts the paths of several patterns together; patterns after `!` take paths away again;
* `Disk.directoriesOf` are the directories of paths.
-/

namespace DocAccessors

namespace Disk

/-- The directory part of a pattern without the slash at its end. -/
def patternDirectory (pattern : Text) : Text :=
  match Path.dirPart pattern with
  | [] => "."
  | p => if p == text "/" then p else p.dropLast

/-- The paths in a directory whose names follow a pattern; none if the pattern is malformed. -/
def globIn? (d : Disk) (pattern dir : Text) : Option (List Text) :=
  match d.list dir with
  | .error _ => some []
  | .ok names => do
    let found ← names.filterMapM fun (n, _) => do
      return if ← Wildcard.matches? pattern n then some (Path.join [dir, n]) else none
    return found

/-- The paths that follow a pattern of at most `depth` steps; none if the pattern is malformed. -/
def globWithin? (d : Disk) : Nat → Text → Option (List Text)
  | 0, _ => none
  | depth + 1, pattern => do
    let _ ← Wildcard.parse? pattern
    if !Wildcard.isPattern pattern then return if (d.stat pattern).toOption.isSome then [pattern] else []
    let dir := patternDirectory pattern
    let last := pattern.drop (Path.dirPart pattern).length
    let dirs ← if Wildcard.isPattern dir then (if dir == pattern then none else d.globWithin? depth dir) else some [dir]
    return (← dirs.mapM (d.globIn? last)).flatten

/-- The paths that follow a pattern; none if the pattern is malformed. -/
def glob? (d : Disk) (pattern : Text) : Option (List Text) := d.globWithin? (pattern.length + 1) pattern

/-- The paths that follow one of several patterns, in order. -/
def globAll (d : Disk) (patterns : List Text) : Except Failure (List Text) :=
  match patterns.mapM d.glob? with
  | some found => .ok found.flatten
  | none => .error (.plain "syntax error in pattern")

/-- The paths that follow one of several patterns and none of those after `!`, each once, in order. -/
def expand (d : Disk) (patterns : List Text) : Except Failure (List Text) := do
  let given := (patterns.map Text.trim).filter fun p => !p.isEmpty
  let found ← d.globAll (given.filter fun p => !Text.startsWith p "!")
  let dropped ← d.globAll (given.filterMap fun p => Text.dropStart? p "!")
  return Text.sort ((found.filter fun p => !dropped.contains p).eraseDups)

/-- The directories of those of several paths that exist, each once, in order. -/
def directoriesOf (d : Disk) (paths : List Text) : List Text :=
  Text.sort (paths.filterMap fun p =>
    match d.stat p with
    | .ok .directory => some p
    | .ok (.file _) => some (Path.dir p)
    | .error _ => none).eraseDups

end Disk

end DocAccessors
