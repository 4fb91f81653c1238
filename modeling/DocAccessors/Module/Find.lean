import DocAccessors.Disk.Basic
import DocAccessors.Module.Constraint
import DocAccessors.Module.ImportPath
import DocAccessors.Position.Wildcard
import DocAccessors.Source.Parse

/-!
# Packages of a module

A listed package is known by its name, its import path, its files and its module, before its files are read.

* `PackageListing.dir` and `PackageListing.fullPath` say where it is, and `PackageListing.isExcluded` asks whether a
  pattern for exclusion applies to it;
* `isFilePattern` tells patterns for files from those for packages;
* `ModuleRoot.find?` is the module that a place lies in;
* `ModuleRoot.packageAt?` is the package in a directory, if source files lie there;
* `ModuleRoot.list` are the packages that a pattern names: a directory, an import path, or either with `...` for
  anything. A pattern that names no package gives a listing that only says so.
-/

namespace DocAccessors

/-- A module: the path that its packages are imported under, and its directory. -/
structure ModuleRoot where
  path : Text
  dir : Text
  deriving DecidableEq, Repr

/-- A package before its files are read. -/
structure PackageListing where
  name : Text := []
  /-- The import path. -/
  path : Text := []
  /-- The paths of the source files. -/
  files : List Text := []
  /-- The paths of the files that are compiled. -/
  compiled : List Text := []
  module : Option ModuleRoot := none
  /-- What is wrong with the package as a whole. -/
  problems : List Text := []
  deriving DecidableEq, Repr

def isFilePattern (p : Text) : Bool := Text.endsWith p ".go" || p.any fun b => b == 42 || b == 63 || b == 91

namespace PackageListing

/-- The directory of a package: that of its first file. -/
def dir (l : PackageListing) : Text :=
  match l.files ++ l.compiled with
  | f :: _ => Path.dir f
  | [] => []

/-- The path that a package has because of where a file of it lies in its module; none for the directory of the
module itself. -/
def pathBelow? (m : ModuleRoot) (file : Text) : Option Text :=
  match Path.rel? m.dir (Path.dir file) with
  | some r => if r == text "." then none else some (m.path ++ text "/" ++ r)
  | none => none

/-- The import path of a package. A path that is missing, or no more than a name, is worked out from the module. -/
def fullPath (l : PackageListing) : Text :=
  if !l.path.isEmpty && l.path != l.name then l.path
  else match l.module with
    | some m => ((l.files.filterMap (pathBelow? m)).head?).getD m.path
    | none => l.name

/-- Whether a path is another one or lies below it. -/
def isWithin (outer p : Text) : Bool := p == outer || Text.startsWith p (outer ++ text "/")

/-- Whether a pattern for exclusion applies: to the directory, as a path or a wildcard, or to the import path. -/
def isExcluded (d : Disk) (l : PackageListing) (pattern : Text) : Bool :=
  let p := Text.dropEnd pattern "/..."
  let dir := d.absolute p
  (Wildcard.matches? dir l.dir == some true) || isWithin dir l.dir || isWithin p l.path

/-- The packages to which no pattern for exclusion applies. -/
def exclude (d : Disk) (patterns : List Text) (ls : List PackageListing) : List PackageListing :=
  ls.filter fun l => !patterns.any (l.isExcluded d)

end PackageListing

/-! ## Modules -/

/-- By the names from the root down. -/
def Location.le (a b : Location) : Bool :=
  match a, b with
  | [], _ => true
  | _ :: _, [] => false
  | x :: xs, y :: ys => Text.lt x y || (x == y && Location.le xs ys)

namespace ModuleRoot

/-- The name of the file that makes a directory a module. -/
def fileName : Text := "go.mod"

/-- The words of a line of a module file, without its comment. -/
def wordsOnLine (line : Text) : List Text :=
  let rec code : Text → Text
    | [] => []
    | 47 :: 47 :: _ => []
    | b :: r => b :: code r
  Text.fields (code line)

/-- A path without the quotes around it. -/
def unquoted (path : Text) : Text := path.filter fun b => b != 34 && b != 96

/-- The path in the lines of a module file: after its keyword, on the same line or in brackets. -/
def pathIn? : Bool → List (List Text) → Option Text
  | _, [] => none
  | true, (path :: _) :: ls => if path == text ")" then pathIn? false ls else some (unquoted path)
  | false, (keyword :: rest) :: ls =>
    if keyword != text "module" then pathIn? false ls
    else match rest with
      | path :: _ => if path == text "(" then pathIn? true ls else some (unquoted path)
      | [] => pathIn? false ls
  | inBrackets, [] :: ls => pathIn? inBrackets ls

/-- The path that a module file states. -/
def statedPath? (src : Text) : Option Text := pathIn? false ((Text.lines src).map wordsOnLine)

def at? (d : Disk) (l : Location) : Option ModuleRoot :=
  match d.get? (l ++ [fileName]) with
  | some (.file src) => some ⟨(statedPath? src).getD [], Disk.pathOf l⟩
  | _ => none

/-- The module that a place lies in: the nearest one going up. -/
def find? (d : Disk) (l : Location) : Option ModuleRoot :=
  ((List.range (l.length + 1)).reverse.map l.take).findSome? (at? d)

def location (m : ModuleRoot) : Location := Disk.steps m.dir

/-- The import path of a place in a module. -/
def importPath (m : ModuleRoot) (l : Location) : Text := Text.join "/" (m.path :: l.drop m.location.length)

/-! ## Directories -/

/-- The package name that a source file states; empty when it cannot be read. -/
def statedName (name src : Text) : Text :=
  (((Source.File.attempt (Source.sourceFile name 1 src) src).1).map fun f => f.name.name).getD []

/-- The files of a directory that belong to a package, as they are found one after the other. -/
structure Sources where
  /-- The name of the package, and of the file that states it first. -/
  name : Text := []
  first : Text := []
  files : List Text := []
  /-- Whether there are files that are left out. -/
  ignored : Bool := false
  /-- What is wrong with the files; only the first counts. -/
  problem : Option Text := none

namespace Sources

/-- Notes that something is wrong. -/
def note (p : Text) (s : Sources) : Sources := { s with problem := s.problem.or (some p) }

/-- The name of a package for documentation only, which no file counts for. -/
def documentation : Text := "documentation"

/-- The package name that a file belongs to: a test outside a package belongs to it all the same. -/
def nameFor (file stated : Text) (s : Sources) : Text :=
  if Text.endsWith file "_test.go" && Text.endsWith stated "_test" && s.name != stated then
    Text.dropEnd stated "_test"
  else stated

/-- Adds a file that belongs to the package. -/
def addFile (dir file stated : Text) (s : Sources) : Sources :=
  let name := s.nameFor file stated
  let s := { s with files := s.files ++ [file] }
  if s.name.isEmpty then { s with name := name, first := file }
  else if s.name == name then s
  else s.note (text "found packages " ++ s.name ++ text " (" ++ s.first ++ text ") and " ++ name ++ text " (" ++
    file ++ text ") in " ++ dir)

def add (dir file src : Text) (s : Sources) : Sources :=
  if Constraint.isHiddenFile file then s
  else match Constraint.admits file src with
    | .error f => s.note (file ++ text ": " ++ f.message)
    | .ok false => { s with ignored := true }
    | .ok true =>
      let stated := statedName file src
      if stated == documentation then { s with ignored := true } else s.addFile dir file stated

end Sources

/-- The source files in a directory. -/
def sourcesAt (d : Disk) (l : Location) : Sources :=
  (d.children l).foldl (fun s (n, e) => match e with
    | .file src => if Text.endsWith n ".go" then s.add (Disk.pathOf l) n src else s
    | .directory => s) {}

/-- What is said about a directory whose source files are all left out. -/
def allExcluded (path : Text) : Text := text "build constraints exclude all Go files in " ++ path

/-- The package with an import path that source files make up. -/
def packageOf (m : ModuleRoot) (l : Location) (s : Sources) : PackageListing :=
  let path := m.importPath l
  let dir := Disk.pathOf l
  match ImportPath.problem? path with
  | some p => { path := path.takeWhile (· != 32), problems := [p] }
  | none => {
      name := s.name
      path
      files := (s.files.filter fun n => !Text.endsWith n "_test.go").map fun n => Path.join [dir, n]
      module := some m
      problems := (s.problem.or (if s.files.isEmpty then some (allExcluded dir) else none)).toList }

/-- The package in a directory; none when no source files belong to it. -/
def packageAt? (d : Disk) (m : ModuleRoot) (l : Location) : Option PackageListing :=
  let s := sourcesAt d l
  if s.files.isEmpty && s.problem.isNone then none else some (packageOf m l s)

/-- Whether a directory of this name is left out of `...`. -/
def isHidden (n : Text) : Bool := n.head? == some 46 || n.head? == some 95 || n == text "testdata"

/-- Whether a place below another one is reached from there: no step is hidden or enters another module. -/
def reaches (d : Disk) (top l : Location) : Bool :=
  let below := l.drop top.length
  below.all (!isHidden ·) &&
    ((List.range below.length).all fun i => (at? d (top ++ below.take (i + 1))).isNone)

/-- The directories that are reached from a directory, each before those in it. -/
def directoriesFrom (d : Disk) (top : Location) : List Location :=
  let found := d.entries.filterMap fun (l, e) =>
    if e.isDirectory && top.isPrefixOf l && l != top && reaches d top l then some l else none
  top :: found.mergeSort Location.le

/-! ## Patterns -/

/-- What stands for anything in a pattern. -/
def ellipsis : Text := "..."

/-- The parts of a pattern between the places that stand for anything. -/
def partsOf : Text → List Text
  | [] => [[]]
  | [a] => [[a]]
  | [a, b] => [[a, b]]
  | a :: b :: c :: r =>
    if [a, b, c] == ellipsis then [] :: partsOf r
    else match partsOf (b :: c :: r) with
      | [] => [[a]]
      | p :: ps => (a :: p) :: ps

/-- The rest of a text after the first place where a part occurs. -/
def after? (part : Text) : Text → Option Text
  | [] => if part.isEmpty then some [] else none
  | b :: t => match Text.dropStart? (b :: t) part with
    | some r => some r
    | none => after? part t

/-- Whether a text is made of parts with anything between them; the first part has been dealt with. What stands in for
copies of other modules is not anything. -/
def followsParts : List Text → Text → Bool
  | [], t => t.isEmpty
  | [last], t => Text.endsWith t last && !(t.take (t.length - last.length)).contains copyMark
  | p :: ps, t => match after? p t with
    | some r => !(t.take (t.length - r.length - p.length)).contains copyMark && followsParts ps r
    | none => false
where
  /-- What stands in for the name of a directory with copies of other modules. -/
  copyMark : UInt8 := 0

/-- The name of directories with copies of other modules. -/
def copiesName : Text := "vendor"

/-- A path in which every directory with copies of other modules is marked, unless it is the last one. -/
def markCopies (path : Text) : Text :=
  let names := Text.split 47 path
  Text.join "/" (names.dropLast.map (fun n => if n == copiesName then [followsParts.copyMark] else n) ++
    names.drop (names.length - 1))

/-- Whether a text follows a pattern; `x/...` stands for `x` too. Directories with copies of other modules must be named
by the pattern. -/
def follows (pattern t : Text) : Bool :=
  let p := markCopies pattern
  let t := markCopies t
  let start := Text.dropEnd p "/..."
  let copies := [47, followsParts.copyMark]
  (Text.endsWith p "/..." && followsFrom (partsOf start) t) ||
    (Text.endsWith p "/..." && Text.endsWith start copies &&
      followsFrom (partsOf (Text.dropEnd start copies ++ text "/" ++ copiesName)) t) ||
    followsFrom (partsOf p) t
where
  /-- Whether a text is made of parts with anything between them. -/
  followsFrom (parts : List Text) (t : Text) : Bool :=
    match parts with
    | [] => t.isEmpty
    | [p] => t == p
    | p :: ps => match Text.dropStart? t p with
      | some r => followsParts ps r
      | none => false

/-- A pattern in its shortest form; `./` at its start is kept. -/
def cleanPattern (p : Text) : Text :=
  if !Text.startsWith p "./" then Path.clean p
  else
    let q := Path.clean p
    if q == text "." then q else text "./" ++ q

/-- Whether a pattern is one for directories. -/
def isLocal (p : Text) : Bool :=
  Path.isAbs p || p == text "." || p == text ".." || Text.startsWith p "./" || Text.startsWith p "../"

/-- A listing that says why a pattern names no package. -/
def failed (pattern problem : Text) : PackageListing := { path := pattern, problems := [problem] }

/-- What is said about a directory that does not exist. -/
def noDirectory (path : Text) : Text := text "stat " ++ path ++ text ": directory not found"

/-- What is said about a directory without source files. -/
def noSources (path : Text) : Text := text "no Go files in " ++ path

/-- A path as it is seen from the current directory, when that is shorter. -/
def shortPath (d : Disk) (path : Text) : Text :=
  match Path.rel? d.currentPath path with
  | some r => if r.length < path.length then r else path
  | none => path

/-- What is said about a directory of another module. -/
def outside (d : Disk) (path : Text) : Text :=
  let p := shortPath d path
  (if p == text "." then text "current directory" else text "directory " ++ p) ++
    text " outside main module or its selected dependencies"

/-- What keeps a directory of a module from being a package of it. -/
def placeProblem? (d : Disk) (m : ModuleRoot) (l : Location) : Option Text :=
  let below := l.drop m.location.length
  let dir := Disk.pathOf l
  if below.any fun n => List.contains n 64 then some (outside d dir)
  else if below.head? == some copiesName && 1 < below.length then
    some (text "directory " ++ dir ++ text " is not a package listed in vendor/modules.txt")
  else none

/-- What is said about an import path that nothing provides. -/
def notProvided (path : Text) : Text :=
  text "no required module provides package " ++ path ++ text "; to add it:\n\tgo get " ++ path

/-- The package in the directory that a pattern names. -/
def listDirectory (d : Disk) (m : ModuleRoot) (pattern : Text) : PackageListing :=
  let dir := d.absolute pattern
  let l := Disk.steps dir
  if !d.isDirectory dir then failed pattern (noDirectory dir)
  else
    let s := sourcesAt d l
    if s.files.isEmpty && s.problem.isNone && !s.ignored then failed pattern (noSources dir)
    else if find? d l != some m then failed pattern (outside d dir)
    else match placeProblem? d m l with
      | some p => failed pattern p
      | none => packageOf m l s

/-- The packages in the directories that follow a pattern. -/
def listDirectories (d : Disk) (m : ModuleRoot) (pattern : Text) : List PackageListing :=
  let start := Path.dirPart ((partsOf pattern).headD [])
  let dir := d.absolute start
  let top := Disk.steps dir
  let failure (problem : Text) : PackageListing := failed pattern (text "pattern " ++ pattern ++ text ": " ++ problem)
  if !d.isDirectory dir then [failure (text "lstat " ++ start ++ text ": no such file or directory")]
  else if find? d top != some m then
    [failure (text "directory prefix " ++ shortPath d dir ++
      text " does not contain main module or its selected dependencies")]
  else if top != d.current && top.getLast?.any isHidden then []
  else
    let found := ((directoriesFrom d top).filter fun l => follows (d.absolute pattern) (Disk.pathOf l)).filterMap fun l =>
      (packageAt? d m l).map fun p => (p, placeProblem? d m l)
    (found.filter fun f => f.2.isNone).map Prod.fst ++ ((found.findSome? Prod.snd).map failure).toList

def listImport (d : Disk) (m : ModuleRoot) (path : Text) : PackageListing :=
  let found := if PackageListing.isWithin m.path path then
      let l := m.location ++ (Disk.steps (path.drop m.path.length))
      if find? d l == some m then packageAt? d m l else none
    else none
  found.getD (failed path (notProvided path))

/-- The packages whose import paths follow a pattern. -/
def listImports (d : Disk) (m : ModuleRoot) (pattern : Text) : List PackageListing :=
  ((directoriesFrom d m.location).filter fun l => pattern == text "all" || follows pattern (m.importPath l)).filterMap
    (packageAt? d m)

def list (d : Disk) (m : ModuleRoot) (pattern : Text) : List PackageListing :=
  let p := cleanPattern pattern
  let open' := Text.contains p ellipsis
  if isLocal p then (if open' then listDirectories d m p else [listDirectory d m p])
  else if open' || p == text "all" then listImports d m p
  else [listImport d m p]

/-- The packages that patterns name, each once. -/
def listAll (d : Disk) (m : ModuleRoot) (patterns : List Text) : List PackageListing :=
  (patterns.flatMap (list d m)).foldl
    (fun seen l => if seen.contains l then seen else seen ++ [l]) []

end ModuleRoot

end DocAccessors
