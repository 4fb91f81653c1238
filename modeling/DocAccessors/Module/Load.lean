import DocAccessors.Declaration.Package
import DocAccessors.Disk.Glob
import DocAccessors.Module.Find
import DocAccessors.Typing.Package

/-!
# Loading packages

* `PackagePatterns` sorts the patterns of a configuration: for packages, for files, and for exclusion;
* `Disk.listPackages` are the packages that patterns name;
* `PackageListing.load` reads and checks the files of a package as far as possible.
-/

namespace DocAccessors

/-- Patterns by what they are for. -/
structure PackagePatterns where
  packages : List Text := []
  files : List Text := []
  excluded : List Text := []
  deriving DecidableEq, Repr

/-- Sorts patterns; blank ones are dropped. -/
def PackagePatterns.ofList (patterns : List Text) : PackagePatterns :=
  let given := (patterns.map Text.trim).filter fun p => !p.isEmpty
  let (excluded, rest) := given.partition fun p => Text.startsWith p "!"
  let (files, packages) := rest.partition isFilePattern
  { packages, files, excluded := excluded.map fun p => Text.dropStart p "!" }

/-- The packages that patterns name. A pattern for files stands for the directories of these files. -/
def Disk.listPackages (d : Disk) (patterns : List Text) : Except Failure (List PackageListing) := do
  let ps := PackagePatterns.ofList patterns
  let dirs := d.directoriesOf (← d.expand ps.files)
  if !ps.files.isEmpty && dirs.isEmpty && ps.packages.isEmpty then
    throw (.plain "no directories found from patterns")
  let patterns := ps.packages ++ dirs.map d.absolute
  if patterns.isEmpty then throw (.plain "no package patterns given")
  let listed := match ModuleRoot.find? d d.current with
    | some m => ModuleRoot.listAll d m patterns
    | none => patterns.map fun p => ModuleRoot.failed p (ModuleRoot.outside d (d.absolute p))
  return PackageListing.exclude d ps.excluded listed

/-- A package after its files were read. -/
structure LoadedPackage where
  listing : PackageListing
  package : Package
  /-- What is wrong with the package and its files. -/
  problems : List Text

namespace PackageListing

/-- A file as far as it could be read, and its faults. -/
structure ReadFile where
  file : SourceFile
  tree : Option Source.File
  faults : List Source.SyntaxFault

def readFiles (d : Disk) : FileSet → List Text → List ReadFile × FileSet
  | s, [] => ([], s)
  | s, path :: paths =>
    match d.read? path with
    | none => readFiles d s paths
    | some src =>
      let file := Source.sourceFile path s.nextBase src
      let (tree, faults) := Source.File.attemptAll file src
      let (rest, s) := readFiles d (s.add file) paths
      (⟨file, tree, faults⟩ :: rest, s)

/-- Reads the files of a package into a file set and checks them. All files count for the check; generated ones
are left out afterwards. -/
def load (d : Disk) (files : FileSet) (l : PackageListing) : LoadedPackage :=
  let (read, fileSet) := readFiles d files l.files
  let trees := read.filterMap fun r => r.tree.map fun t => (⟨r.file, t⟩ : PackageFile)
  let (info, _) := Typing.checkPackage l.name (trees.filter fun f => f.tree.name.name == l.name)
  { listing := l
    package := { name := l.name, path := l.fullPath, dir := l.dir, fileSet
                 files := trees.filter fun f => !f.tree.isGenerated, info := some info }
    problems := l.problems.map (text "-: " ++ ·) ++ read.flatMap fun r => r.faults.map Source.SyntaxFault.render }

/-- Reads the files of packages one after the other into a file set. -/
def loadAll (d : Disk) : FileSet → List PackageListing → List LoadedPackage × FileSet
  | s, [] => ([], s)
  | s, l :: ls =>
    let p := l.load d s
    let (ps, s) := loadAll d p.package.fileSet ls
    (p :: ps, s)

end PackageListing

end DocAccessors
