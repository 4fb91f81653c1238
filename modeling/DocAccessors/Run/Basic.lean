import DocAccessors.Generate.File
import DocAccessors.Log.Basic
import DocAccessors.Module.Load
import DocAccessors.Table.Resolve

/-!
# Runs

A run resolves all packages that a configuration names, and then brings their generated files up to date or
compares with them.

* `Resolution` is what the packages come to;
* `Resolution.generate` writes the generated files of the packages without errors;
* `Resolution.stale` are the directories of packages whose generated files are out of date.
-/

namespace DocAccessors

/-- What the packages of a run come to. -/
structure Resolution where
  packages : List PackageResult := []
  files : FileSet := {}

/-- What is logged about the declarations of a package that have errors. -/
def Package.rejections (c : Configuration) (p : Package) : List LogRecord :=
  (p.declarations c).filterMap fun d =>
    (processDeclaration c.settings d).failure.map fun f =>
      ⟨.debug, "declaration rejected",
        [⟨"name", .text d.name⟩, ⟨"errors", .int ((f.diagnostics?.getD []).length)⟩]⟩

/-- What is logged about a package and what it comes to. -/
def LoadedPackage.log (c : Configuration) (p : LoadedPackage) (r : PackageResult) : List LogRecord :=
  p.problems.map (fun e => ⟨.warn, "package has errors", [⟨"package", .text p.listing.path⟩, ⟨"error", .text e⟩]⟩) ++
    p.package.rejections c ++
    [⟨.debug, "package resolved", [⟨"package", .text p.listing.path⟩, ⟨"tables", .int r.tables.length⟩]⟩]

namespace Resolution

/-- Resolves the packages that a configuration names. -/
def ofConfiguration (c : Configuration) (d : Disk) : Except Failure (Resolution × List LogRecord) :=
  match d.listPackages c.packagePatterns with
  | .error f => .error (.context "failed to load packages" f)
  | .ok listed =>
    let (loaded, files) := PackageListing.loadAll d {} listed
    let results := loaded.map fun p => (p, processPackage c p.package)
    .ok (⟨results.map Prod.snd, files⟩, results.flatMap fun (p, r) => p.log c r)

def hasErrors (r : Resolution) : Bool := r.packages.any fun p => p.bag.hasErrors

def diagnostics (r : Resolution) (limit : Int) : Bag := r.packages.foldl (fun b p => b.merge p.bag) (Bag.empty limit)

/-- The generator that a configuration asks for. -/
def generatorOf (c : Configuration) : Generator := .ofOutput (c.output.getD defaultOutput)

/-- What brings the file of a package up to date: the path written or removed, if any, and the disk after it. -/
abbrev Writer := Disk → PackageResult → Except Failure (Option Text × Disk)

/-- Writes files one after the other, passing over packages with errors: the paths written or removed, the packages
with the failures added to their diagnostics, and the disk after it. -/
def writeAll (write : Writer) : Disk → List PackageResult → List Text × List PackageResult × Disk
  | d, [] => ([], [], d)
  | d, p :: ps =>
    if p.bag.hasErrors then
      let (paths, qs, d) := writeAll write d ps
      (paths, p :: qs, d)
    else match write d p with
      | .error f =>
        let (paths, qs, d) := writeAll write d ps
        (paths, { p with bag := p.bag.addFailure (some f) } :: qs, d)
      | .ok (path, d) =>
        let (paths, qs, d) := writeAll write d ps
        (path.toList ++ paths, p :: qs, d)

/-- Writes the generated files of the packages without errors. -/
def generate (r : Resolution) (c : Configuration) (d : Disk) : List Text × Resolution × Disk :=
  let (paths, packages, d) := writeAll (generatorOf c).write d r.packages
  (paths, { r with packages }, d)

/-- Whether the generated file of a package is out of date, and the package with the failure, if any, added to its
diagnostics; a package with errors is passed over. -/
def inspect (g : Generator) (d : Disk) (p : PackageResult) : Bool × PackageResult :=
  if p.bag.hasErrors then (false, p)
  else match g.isStale d p with
    | .ok b => (b, p)
    | .error f => (false, { p with bag := p.bag.addFailure (some f) })

/-- The directories of the packages whose generated files are out of date. -/
def stale (r : Resolution) (c : Configuration) (d : Disk) : List Text × Resolution :=
  let inspected := r.packages.map (inspect (generatorOf c) d)
  ((inspected.filter Prod.fst).map fun i => i.2.dir, { r with packages := inspected.map Prod.snd })

end Resolution

end DocAccessors
