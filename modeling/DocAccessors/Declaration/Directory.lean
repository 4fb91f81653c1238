import DocAccessors.Declaration.Package
import DocAccessors.Disk.Basic
import DocAccessors.Log.Basic

/-!
# Packages on disk

* `Package.takeStored` takes up a file from disk;
* `Package.takeDirectory` takes up the source files of a directory, without tests and generated files.
-/

namespace DocAccessors.Package

/-- Takes up a file from disk; generated files can be left out. Whether the file was taken up. -/
def takeStored (p : Package) (d : Disk) (path : Text) (skipGenerated : Bool) : Package × Except Failure Bool :=
  match d.read path with
  | .ok src => p.takeFile path src skipGenerated
  | .error f => (p, .error (.context (text "failed to parse " ++ path) f.toFailure))

/-- Whether a name is one of a source file that is not a test. -/
def isSourceName (n : Text) : Bool := Text.endsWith n ".go" && !Text.endsWith n "_test.go"

/-- What is logged about a generated file. -/
def skipped (path : Text) : LogRecord := ⟨.debug, "skipping generated file", [⟨"file", .text path⟩]⟩

/-- Takes up files one by one, up to the first that fails. -/
def takeStoredFiles (d : Disk) : Package → List Text → Package × List LogRecord × Option Failure
  | p, [] => (p, [], none)
  | p, path :: paths =>
    match p.takeStored d path true with
    | (p, .error f) => (p, [], some f)
    | (p, .ok true) => takeStoredFiles d p paths
    | (p, .ok false) =>
      let (p, log, failure) := takeStoredFiles d p paths
      (p, skipped path :: log, failure)

/-- Takes up the source files of a directory in the order of their names. -/
def takeDirectory (p : Package) (d : Disk) (dir : Text) : Package × List LogRecord × Option Failure :=
  match d.list dir with
  | .error f => (p, [], some (.context (text "failed to read " ++ dir) f.toFailure))
  | .ok names =>
    let sources := names.filter fun (n, e) => !e.isDirectory && isSourceName n
    match takeStoredFiles d p (sources.map fun (n, _) => Path.join [dir, n]) with
    | (p, log, none) => ({ p with dir }, log, none)
    | r => r

end DocAccessors.Package
