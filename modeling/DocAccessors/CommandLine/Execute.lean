import DocAccessors.CommandLine.Command
import DocAccessors.Configuration.File
import DocAccessors.Diagnostic.Report
import DocAccessors.Export.Basic
import DocAccessors.Run.Basic

/-!
# Executing commands

`execute` answers arguments: what is written to the two output streams, the exit code, and the disk afterwards.

* `generate` writes the generated files of all packages;
* `check` reports problems and files that are out of date, and writes nothing;
* `dump` exports the tables of all packages;
* `version` says which version of the program is running.
-/

namespace DocAccessors

/-- What a program says about itself. -/
structure ProgramInfo where
  version : Text := []
  /-- What the program is run by. -/
  runtime : Text := []

/-- The version of a program; one that is unknown is under development. -/
def ProgramInfo.versionName (i : ProgramInfo) : Text := if i.version.isEmpty then "dev" else i.version

/-- What executing arguments comes to. -/
structure Outcome where
  code : Nat := 0
  out : Text := []
  err : Text := []
  disk : Disk
  /-- The fault that ended the program before its command was done. -/
  fault : Option Report.Fault := none

namespace Outcome

/-- The outcome with more output. -/
def write (o : Outcome) (t : Text) : Outcome := { o with out := o.out ++ t }

/-- The outcome with more output about problems. -/
def tell (o : Outcome) (t : Text) : Outcome := { o with err := o.err ++ t }

/-- The outcome of a command that failed; what is wrong has been told. -/
def fail (o : Outcome) : Outcome := { o with code := 1 }

/-- The outcome of a command that failed for a reason. -/
def failWith (o : Outcome) (reason : Text) : Outcome := (o.tell (text "Error: " ++ reason ++ text "\n")).fail

/-- The outcome of a program that a fault has ended. -/
def crash (o : Outcome) (f : Report.Fault) : Outcome := { o with code := 2, fault := some f }

/-- Goes on, unless a fault has ended the program. -/
def andThen (o : Outcome) (next : Outcome → Outcome) : Outcome := if o.fault.isSome then o else next o

end Outcome

namespace CommandLine

/-! ## Configuration -/

/-- The layer of configuration that arguments give. -/
def layerOf (a : Arguments) : Configuration where
  packages := a.rest
  output := a.text? "output"
  space := a.text? "prefix"
  logLevel := a.text? "log-level"
  maxDiagnostics := a.int? "max-diagnostics"
  jobs := a.int? "jobs"
  color := a.text? "color"

/-- The configuration below the arguments: that of the file which they name, or else of the file in the current
directory, or else the built-in one. -/
def baseConfiguration (d : Disk) (a : Arguments) : Except LoadFault Configuration :=
  let asked := (a.text? "config").filter fun p => !p.isEmpty
  match asked.or (Configuration.find? d d.currentPath) with
  | some path => Configuration.load d path
  | none => .ok .builtin

/-- The configuration of a run. Packages that are given as arguments are seen from the current directory. -/
def configuration (d : Disk) (a : Arguments) : Except Text Configuration :=
  match baseConfiguration d a with
  | .error f => .error f.message
  | .ok base =>
    let c := base.merge (layerOf a)
    let c := if a.rest.isEmpty then c else { c with dir := [] }
    match c.problem? with
    | some p => .error (text "invalid configuration: " ++ p)
    | none => .ok c

/-- The level from which on records are shown. -/
def threshold (c : Configuration) : Option LogLevel := LogLevel.threshold (c.logLevel.getD "info")

/-! ## Commands -/

/-- Resolves the packages that arguments name and goes on with them, unless that fails. -/
def withResolution (d : Disk) (a : Arguments) (next : Configuration → Resolution → Outcome → Outcome) : Outcome :=
  let start : Outcome := { disk := d }
  match configuration d a with
  | .error m => start.failWith m
  | .ok c =>
    match Resolution.ofConfiguration c d with
    | .error f => start.failWith f.message
    | .ok (r, log) => next c r (start.tell (Log.render (threshold c) log))

/-- The diagnostics of a resolution as they are told: all bags in one, sorted. -/
def reportBag (c : Configuration) (r : Resolution) : Bag := (r.diagnostics c.diagnosticLimit).sort (some r.files)

/-- What telling them needs to know. -/
def reportContext (c : Configuration) (r : Resolution) (d : Disk) : Report.Context :=
  ⟨some r.files, d.read?, c.color == some (text "always")⟩

/-- Tells the diagnostics of a resolution; errors make the command fail, and so do warnings when it is strict. A
diagnostic that cannot be written ends the program; what was told before it is left out. -/
def report [Text.Widths] (c : Configuration) (r : Resolution) (strict : Bool) (o : Outcome) : Outcome :=
  match (reportContext c r o.disk).bag (reportBag c r) with
  | .error f => o.crash f
  | .ok t =>
    if (reportBag c r).hasErrors || (strict && (reportBag c r).hasWarnings) then (o.tell t).fail else o.tell t

/-- The switch that makes warnings count as errors. -/
def isStrict (a : Arguments) : Bool := a.isOn "warnings-as-errors"

/-- Writes the generated files of all packages. -/
def generate [Text.Widths] (d : Disk) (a : Arguments) : Outcome :=
  withResolution d a fun c r o =>
    let (paths, r, d) := r.generate c o.disk
    report c r (isStrict a) ({ o with disk := d }.write (paths.flatMap fun p => p ++ text "\n"))

/-- What is told about a directory whose generated file is out of date. -/
def staleLine (dir : Text) : Text := dir ++ text ": generated documentation is out of date; run gondoc generate\n"

/-- Reports problems, and files that are out of date. -/
def check [Text.Widths] (d : Disk) (a : Arguments) : Outcome :=
  withResolution d a fun c r o =>
    let (dirs, r) := if a.isOn "no-stale" then ([], r) else r.stale c o.disk
    (report c r (isStrict a) o).andThen fun o =>
      let o := o.tell (dirs.flatMap staleLine)
      if dirs.isEmpty then o else o.fail

/-- Writes to a file, or to the output when none is named. -/
def deliver (path contents : Text) (o : Outcome) : Outcome :=
  if path.isEmpty || path == text "-" then o.write contents
  else match o.disk.write path contents with
    | .ok d => { o with disk := d }
    | .error f => o.failWith (text "failed to create " ++ path ++ text ": " ++ f.toFailure.message)

/-- Exports the tables of all packages. -/
def dump [Text.Widths] (d : Disk) (a : Arguments) : Outcome :=
  let name := (a.text? "format").getD "json"
  match ExportFormat.ofName? name with
  | none => ({ disk := d } : Outcome).failWith (ExportFormat.unsupported name)
  | some _ =>
    withResolution d a fun c r o =>
      let o := report c r false o
      if o.code != 0 then o
      else match (ExportedDocs.ofResults r.packages).encode name with
        | .ok t => deliver ((a.text? "out").getD []) t o
        | .error m => o.failWith m

/-- Says which version of the program is running. -/
def version (i : ProgramInfo) (d : Disk) (a : Arguments) : Outcome :=
  let o : Outcome := { disk := d }
  if a.isOn "json" then
    o.write (Json.write (.record [(text "tool", .text Command.programName), (text "version", .text i.versionName),
      (text "go", .text i.runtime)]))
  else o.write (Command.programName ++ text " " ++ i.versionName ++ text " (" ++ i.runtime ++ text ")\n")

/-- What the program says when only its version is asked for. -/
def versionLine (i : ProgramInfo) : Text := Command.programName ++ text " version " ++ i.versionName ++ text "\n"

/-- Executes a command. Explanations and scripts for command shells are empty. -/
def run [Text.Widths] (i : ProgramInfo) (d : Disk) (c : Command) (a : Arguments) : Outcome :=
  let nothing : Outcome := { disk := d }
  if a.isOn Command.helpFlag.name then nothing
  else match c with
    | .generate => generate d a
    | .check => check d a
    | .dump => dump d a
    | .version => version i d a
    | .root => if a.isOn "version" then nothing.write (versionLine i) else nothing
    | .help | .completion => nothing

/-- Answers arguments. -/
def execute [Text.Widths] (i : ProgramInfo) (d : Disk) (args : List Text) : Outcome :=
  let start : Outcome := { disk := d }
  match Command.find args with
  | .error word => start.failWith (Command.unknownMessage word)
  | .ok (c, args) =>
    match Flag.readAll c.flags args with
    | .error f => start.failWith f.message
    | .ok a => run i d c a

end CommandLine

end DocAccessors
