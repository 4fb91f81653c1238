import DocAccessors.Position.Path
import DocAccessors.Settings.Basic
import DocAccessors.Text.Basic

/-!
# Configuration

What can be configured for a run. A configuration is also a layer: a field that it does not set is left to the
layers below.

* `DecodeFault` is why a text is not a configuration;
* `Configuration.merge` puts one layer over another, field by field; `Configuration.overlay` does so where one of
  them may be missing;
* `Configuration.builtin` is the lowest layer;
* `Configuration.settings` are the settings that every declaration starts from;
* `Configuration.packagePatterns` are the packages to process, seen from the directory of the configuration.
-/

namespace DocAccessors

/-- Why a text is not a configuration. -/
inductive DecodeFault where
  /-- The text does not follow the rules of its format, or a value is of the wrong kind. -/
  | malformed
  /-- Values of the wrong kind and keys that are not known, line by line. -/
  | mismatch (lines : List Text)
  /-- Keys that are not known. -/
  | unknownKeys (message : Text)
  deriving DecidableEq

/-- A fault in words; what is malformed is not explained. -/
def DecodeFault.message? : DecodeFault → Option Text
  | .malformed => none
  | .mismatch ls => some (text "yaml: unmarshal errors:\n  " ++ Text.join "\n  " ls)
  | .unknownKeys m => some m

/-- The settings that hold where no directive says otherwise. -/
structure Defaults where
  trim : Option Bool := none
  renameAll : Option Text := none
  default : Option Text := none
  deriving DecidableEq, Repr

/-- What can be configured. -/
structure Configuration where
  /-- Patterns of the packages to process. -/
  packages : List Text := []
  /-- The name of generated files. -/
  output : Option Text := none
  /-- The namespace of directives. -/
  space : Option Text := none
  logLevel : Option Text := none
  maxDiagnostics : Option Int := none
  /-- How many packages are processed at a time; `0` leaves the choice open. -/
  jobs : Option Int := none
  color : Option Text := none
  defaults : Option Defaults := none
  /-- The directory that relative patterns start from; empty when unknown. -/
  dir : Text := []
  deriving DecidableEq, Repr

/-- One layer of defaults over another. -/
def Defaults.merge (base upper : Defaults) : Defaults where
  trim := upper.trim.or base.trim
  renameAll := upper.renameAll.or base.renameAll
  default := upper.default.or base.default

namespace Configuration

/-- The configuration that holds when nothing is configured. -/
def builtin : Configuration where
  packages := ["./..."]
  output := some "documented_gen.go"
  space := some "documented"
  logLevel := some "info"
  maxDiagnostics := some 100
  jobs := some 0
  color := some "auto"
  defaults := some { trim := some true }

/-- Two layers of defaults, either of which may be missing. -/
def mergeDefaults : Option Defaults → Option Defaults → Option Defaults
  | base, none => base
  | none, some upper => some upper
  | some base, some upper => some (base.merge upper)

/-- One layer over another. -/
def merge (base upper : Configuration) : Configuration where
  packages := if upper.packages.isEmpty then base.packages else upper.packages
  output := upper.output.or base.output
  space := upper.space.or base.space
  logLevel := upper.logLevel.or base.logLevel
  maxDiagnostics := upper.maxDiagnostics.or base.maxDiagnostics
  jobs := upper.jobs.or base.jobs
  color := upper.color.or base.color
  defaults := mergeDefaults base.defaults upper.defaults
  dir := if upper.dir.isEmpty then base.dir else upper.dir

/-- One layer over another, either of which may be missing. -/
def overlay (base upper : Option Configuration) : Configuration :=
  match upper with
  | none => base.getD {}
  | some upper => (base.getD {}).merge upper

/-- The namespace of directives; the default one when none is set. -/
def directiveSpace (c : Configuration) : Text :=
  match c.space with
  | some s => if s.isEmpty then defaultNamespace else s
  | none => defaultNamespace
where
  /-- The namespace of directives when none is configured. -/
  defaultNamespace : Text := "documented"

/-- The settings that every declaration starts from. -/
def settings (c : Configuration) : Settings :=
  match c.defaults with
  | none => {}
  | some d =>
    { trim := d.trim.getD true
      renameCase := d.renameAll.bind CaseConvention.ofName?
      defaultExpr := d.default }

/-- How many diagnostics below errors a bag keeps. -/
def diagnosticLimit (c : Configuration) : Int := c.maxDiagnostics.getD 100

/-- A pattern seen from a directory: a relative path is anchored there, also after the mark for exclusion. -/
def anchor (dir pattern : Text) : Text :=
  let (mark, p) := match Text.dropStart? pattern "!" with
    | some p => (text "!", p)
    | none => ([], pattern)
  mark ++ if !dir.isEmpty && Text.startsWith p "." then Path.join [dir, p] else p

/-- The patterns of the packages to process. -/
def packagePatterns (c : Configuration) : List Text := c.packages.map (anchor c.dir)

end Configuration

end DocAccessors
