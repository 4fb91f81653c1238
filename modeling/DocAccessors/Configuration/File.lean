import DocAccessors.Configuration.DataLayer
import DocAccessors.Configuration.Validate
import DocAccessors.Configuration.YamlLayer
import DocAccessors.Disk.Basic

/-!
# Configuration files

A layer of configuration can be written in three formats. Keys that are not known are refused.

* `ConfigFormat`: the formats;
* `Configuration.decode`: the layer that a text stands for;
* `Configuration.load` reads a file, puts it over the built-in configuration and validates the result;
* `Configuration.find?` is the configuration file of a directory.
-/

namespace DocAccessors

/-- A format of configuration files. -/
inductive ConfigFormat where
  | yaml | toml | json
  deriving DecidableEq

/-- The format of files with a name ending. -/
def ConfigFormat.ofExtension? (ext : Text) : Option ConfigFormat :=
  if ext == text ".yml" || ext == text ".yaml" then some .yaml
  else if ext == text ".toml" then some .toml
  else if ext == text ".json" then some .json
  else none

/-- The layer that a text stands for. -/
def Configuration.decode : ConfigFormat → Text → Except DecodeFault Configuration
  | .yaml, t => YamlLayer.decode t
  | .toml, t => DataLayer.decodeToml t
  | .json, t => DataLayer.decodeJson t

/-- Why a configuration file cannot be used. -/
inductive LoadFault where
  | unreadable (fault : Disk.Fault)
  /-- The ending of the name belongs to no format. -/
  | unsupported (ext : Text)
  | undecodable (path : Text) (fault : DecodeFault)
  | invalid (path problem : Text)
  deriving DecidableEq

/-- What stands before the words of a fault in decoding. -/
def LoadFault.decoding (path : Text) : Text := text "parse config " ++ path ++ text ": "

def LoadFault.message : LoadFault → Text
  | .unreadable f => text "read config: " ++ f.toFailure.message
  | .unsupported ext => text "unsupported config format " ++ Text.quote ext
  | .undecodable path f => decoding path ++ f.message?.getD "malformed"
  | .invalid path problem => text "invalid config " ++ path ++ text ": " ++ problem

namespace Configuration

/-- The names of configuration files, the one that counts first. -/
def fileNames : List Text := [".gondoc.yml", ".gondoc.yaml", ".gondoc.toml", ".gondoc.json"]

/-- The configuration file in a directory. -/
def find? (d : Disk) (dir : Text) : Option Text := (fileNames.map fun n => Path.join [dir, n]).find? d.isFile

/-- The configuration that a file gives, over the built-in one. -/
def load (d : Disk) (path : Text) : Except LoadFault Configuration := do
  let data ← match d.read (Path.clean path) with
    | .ok data => pure data
    | .error f => throw (.unreadable f)
  let some format := ConfigFormat.ofExtension? (Text.simpleLower (Path.ext path)) | throw (.unsupported (Path.ext path))
  let layer ← match decode format data with
    | .ok c => pure c
    | .error f => throw (.undecodable path f)
  let c := { builtin.merge layer with dir := d.absolute (Path.dir path) }
  match c.problem? with
  | some p => throw (.invalid path p)
  | none => return c

end Configuration

end DocAccessors
