import DocAccessors.Data.Json
import DocAccessors.Data.MessagePack
import DocAccessors.Data.Toml.Write
import DocAccessors.Data.Yaml.Write
import DocAccessors.Table.Basic
import DocAccessors.Text.LetterCase

/-!
# Exported documentation

The documentation tables of packages as data, for other programs to read.

* `ExportedDocs` and its parts: what is exported; `ExportedDocs.ofResults` takes it from processed packages;
* `ExportedDocs.toDatum`: the same as a plain value, with empty optional parts left out;
* `ExportFormat`: the formats, `ExportedDocs.encode` writes one.
-/

namespace DocAccessors

/-- Documentation: a text, or the source of the expression that stands for it. -/
structure ExportedDoc where
  text : Text := []
  default : Text := []

/-- A member of a table. -/
structure ExportedMember where
  index : Int
  ident : Text
  name : Text := []
  docs : Option ExportedDoc := none

/-- A table. -/
structure ExportedTable where
  declaration : Text
  attr : Text
  optional : Bool
  file : Text := []
  docs : Option ExportedDoc := none
  consts : List Text := []
  members : List ExportedMember := []

/-- A package; it may have no list of tables at all. -/
structure ExportedPackage where
  name : Text
  path : Text
  tables : Option (List ExportedTable)

/-- What is exported; there may be no list of packages at all. -/
structure ExportedDocs where
  packages : Option (List ExportedPackage)

/-! ## From processed packages -/

/-- The documentation of a table or a member, if there is any. -/
def ExportedDoc.ofValue? : DocValue → Option ExportedDoc
  | .text t => some { text := t }
  | .default e => some { default := e }
  | .absent => none

def ExportedTable.ofTable (t : DocTable) : ExportedTable :=
  { declaration := t.decl.name, attr := t.attr, optional := t.optional, file := t.decl.file
    docs := ExportedDoc.ofValue? t.docs, consts := t.constNames
    members := t.items.zipIdx.map fun (item, i) =>
      { index := i, ident := item.ident, name := item.name, docs := ExportedDoc.ofValue? item.docs } }

/-- The tables of processed packages. -/
def ExportedDocs.ofResults (rs : List PackageResult) : ExportedDocs :=
  ⟨some (rs.map fun r => ⟨r.name, r.path, some (r.tables.map ExportedTable.ofTable)⟩)⟩

/-! ## As data -/

/-- A text that is left out when it is empty. -/
def optionalText (t : Text) : Option Datum := if t.isEmpty then none else some (.text t)

/-- A list that is left out when it is empty. -/
def optionalList (xs : List Datum) : Option Datum := if xs.isEmpty then none else some (.list xs)

/-- Documentation as data. -/
def ExportedDoc.toDatum (d : ExportedDoc) : Datum :=
  .ofFields [("text", optionalText d.text), ("default", optionalText d.default)]

def ExportedMember.toDatum (m : ExportedMember) : Datum :=
  .ofFields [("index", some (.int m.index)), ("ident", some (.text m.ident)), ("name", optionalText m.name),
    ("docs", m.docs.map (·.toDatum))]

def ExportedTable.toDatum (t : ExportedTable) : Datum :=
  .ofFields [("declaration", some (.text t.declaration)), ("attribute", some (.text t.attr)),
    ("optional", some (.bool t.optional)), ("file", optionalText t.file), ("docs", t.docs.map (·.toDatum)),
    ("consts", optionalList (t.consts.map .text)), ("members", optionalList (t.members.map (·.toDatum)))]

/-- A package as data, given what stands for a missing list. -/
def ExportedPackage.toDatum (missing : Datum) (p : ExportedPackage) : Datum :=
  .record [("name", .text p.name), ("path", .text p.path),
    ("tables", (p.tables.map fun ts => .list (ts.map (·.toDatum))).getD missing)]

/-- All packages as data, given what stands for a missing list. -/
def ExportedDocs.toDatum (missing : Datum) (d : ExportedDocs) : Datum :=
  .record [("packages", (d.packages.map fun ps => .list (ps.map (·.toDatum missing))).getD missing)]

/-! ## Formats -/

/-- A format to export to. -/
inductive ExportFormat where
  | json | yaml | toml | msgpack
  deriving DecidableEq

namespace ExportFormat

def all : List ExportFormat := [.json, .yaml, .toml, .msgpack]

def name : ExportFormat → Text
  | .json => "json"
  | .yaml => "yaml"
  | .toml => "toml"
  | .msgpack => "msgpack"

/-- The format with a name, in any letter case; one has a short name too. -/
def ofName? (t : Text) : Option ExportFormat :=
  let t := Text.simpleLower t
  all.find? fun f => f.name == t || (f == .yaml && t == text "yml")

/-- Why a name is not that of a format. -/
def unsupported (t : Text) : Text :=
  text "unsupported format " ++ Text.quote t ++ text " (must be one of " ++ Text.join ", " (all.map name) ++ text ")"

def missing : ExportFormat → Datum
  | .yaml => .list []
  | _ => .null

def write : ExportFormat → Datum → Text
  | .json, d => Json.write d
  | .yaml, d => Yaml.write d
  | .toml, d => Toml.write d
  | .msgpack, d => MessagePack.write d

end ExportFormat

/-- The exported documentation in the format with a name, or why there is none. -/
def ExportedDocs.encode (d : ExportedDocs) (format : Text) : Except Text Text :=
  match ExportFormat.ofName? format with
  | some f => .ok (f.write (d.toDatum f.missing))
  | none => .error (ExportFormat.unsupported format)

end DocAccessors
