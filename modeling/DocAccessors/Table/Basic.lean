import DocAccessors.Diagnostic.Bag
import DocAccessors.Doc.Basic
import DocAccessors.Lookup.Basic
import DocAccessors.Table.Binding

/-!
# Documentation tables

What one attribute on one declaration comes to: the documentation of the declaration or of its members, ready to
be generated.
-/

namespace DocAccessors

/-- A member in a table. -/
structure TableItem where
  /-- The name that the member is published under; empty if it has none. -/
  name : Text
  /-- Whether the member is published under a name. -/
  named : Bool
  /-- The name of the member in its declaration. -/
  ident : Text
  docs : DocValue
  pos : Pos

/-- The documentation that one attribute gives one declaration. -/
structure DocTable where
  /-- The name of the attribute. -/
  attr : Text
  /-- The name of its family. -/
  base : Text
  /-- Whether documentation may be absent. -/
  optional : Bool
  decl : Declaration
  /-- The documentation of the declaration itself. -/
  docs : DocValue := .absent
  /-- The names of the constants to generate. -/
  constNames : List Text := []
  items : List TableItem := []
  /-- From published names to the positions of items. -/
  index : Option LookupTable := none

/-- The empty table of an attribute on a declaration. -/
def DocTable.ofAttribute (a : Attribute) (d : Declaration) : DocTable :=
  { attr := a.name, base := a.base.name, optional := a.optional, decl := d }

/-- Everything found in one package. -/
structure PackageResult where
  name : Text
  path : Text := []
  dir : Text
  files : FileSet
  tables : List DocTable
  bag : Bag

end DocAccessors
