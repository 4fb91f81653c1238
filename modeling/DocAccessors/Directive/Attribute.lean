import DocAccessors.Text.Class

/-!
# Attributes

An attribute says what is generated for a declaration. Each has a strict form, where documentation is required,
and most have an optional form, where it may be absent; the two share a base.

* `Placement`: the kinds of declarations and members that a directive can stand on;
* `AttributeBase`: the families of attributes; `Attribute`: one form of one family;
* `Attribute.lookup?` finds an attribute by name, also by a deprecated one.
-/

namespace DocAccessors

/-- What a directive stands on. -/
inductive Placement where
  | struct | enum | type | interface | function | const | var | field | enumValue
  deriving DecidableEq, Repr, Inhabited

namespace Placement

def all : List Placement :=
  [.struct, .enum, .type, .interface, .function, .const, .var, .field, .enumValue]

def name : Placement → Text
  | .struct => "struct"
  | .enum => "enum"
  | .type => "type"
  | .interface => "interface"
  | .function => "function"
  | .const => "const"
  | .var => "var"
  | .field => "field"
  | .enumValue => "enumValue"

def noun : Placement → Text
  | .struct => "structs"
  | .enum => "enums"
  | .type => "non-enum types"
  | .interface => "interfaces"
  | .function => "functions"
  | .const => "constants"
  | .var => "variables"
  | .field => "fields"
  | .enumValue => "enum constants"

end Placement

/-- A family of attributes. -/
inductive AttributeBase where
  /-- A constant that holds the documentation. -/
  | docsConst
  /-- A method that returns the documentation of a type. -/
  | documented
  /-- The documentation of each field, and a look-up by name. -/
  | documentedFields
  /-- A method that returns the documentation of a constant of an enum. -/
  | documentedVariants
  deriving DecidableEq, Repr

def AttributeBase.name : AttributeBase → Text
  | .docsConst => "docs_const"
  | .documented => "documented"
  | .documentedFields => "documented_fields"
  | .documentedVariants => "documented_variants"

/-- One form of a family of attributes. -/
structure Attribute where
  base : AttributeBase
  optional : Bool
  deriving DecidableEq, Repr

namespace Attribute

/-- All attributes, in the order in which they are listed. -/
def all : List Attribute := [
  ⟨.docsConst, false⟩, ⟨.documented, false⟩, ⟨.documented, true⟩, ⟨.documentedFields, false⟩,
  ⟨.documentedFields, true⟩, ⟨.documentedVariants, false⟩, ⟨.documentedVariants, true⟩]

def name (a : Attribute) : Text := if a.optional then a.base.name ++ text "_opt" else a.base.name

def description : Attribute → Text
  | ⟨.docsConst, _⟩ => "Emits a string constant holding the declaration's documentation."
  | ⟨.documented, false⟩ => "Emits a Docs method returning the type's documentation."
  | ⟨.documented, true⟩ => "Like documented, but undocumented types report absence instead of failing."
  | ⟨.documentedFields, false⟩ => "Emits per-field documentation and a by-name lookup."
  | ⟨.documentedFields, true⟩ => "Like documented_fields, with optional member documentation."
  | ⟨.documentedVariants, false⟩ => "Emits a VariantDocs method on an enum type."
  | ⟨.documentedVariants, true⟩ => "Like documented_variants, with optional variant documentation."

/-- Deprecated names that are still accepted. -/
def aliases (a : Attribute) : List Text := if a.base = .docsConst then ["docs"] else []

/-- The declarations that an attribute can stand on. -/
def validOn (a : Attribute) : List Placement :=
  match a.base with
  | .docsConst => [.struct, .enum, .type, .interface, .function, .const, .var]
  | .documented => [.struct, .enum, .type]
  | .documentedFields => [.struct, .enum]
  | .documentedVariants => [.enum]

/-- The members that can carry options of an attribute. -/
def memberOn (a : Attribute) : List Placement :=
  match a.base with
  | .docsConst | .documented => []
  | .documentedFields => [.field, .enumValue]
  | .documentedVariants => [.enumValue]

/-- Whether an attribute can stand on a declaration. -/
def isValidOn (a : Attribute) (p : Placement) : Bool := a.validOn.contains p

/-- Whether options of an attribute can stand on a member. -/
def isMemberOn (a : Attribute) (p : Placement) : Bool := a.memberOn.contains p

def names : List Text := all.map name

/-- The name that is compared: without white space around it. -/
def normalizeName (n : Text) : Text := Text.trim n

/-- The attribute with a name or a deprecated name, and whether the name is deprecated. -/
def lookup? (n : Text) : Option (Attribute × Bool) :=
  let n := normalizeName n
  match all.find? fun a => a.name == n with
  | some a => some (a, false)
  | none => (all.find? fun a => a.aliases.contains n).map fun a => (a, true)

/-- Whether a name stands for one of the given attribute names, directly or as a deprecated name. -/
def namesOneOf (n : Text) (names : List Text) : Bool :=
  names.any fun m => normalizeName n == m || (lookup? n).any fun (a, _) => a.name == m

end Attribute

end DocAccessors
