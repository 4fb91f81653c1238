import DocAccessors.Constant.Basic
import DocAccessors.Directive.Basic
import DocAccessors.Text.LetterCase

/-!
# Declarations

The declarations of a package that can carry directives, with their members.

* `Declaration`: a type, constant, variable or function with its documentation and its directives;
* `Member`: a field of a struct or a constant of an enum;
* `isExported`, `applyVisibility`: a name is exported when its first letter is a capital.
-/

namespace DocAccessors

def isExported (name : Text) : Bool := (Text.firstGlyph? name).any fun g => Text.isUpper g.char

/-- The name with its first letter in the case that a visibility asks for; a name that starts with an
undecodable byte stays. -/
def applyVisibility (name : Text) (v : Visibility) : Text :=
  match Text.firstGlyph? name with
  | none => name
  | some g =>
    if g.char == Text.replacement then name
    else
      let c := if v = .exported then Text.toUpper g.char else Text.toLower g.char
      Text.ofChar c ++ name.drop g.width

/-- Whether a text is a name that can be declared: letters and digits, starting with a letter, and no keyword. -/
def isIdentifier (name : Text) : Bool :=
  (match Text.chars name with
    | [] => false
    | c :: cs => Text.isIdentStart c && cs.all Text.isIdentPart) &&
    Source.Token.ofWord name == .ident

/-- A name where it is declared. -/
structure DeclaredName where
  name : Text
  pos : Pos
  deriving DecidableEq, Repr

def DeclaredName.span (n : DeclaredName) : Span := Span.ofLength n.pos n.name.length

/-- A field of a struct or a constant of an enum. -/
structure Member where
  /-- The name; an embedded field is named by its type. -/
  name : Text
  embedded : Bool := false
  placement : Placement
  pos : Pos
  fragments : List Text
  directives : List Directive
  /-- The value of a constant, when it is known. -/
  value : Option Constant := none

namespace Member

/-- Whether the member has no name to refer to it by. -/
def isAnonymous (m : Member) : Bool := m.name == text "_" || m.name.isEmpty

/-- The name before any renaming; empty for an anonymous member. -/
def lookupName (m : Member) : Text := if m.isAnonymous then [] else m.name

def span (m : Member) : Span := Span.ofLength m.pos (max 1 m.name.length)

end Member

/-- A declaration that can carry directives. -/
structure Declaration where
  /-- One name, or several for constants and variables declared together. -/
  names : List DeclaredName
  placement : Placement
  /-- Whether the first name is exported. -/
  exported : Bool
  /-- The names of the parameters of a generic type. -/
  typeParams : List Text := []
  /-- Whether a type is only another name for a type. -/
  isAlias : Bool := false
  /-- The enum that constants belong to; empty when there is none. -/
  enum : Text := []
  fragments : List Text
  directives : List Directive
  /-- Fields or constants, in the order of their declaration. -/
  members : List Member := []
  file : Text

namespace Declaration

def name (d : Declaration) : Text := (d.names.head?.map (·.name)).getD []

/-- The position of the first name. -/
def pos (d : Declaration) : Pos := (d.names.head?.map (·.pos)).getD 0

/-- The span of the first name. -/
def span (d : Declaration) : Span := (d.names.head?.map (·.span)).getD {}

def isEnum (d : Declaration) : Bool := d.placement == .enum

def memberPlacement (d : Declaration) : Placement := if d.isEnum then .enumValue else .field

/-- The type as the receiver of a method, with the names of its parameters. -/
def receiver (d : Declaration) : Text :=
  if d.typeParams.isEmpty then d.name
  else d.name ++ text "[" ++ Text.join ", " d.typeParams ++ text "]"

end Declaration

end DocAccessors
