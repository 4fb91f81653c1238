import DocAccessors.Directive.Attribute
import DocAccessors.Directive.OptionList

/-!
# Directives

A directive is a line comment `//<namespace>:<attribute> <options>` in the documentation of a declaration or a
member. All other comments are documentation, apart from the comments that tools read.

* `Directive.readAll` finds the directives of a namespace in comments;
* `isToolComment` recognizes comments that are not documentation;
* `fragments` is the documentation: the text of each remaining comment without its markers.
-/

namespace DocAccessors

/-- A comment at a position. -/
structure PlacedComment where
  pos : Pos
  text : Text
  deriving DecidableEq, Repr

/-- A directive. -/
structure Directive where
  attr : Text
  args : Text
  /-- The span of the namespace and the attribute. -/
  nameSpan : Span
  /-- The position of the arguments. -/
  argsPos : Pos
  deriving DecidableEq, Repr

/-- The namespace of directives when none is configured. -/
def defaultNamespace : Text := "documented"

namespace Directive

def options (d : Directive) (keys : KeySet) : List ReadOption × Option Failure := readOptions d.args d.argsPos keys

/-- What a directive of a namespace starts with; the empty namespace is the default one. -/
def lead (space : Text) : Text :=
  text "//" ++ (if space.isEmpty then defaultNamespace else space) ++ text ":"

/-- Reads the part of a comment after its lead: the attribute up to the first white space, and the arguments
without the white space around them. -/
def readBody (space : Text) (c : PlacedComment) (body : Text) : Directive :=
  let glyphs := Text.glyphs body
  let name := Text.ofGlyphs (glyphs.takeWhile fun g => !Text.isSpace g.char)
  let rest := Text.ofGlyphs (glyphs.dropWhile fun g => !Text.isSpace g.char)
  let args := Text.trimStart rest
  { attr := name
    args := Text.trimEnd args
    nameSpan := Span.ofLength (c.pos + 2) ((lead space).length - 2 + name.length)
    argsPos := c.pos + (c.text.length - args.length : Nat) }

def ofComment? (space : Text) (c : PlacedComment) : Option Directive :=
  (Text.dropStart? c.text (lead space)).map (readBody space c)

/-- The directives among comments, in order. -/
def readAll (space : Text) (cs : List PlacedComment) : List Directive := cs.filterMap (ofComment? space)

end Directive

/-! ## Documentation -/

/-- A lower-case letter or digit of ASCII. -/
def isToolByte (b : UInt8) : Bool := Text.isLowerByte b || Text.isDigitByte b

/-- Whether a line comment, without its slashes, is one that tools read: `line`, `extern`, `export`, or a word, a
colon and more without blanks. -/
def isToolText (t : Text) : Bool :=
  Text.startsWith t "line " || Text.startsWith t "extern " || Text.startsWith t "export " ||
    match Text.indexOf? t 58 with
    | none => false
    | some i =>
      0 < i && (t.take i).all isToolByte && (t[i + 1]?).any isToolByte

/-- Whether a comment is one that tools read. -/
def isToolComment (c : Text) : Bool := ((Text.dropStart? c "//").map isToolText).getD false

/-- The documentation in a comment: its text without the markers. -/
def fragment? (c : Text) : Option Text :=
  if Text.startsWith c "//" then
    if isToolComment c then none else some (Text.dropEnd (c.drop 2) "\r")
  else if Text.startsWith c "/*" && Text.endsWith c "*/" then some ((c.drop 2).take (c.length - 4))
  else none

/-- The documentation in comments, in order. -/
def fragments (cs : List Text) : List Text := cs.filterMap fragment?

end DocAccessors
