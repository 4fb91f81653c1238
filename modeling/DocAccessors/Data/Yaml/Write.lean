import DocAccessors.Data.Basic
import DocAccessors.Data.Yaml.Scalar

/-!
# Writing YAML

Records and lists are written in blocks, two blanks deeper for each level. A text is written plain when it reads as
itself, as a block of lines when it has line breaks, and in quotes otherwise.

* `Shape`: what stands in the way of a style;
* `Style`: how a text is written, `styleOf` the choice;
* `write`: a whole value.
-/

namespace DocAccessors.Yaml

open DocAccessors.Text (Glyph)

/-! ## Characters -/

/-- Whether a code point can stand outside of escapes. -/
def isPrintable (c : Char) : Bool :=
  c == '\n' || (' ' ≤ c && c ≤ '~') || ('\u00a0' ≤ c && c.toNat < 0xD800) ||
    (0xE000 ≤ c.toNat && c.toNat ≤ 0xFFFD && c != Text.byteOrderMark)

/-- Whether a code point breaks a line. -/
def isBreak (c : Char) : Bool := c == '\r' || c == '\n' || c == '\u0085' || c == '\u2028' || c == '\u2029'

/-- Whether a code point is a blank. -/
def isBlank (c : Char) : Bool := c == ' ' || c == '\t'

/-! ## What stands in the way -/

/-- What has been found in a text. -/
structure Shape where
  indicators : Bool := false
  breaks : Bool := false
  special : Bool := false
  tabs : Bool := false
  leading : Bool := false
  trailing : Bool := false
  trailingSpace : Bool := false
  breakSpace : Bool := false
  spaceBreak : Bool := false

/-- Whether a character at the start of a text, or after another one, means something. -/
def isIndicator (first : Bool) (afterBlank beforeBlank : Bool) (c : Char) : Bool :=
  if first then
    "#,[]\x7b\x7d&*!|>'\"%@\x60".toList.contains c || (beforeBlank && (c == '?' || c == ':' || c == '-'))
  else (c == ':' && beforeBlank) || (c == '#' && afterBlank)

/-- Looks through a text from a character on; the character before it, if any, is given. -/
def shapeFrom : Option Char → List Char → Shape → Shape
  | _, [], s => s
  | before, c :: r, s =>
    let beforeBlank := r.isEmpty || r.head?.any isBlank
    let afterBlank := before.all isBlank || before.any isBreak
    let s := { s with
      indicators := s.indicators || isIndicator before.isNone afterBlank beforeBlank c
      special := s.special || (!isPrintable c && c != '\t')
      tabs := s.tabs || c == '\t'
      leading := s.leading || (before.isNone && (c == ' ' || isBreak c))
      trailing := s.trailing || (r.isEmpty && (c == ' ' || isBreak c))
      trailingSpace := s.trailingSpace || (r.isEmpty && c == ' ')
      breaks := s.breaks || isBreak c
      breakSpace := s.breakSpace || (c == ' ' && before.any isBreak)
      spaceBreak := s.spaceBreak || (isBreak c && before == some ' ') }
    shapeFrom (some c) r s

/-- What stands in the way of a style for a text. -/
def shapeOf (t : Text) : Shape :=
  let document := Text.startsWith t "---" || Text.startsWith t "..."
  shapeFrom none (Text.chars t) { indicators := document }

/-! ## Styles -/

/-- How a text is written. -/
inductive Style where
  | plain | single | double | literal
  deriving DecidableEq

/-- The style of a text; `plain` tells whether it reads as itself without quotes. -/
def styleOf (plain : Bool) (t : Text) : Style :=
  let s := shapeOf t
  let singleAllowed := !(s.breakSpace || s.spaceBreak || s.tabs || s.special)
  if t.any (· == 10) then (if s.trailingSpace || s.spaceBreak || s.special then .double else .literal)
  else if !plain then .double
  else if !(s.leading || s.trailing || s.breakSpace || s.spaceBreak || s.tabs || s.special || s.breaks || s.indicators)
  then .plain
  else if singleAllowed then .single
  else .double

/-- A code point as an escape. -/
def escape (c : Char) : Text :=
  match c with
  | '\x00' => "\\0"
  | '\x07' => "\\a"
  | '\x08' => "\\b"
  | '\t' => "\\t"
  | '\n' => "\\n"
  | '\x0b' => "\\v"
  | '\x0c' => "\\f"
  | '\r' => "\\r"
  | '\x1b' => "\\e"
  | '"' => "\\\""
  | '\\' => "\\\\"
  | '\u0085' => "\\N"
  | '\u00a0' => "\\_"
  | '\u2028' => "\\L"
  | '\u2029' => "\\P"
  | c =>
    let digits (n : Nat) : Text := (Text.hex n c.toNat).map Text.upperByte
    if c.toNat ≤ 0xFF then text "\\x" ++ digits 2
    else if c.toNat ≤ 0xFFFF then text "\\u" ++ digits 4
    else text "\\U" ++ digits 8

/-- A text between double quotes. After a byte order mark everything is escaped. -/
def doubleQuoted (t : Text) : Text :=
  let cs := Text.chars t
  let all := cs.head? == some Text.byteOrderMark
  let one (c : Char) : Text :=
    if all || !isPrintable c || isBreak c || c == '"' || c == '\\' then escape c else Text.ofChar c
  text "\"" ++ cs.flatMap one ++ text "\""

def blanks (n : Nat) : Text := List.replicate n 32

/-- A text between single quotes; after a line break come blanks up to the column. -/
def singleQuotedFrom (column : Nat) : Bool → List Char → Text
  | _, [] => "'"
  | afterBreak, c :: r =>
    if c == ' ' then text " " ++ singleQuotedFrom column afterBreak r
    else if isBreak c then Text.ofChar c ++ singleQuotedFrom column true r
    else
      (if afterBreak then blanks column else []) ++ (if c == '\'' then text "''" else Text.ofChar c) ++
        singleQuotedFrom column false r

/-- The mark that a block starts with: its depth when the first line does not show it, and what to do with the line
breaks at the end. -/
def blockMark (cs : List Char) : Text :=
  let depth := if cs.head?.any fun c => c == ' ' || isBreak c then text "2" else []
  let chomp := match cs.reverse with
    | [] => text "-"
    | [c] => if isBreak c then text "+" else text "-"
    | c :: d :: _ => if !isBreak c then text "-" else if isBreak d then text "+" else []
  text "|" ++ depth ++ chomp

/-- The lines of a block: whether the line has just been broken, and whether blanks are due. -/
def blockFrom (column : Nat) : Bool → Bool → List Char → Text
  | fresh, _, [] => if fresh then [] else text "\n"
  | fresh, due, c :: r =>
    if isBreak c then Text.ofChar c ++ blockFrom column true true r
    else
      (if due then (if fresh then [] else text "\n") ++ blanks column else []) ++ Text.ofChar c ++
        blockFrom column false false r

/-- A text as the value of something at a level, with the line break at the end. -/
def writeStyled (style : Style) (column : Nat) (t : Text) : Text :=
  let cs := Text.chars t
  match style with
  | .plain => t ++ text "\n"
  | .single => text "'" ++ singleQuotedFrom column false cs ++ text "\n"
  | .double => doubleQuoted t ++ text "\n"
  | .literal => blockMark cs ++ blockFrom column false true cs

/-! ## Bytes -/

/-- The digit of a value below 64. -/
def base64Digit (n : Nat) : UInt8 :=
  if n < 26 then UInt8.ofNat (65 + n)
  else if n < 52 then UInt8.ofNat (71 + n)
  else if n < 62 then UInt8.ofNat (n - 4)
  else if n = 62 then 43 else 47

def base64 : Text → Text
  | a :: b :: c :: r =>
    let n := a.toNat * 65536 + b.toNat * 256 + c.toNat
    base64Digit (n / 262144) :: base64Digit (n / 4096 % 64) :: base64Digit (n / 64 % 64) :: base64Digit (n % 64) ::
      base64 r
  | [a, b] =>
    let n := a.toNat * 65536 + b.toNat * 256
    [base64Digit (n / 262144), base64Digit (n / 4096 % 64), base64Digit (n / 64 % 64), 61]
  | [a] =>
    let n := a.toNat * 65536
    [base64Digit (n / 262144), base64Digit (n / 4096 % 64), 61, 61]
  | [] => []

/-- The number of digits on a line. -/
def base64Width : Nat := 70

/-- Lines of at most a width, each with a line break. -/
def wrapped : Nat → Text → Text
  | 0, _ => []
  | fuel + 1, t => if t.isEmpty then [] else t.take base64Width ++ text "\n" ++ wrapped fuel (t.drop base64Width)

/-- A text as the value of something at a level: bytes that are not valid UTF-8 are marked as such. -/
def writeText (column : Nat) (t : Text) : Text :=
  if Text.isValid t then writeStyled (styleOf (readsAsText t) t) column t
  else
    let digits := base64 t
    let s := if digits.length < base64Width then digits else wrapped (digits.length + 1) digits
    text "!!binary " ++ writeStyled (styleOf true s) column s

/-! ## Values -/

/-- A text without the blanks at its start. -/
def dropBlanks (t : Text) : Text := t.dropWhile (· == 32)

mutual

/-- A value after a key or a dash, for something that stands in a column; a block starts on a new line. -/
def writeValue (column : Nat) : Datum → Text
  | .null => " null\n"
  | .bool true => " true\n"
  | .bool false => " false\n"
  | .int n => text " " ++ Text.ofInt n ++ text "\n"
  | .other t => text " " ++ t ++ text "\n"
  | .text t => text " " ++ writeText (column + 2) t
  | .list [] => " []\n"
  | .list xs => text "\n" ++ writeList (column + 2) xs
  | .record [] => " \x7b\x7d\n"
  | .record fs => text "\n" ++ writeFields (column + 2) fs

/-- The items of a list, with their dashes in a column. -/
def writeList (column : Nat) : List Datum → Text
  | [] => []
  | .record (f :: fs) :: xs =>
    blanks column ++ text "- " ++ dropBlanks (writeFields (column + 2) (f :: fs)) ++ writeList column xs
  | .list (y :: ys) :: xs =>
    blanks column ++ text "- " ++ dropBlanks (writeList (column + 2) (y :: ys)) ++ writeList column xs
  | x :: xs => blanks column ++ text "-" ++ writeValue column x ++ writeList column xs

/-- The fields of a record, with their keys in a column. -/
def writeFields (column : Nat) : List (Text × Datum) → Text
  | [] => []
  | (k, v) :: fs => blanks column ++ k ++ text ":" ++ writeValue column v ++ writeFields column fs

end

/-- A value as a text of its own. -/
def write : Datum → Text
  | .record (f :: fs) => writeFields 0 (f :: fs)
  | .list (x :: xs) => writeList 0 (x :: xs)
  | d => dropBlanks (writeValue 0 d)

end DocAccessors.Yaml
