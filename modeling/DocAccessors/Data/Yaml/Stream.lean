import DocAccessors.Data.Yaml.Write

/-!
# The characters of a YAML text

A text is in UTF-8, or in UTF-16 when it starts with a byte order mark of that encoding. Only some code points can
stand in it.

* `decode?` is the list of code points, without the mark at the start;
* `Cursor` is a place in such a list: what follows, with the line, the column and the number of code points before it.
-/

namespace DocAccessors.Yaml

/-! ## Encodings -/

/-- Code points from units of sixteen bits; a code point past U+FFFF takes two of them. -/
def ofUnits? : List Nat → Option (List Char)
  | [] => some []
  | u :: r =>
    if 0xDC00 ≤ u && u < 0xE000 then none
    else if 0xD800 ≤ u && u < 0xDC00 then
      match r with
      | [] => none
      | v :: r =>
        if 0xDC00 ≤ v && v < 0xE000 then
          (ofUnits? r).map (Char.ofNat (0x10000 + (u - 0xD800) * 1024 + (v - 0xDC00)) :: ·)
        else none
    else (ofUnits? r).map (Char.ofNat u :: ·)

/-- Units of sixteen bits, each of two bytes. -/
def units? (join : Nat → Nat → Nat) : Text → Option (List Nat)
  | [] => some []
  | [_] => none
  | a :: b :: r => (units? join r).map (join a.toNat b.toNat :: ·)

/-- Whether a code point can stand in a text at all. -/
def isAllowed (c : Char) : Bool :=
  c == '\t' || c == '\n' || c == '\r' || (' ' ≤ c && c ≤ '~') || c == '\u0085' ||
    ('\u00a0' ≤ c && c.toNat != 0xFFFE && c.toNat != 0xFFFF)

/-- The code points of a text. -/
def decode? (t : Text) : Option (List Char) :=
  let cs := match t with
    | 0xFF :: 0xFE :: r => (units? (fun a b => b * 256 + a) r).bind ofUnits?
    | 0xFE :: 0xFF :: r => (units? (fun a b => a * 256 + b) r).bind ofUnits?
    | 0xEF :: 0xBB :: 0xBF :: r => if Text.isValid r then some (Text.chars r) else none
    | r => if Text.isValid r then some (Text.chars r) else none
  cs.filter fun cs => cs.all isAllowed

/-! ## Places -/

/-- A place in a list of code points. -/
structure Cursor where
  rest : List Char
  /-- The line, counted from one. -/
  line : Nat := 1
  /-- The column, counted from zero. -/
  column : Nat := 0
  /-- How many code points stand before the place. -/
  index : Nat := 0
  /-- How many lines ended since the last character that is not a blank. -/
  breaks : Nat := 0

namespace Cursor

/-- The next character. -/
def peek (c : Cursor) : Option Char := c.rest.head?

/-- The place after the next character; the two characters of one line break count as one line. -/
def next (c : Cursor) : Cursor :=
  match c.rest with
  | [] => c
  | '\r' :: '\n' :: r => { c with rest := '\n' :: r, column := c.column + 1, index := c.index + 1 }
  | x :: r =>
    if isBreak x then { rest := r, line := c.line + 1, column := 0, index := c.index + 1, breaks := c.breaks + 1 }
    else
      { c with
        rest := r, column := c.column + 1, index := c.index + 1, breaks := if isBlank x then c.breaks else 0 }

def skip : Nat → Cursor → Cursor
  | 0, c => c
  | n + 1, c => skip n c.next

/-- The characters from here on that satisfy a condition, and the place after them. -/
def run (p : Char → Bool) (c : Cursor) : List Char × Cursor :=
  let cs := c.rest.takeWhile p
  (cs, c.skip cs.length)

/-- The place after the characters that satisfy a condition. -/
def skipWhile (p : Char → Bool) (c : Cursor) : Cursor := (c.run p).2

/-- The place after blanks. -/
def skipBlanks (c : Cursor) : Cursor := c.skipWhile isBlank

/-- The place at the end of the line. -/
def skipToBreak (c : Cursor) : Cursor := c.skipWhile fun x => !isBreak x

/-- The place after a line break, if there is one here. -/
def skipBreak (c : Cursor) : Cursor :=
  match c.rest with
  | '\r' :: '\n' :: _ => c.skip 2
  | x :: _ => if isBreak x then c.next else c
  | [] => c

def endsWord : List Char → Bool
  | [] => true
  | x :: _ => isBlank x || isBreak x

/-- Whether a line break or nothing follows. -/
def endsLine : List Char → Bool
  | [] => true
  | x :: _ => isBreak x

/-- Whether the mark of a character, three times at the start of a line, stands here. -/
def atMark (x : Char) (c : Cursor) : Bool :=
  c.column == 0 && c.rest.take 3 == [x, x, x] && endsWord (c.rest.drop 3)

/-- Whether a document starts or ends here. -/
def atDocumentMark (c : Cursor) : Bool := c.atMark '-' || c.atMark '.'

end Cursor

end DocAccessors.Yaml
