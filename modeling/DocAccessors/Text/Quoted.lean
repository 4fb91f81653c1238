import DocAccessors.Text.Class

/-!
# Quoted texts

A text is written between double quotes with escapes for what cannot stand there as itself, and read back.

* `quote` writes: printable code points stand for themselves, every byte that is not valid UTF-8 is written as
  a two-digit escape;
* `unquote?` reads a literal between double quotes, back quotes or single quotes;
* `quoteChar` and `describeChar` name a single code point in a message.
-/

namespace DocAccessors.Text

/-! ## Writing -/

/-- A code point as it stands between the quotes `q`. -/
def escapeChar (q c : Char) : Text :=
  if c == q || c == '\\' then text "\\" ++ ofChar c
  else if isPrint c then ofChar c
  else match c with
    | '\x07' => "\\a"
    | '\x08' => "\\b"
    | '\x0c' => "\\f"
    | '\n' => "\\n"
    | '\r' => "\\r"
    | '\t' => "\\t"
    | '\x0b' => "\\v"
    | c =>
      if c < ' ' || c == '\x7f' then text "\\x" ++ hex 2 c.toNat
      else if c.toNat < 0x10000 then text "\\u" ++ hex 4 c.toNat
      else text "\\U" ++ hex 8 c.toNat

/-- A glyph as it stands between the quotes `q`. -/
def escapeGlyph (q : Char) (g : Glyph) : Text :=
  if g.isInvalid then g.bytes.flatMap fun b => text "\\x" ++ hex 2 b.toNat else escapeChar q g.char

/-- A text between double quotes. -/
def quote (t : Text) : Text :=
  text "\"" ++ (glyphs t).flatMap (escapeGlyph '"') ++ text "\""

/-- A code point between single quotes. -/
def quoteChar (c : Char) : Text := text "'" ++ escapeChar '\'' c ++ text "'"

/-- A code point by its number, and by itself when it is printable. -/
def describeChar (c : Char) : Text :=
  let number := text "U+" ++ (hex 4 c.toNat).map upperByte
  if isPrint c then number ++ text " '" ++ ofChar c ++ text "'" else number

/-! ## Reading -/

/-- The value of hexadecimal digits. -/
def hexValue? (cs : List Char) : Option Nat :=
  cs.foldl (fun acc c =>
    match acc with
    | some n =>
      if c.isDigit then some (n * 16 + (c.toNat - 48))
      else if 'a' ≤ c && c ≤ 'f' then some (n * 16 + (c.toNat - 87))
      else if 'A' ≤ c && c ≤ 'F' then some (n * 16 + (c.toNat - 55))
      else none
    | none => none) (some 0)

def octalValue? (cs : List Char) : Option Nat :=
  cs.foldl (fun acc c =>
    match acc with
    | some n => if '0' ≤ c && c ≤ '7' then some (n * 8 + (c.toNat - 48)) else none
    | none => none) (some 0)

/-- The bytes of the code point with a number, unless the number is a surrogate or too large. -/
def ofCode? (n : Nat) : Option Text :=
  if n < 0xD800 || (0xDFFF < n && n ≤ 0x10FFFF) then some (ofChar (Char.ofNat n)) else none

/-- The byte of a numeric escape, unless it is too large. -/
def ofByteValue? (n : Nat) : Option Text := if n < 256 then some [UInt8.ofNat n] else none

/-- The byte that a one-letter escape stands for. -/
def simpleEscape? (q : Char) : Char → Option UInt8
  | 'a' => some 7
  | 'b' => some 8
  | 'f' => some 12
  | 'n' => some 10
  | 'r' => some 13
  | 't' => some 9
  | 'v' => some 11
  | '\\' => some 92
  | '\'' => if q == '\'' then some 39 else none
  | '"' => if q == '"' then some 34 else none
  | _ => none

/-- Reads one code point or escape between the quotes `q`: its bytes, and what follows. -/
def unescape? (q : Char) : List Glyph → Option (Text × List Glyph)
  | [] => none
  | g :: r =>
    if g.char == q then none
    else if g.char != '\\' then some (ofChar g.char, r)
    else match r with
      | [] => none
      | e :: r =>
        match e.char, r with
        | 'x', a :: b :: r => do return (← (hexValue? [a.char, b.char]).bind ofByteValue?, r)
        | 'u', a :: b :: c :: d :: r =>
          do return (← (hexValue? [a.char, b.char, c.char, d.char]).bind ofCode?, r)
        | 'U', a :: b :: c :: d :: a' :: b' :: c' :: d' :: r =>
          do return (← (hexValue? [a.char, b.char, c.char, d.char, a'.char, b'.char, c'.char, d'.char]).bind
            ofCode?, r)
        | o, r =>
          if '0' ≤ o && o ≤ '7' then
            match r with
            | a :: b :: r => do return (← (octalValue? [o, a.char, b.char]).bind ofByteValue?, r)
            | _ => none
          else (simpleEscape? q o).map fun b => ([b], r)

/-- Reads up to the closing quote, which must end the text; `fuel` bounds the number of units read. -/
def unescapeAll? (q : Char) : Nat → List Glyph → Option Text
  | 0, _ => none
  | _, [] => none
  | fuel + 1, g :: r =>
    if g.char == q then (if r.isEmpty then some [] else none)
    else if g.char == '\n' then none
    else do
      let (bytes, r) ← unescape? q (g :: r)
      return bytes ++ (← unescapeAll? q fuel r)

/-- The text that a literal stands for. -/
def unquote? (t : Text) : Option Text :=
  match glyphs t with
  | [] => none
  | g :: r =>
    match g.char with
    | '\x60' =>
      match r.reverse with
      | [] => none
      | l :: m =>
        if l.char == '\x60' && !m.any (·.char == '\x60') then
          some ((ofGlyphs m.reverse).filter (· != 13))
        else none
    | '"' => unescapeAll? '"' (r.length + 1) r
    | '\'' =>
      match unescape? '\'' r with
      | some (bytes, [l]) => if l.char == '\'' && r.head?.any (·.char != '\n') then some bytes else none
      | _ => none
    | _ => none

end DocAccessors.Text
