import DocAccessors.Number.Basic
import DocAccessors.Position.Basic
import DocAccessors.Source.Token
import DocAccessors.Text.Quoted

/-!
# Lexemes

A source text as the sequence of its lexemes: tokens with their offsets and spellings. Comments are lexemes too.
A line break after certain tokens is a semicolon.

* `Reader` walks over the glyphs of a text and notes what cannot be read;
* one function per kind of lexeme: comments, numbers, rune, string and raw string literals, operators;
* `lex` is the whole text, ending with the end-of-file lexeme; it also collects the line directives.

Each lexeme carries the faults that came up while it was read, in the order in which they came up.
-/

namespace DocAccessors.Source

open DocAccessors.Text (Glyph)

/-- What is wrong at an offset of a source text. A fault is placed by the line directives that had been read
when it came up: the first `known` of the file. -/
structure LexFault where
  offset : Nat
  message : Text
  known : Nat := 0
  deriving DecidableEq, Repr

/-- A token of a source text. -/
structure Lexeme where
  offset : Nat
  token : Token
  /-- The spelling of identifiers, keywords, literals and comments; a semicolon is spelled as a line break
  when it was not written. Operators have none. -/
  lit : Text
  faults : List LexFault := []
  deriving DecidableEq, Repr, Inhabited

/-! ## Reading glyphs -/

/-- A place in a source text: the glyphs from here on, the offset of the first one, where its line starts, and
the faults so far, last first. -/
structure Reader where
  rest : List Glyph
  offset : Nat
  lineStart : Nat
  faults : List LexFault
  marks : List LineMark

namespace Reader

/-- The code point at the place; none at the end. -/
def peek (r : Reader) : Option Char := r.rest.head?.map (·.char)

/-- The code point after that. -/
def peek2 (r : Reader) : Option Char := r.rest[1]?.map (·.char)

/-- Whether the place is at a given code point. -/
def at' (r : Reader) (c : Char) : Bool := r.peek == some c

def fault (r : Reader) (offset : Nat) (message : Text) : Reader :=
  { r with faults := ⟨offset, message, r.marks.length⟩ :: r.faults }

/-- Whether a text starts with a byte order mark of a two-byte encoding. -/
def isWideText (t : Text) : Bool := Text.startsWith t [0xFF, 0xFE] || Text.startsWith t [0xFE, 0xFF]

/-- What is wrong with a glyph itself. -/
def glyphFault? (offset : Nat) (g : Glyph) : Option Text :=
  if g.char == '\x00' then some "illegal character NUL"
  else if g.isInvalid then some "illegal UTF-8 encoding"
  else if g.char == Text.replacement && isWideText g.bytes then some "illegal UTF-8 encoding (got UTF-16)"
  else if g.char == Text.byteOrderMark && 0 < offset then some "illegal byte order mark"
  else none

/-- Notes what is wrong with the glyph at the place. -/
def inspect (r : Reader) : Reader :=
  match r.rest with
  | [] => r
  | g :: _ => match glyphFault? r.offset g with
    | some m => r.fault r.offset m
    | none => r

def next (r : Reader) : Reader :=
  match r.rest with
  | [] => r
  | g :: gs =>
    let offset := r.offset + g.width
    inspect { r with
      rest := gs
      offset := offset
      lineStart := if g.char == '\n' then offset else r.lineStart }

def advance : Nat → Reader → Reader
  | 0, r => r
  | n + 1, r => advance n r.next

/-- The place after all glyphs that satisfy `p`. -/
def skipWhile (p : Char → Bool) (r : Reader) : Reader :=
  r.advance (r.rest.takeWhile fun g => p g.char).length

/-- The first `n` bytes of a list of glyphs. -/
def takeBytes : Nat → List Glyph → Text
  | _, [] => []
  | n, g :: gs => if n = 0 then [] else g.bytes ++ takeBytes (n - g.width) gs

def between (start stop : Reader) : Text := takeBytes (stop.offset - start.offset) start.rest

/-- The start of a text; a byte order mark is passed over. -/
def start (t : Text) : Reader :=
  let glyphs := if isWideText t then [⟨Text.replacement, t⟩] else Text.glyphs t
  let r := inspect ⟨glyphs, 0, 0, [], []⟩
  if r.at' Text.byteOrderMark then r.next else r

/-- The same place with no faults noted. -/
def forget (r : Reader) : Reader := { r with faults := [] }

end Reader

/-! ## Line directives -/

/-- The number that a 64-bit word stands for, the upper half of the words being negative. -/
def signedWord (n : Nat) : Int := if n < twoTo 63 then n else (n : Int) - twoTo 64

/-- The number after the last colon of a text: where it starts, and its value if it is a numeral that fits in
64 bits, read as a signed word. No colon gives offset zero. -/
def trailingNumber (t : Text) : Nat × Option Int :=
  match Text.lastIndexOf? t 58 with
  | none => (0, none)
  | some i =>
    (i + 1, match Text.toNat? (t.drop (i + 1)) with
      | some n => if n < twoTo 64 then some (signedWord n) else none
      | none => none)

/-- The largest line or column number of a line directive. -/
def maxLineNumber : Int := twoTo 30

/-- The name of the file that a directive at an offset stands in. -/
def fileNameAt (file : Text) (marks : List LineMark) (offset : Nat) : Text :=
  match (marks.takeWhile (·.offset ≤ offset)).getLast? with
  | some m => m.name
  | none => file

/-- The file name of a line directive, seen from the directory of the file. -/
def markedName (file name : Text) : Text :=
  if name.isEmpty then []
  else
    let name := Path.clean name
    if Path.isAbs name then name else Path.join [Path.dirPart file, name]

/-- Adds a mark, unless it does not lie behind the last one inside the file. -/
def addMark (marks : List LineMark) (m : LineMark) (size : Nat) : List LineMark :=
  let behind := match marks.getLast? with
    | some l => l.offset < m.offset
    | none => true
  if behind && m.offset < size then marks ++ [m] else marks

/-- Reads the text after `//line ` or `/*line `, which starts at `offset`; `following` is the offset after the
comment. -/
def readLineDirective (file : Text) (size following offset : Nat) (t : Text) (r : Reader) : Reader :=
  match trailingNumber t with
  | (0, _) => r
  | (i, none) => r.fault (offset + i) (text "invalid line number: " ++ t.drop i)
  | (i, some n) =>
    let add (name : Text) (line column : Int) : Reader :=
      { r with marks := addMark r.marks ⟨following, name, line, column⟩ size }
    match trailingNumber (t.take (i - 1)) with
    | (j, some line) =>
      if n = 0 || maxLineNumber < n then r.fault (offset + i) (text "invalid column number: " ++ t.drop i)
      else
        let t := t.take (i - 1)
        if line = 0 || maxLineNumber < line then r.fault (offset + j) (text "invalid line number: " ++ t.drop j)
        else
          let name := t.take (j - 1)
          add (if name.isEmpty then fileNameAt file r.marks offset else markedName file name) line n
    | (_, none) =>
      if n = 0 || maxLineNumber < n then r.fault (offset + i) (text "invalid line number: " ++ t.drop i)
      else add (markedName file (t.take (i - 1))) n 0

/-! ## Comments -/

/-- Whether carriage returns and then a slash follow, that is, whether dropping the carriage returns would
close the comment. -/
def closesNext : Text → Bool
  | 47 :: _ => true
  | _ => false

/-- Drops carriage returns. In a block comment one between a star and a slash stays, so that the comment does
not end early; `done` holds the bytes kept so far, last first. -/
def dropReturns (block : Bool) (done : Text) : Text → Text
  | [] => done.reverse
  | b :: r =>
    if b != 13 || (block && 2 < done.length && done.head? == some 42 && closesNext r) then
      dropReturns block (b :: done) r
    else dropReturns block done r

/-- The place after a block comment whose opening has been read, and whether it was closed. -/
def skipBlock : Nat → Reader → Reader × Bool
  | 0, r => (r, false)
  | fuel + 1, r =>
    match r.peek with
    | none => (r, false)
    | some c =>
      let r := r.next
      if c == '*' && r.at' '/' then (r.next, true) else skipBlock fuel r

/-- A comment that starts at `start`, the place being after its first slash: its text, the place after it, and
the offset of the first line break in a block comment. -/
def readComment (file : Text) (size : Nat) (start r : Reader) : Text × Reader × Option Nat :=
  let block := r.at' '*'
  let (stop, closed) :=
    if block then skipBlock (r.rest.length + 1) r.next else (r.skipWhile (· != '\n'), true)
  let stop := if closed then stop else stop.fault start.offset "comment not terminated"
  let lit := Reader.between start stop
  let following := if !block && stop.at' '\n' then stop.offset + 1 else stop.offset
  let body := if !block && lit.getLast? == some 13 && 2 < lit.length then lit.dropLast else lit
  let stop :=
    if closed && (block || start.offset == start.lineStart) && Text.startsWith (body.drop 2) "line " then
      let inner := if block then body.take (body.length - 2) else body
      readLineDirective file size following (start.offset + 7) (inner.drop 7) stop
    else stop
  let lineBreak := if block then (Text.indexOf? lit 10).map (start.offset + ·) else none
  (dropReturns block [] body, stop, lineBreak)

/-! ## Numbers -/

/-- How a number is written. -/
inductive Radix where
  | decimal | legacyOctal | hexadecimal | octal | binary
  deriving DecidableEq, Repr

namespace Radix

def literal : Radix → Text
  | .decimal => "decimal literal"
  | .legacyOctal | .octal => "octal literal"
  | .hexadecimal => "hexadecimal literal"
  | .binary => "binary literal"

def base : Radix → Nat
  | .decimal => 10
  | .legacyOctal | .octal => 8
  | .hexadecimal => 16
  | .binary => 2

end Radix

def isHexDigit (c : Char) : Bool := c.isDigit || ('a' ≤ c && c ≤ 'f') || ('A' ≤ c && c ≤ 'F')

/-- What a run of digits and underscores looks like. -/
structure Digits where
  stop : Reader
  hasDigit : Bool
  hasUnderscore : Bool
  /-- The offset of the first digit that the base does not have. -/
  invalid : Option Nat

def readDigits (base : Nat) (r : Reader) : Digits :=
  let isDigit (c : Char) : Bool := if base ≤ 10 then c.isDigit else isHexDigit c
  let run := r.rest.takeWhile fun g => isDigit g.char || g.char == '_'
  let bad := run.findIdx? fun g => base ≤ 10 && g.char.isDigit && base ≤ g.char.toNat - 48
  ⟨r.advance run.length, run.any (·.char != '_'), run.any (·.char == '_'), bad.map (r.offset + ·)⟩

/-- What a byte of a number is when underscores are checked. -/
inductive NumberPart where
  | digit | underscore | other
  deriving DecidableEq

/-- The index of an underscore that does not stand between digits. -/
def misplacedUnderscore (hexadecimal : Bool) (before : NumberPart) (i : Nat) : Text → Option Nat
  | [] => if before == .underscore then some (i - 1) else none
  | b :: r =>
    let c := Char.ofNat b.toNat
    if c == '_' then
      if before == .digit then misplacedUnderscore hexadecimal .underscore (i + 1) r else some i
    else if c.isDigit || (hexadecimal && isHexDigit c) then misplacedUnderscore hexadecimal .digit (i + 1) r
    else if before == .underscore then some (i - 1)
    else misplacedUnderscore hexadecimal .other (i + 1) r

/-- The index of a misplaced underscore of a number; a base mark counts as a digit. -/
def misplacedUnderscore? (t : Text) : Option Nat :=
  match t with
  | 48 :: m :: r =>
    let m := Text.lowerByte m
    if m == 120 || m == 111 || m == 98 then misplacedUnderscore (m == 120) .digit 2 r
    else misplacedUnderscore false .other 0 t
  | _ => misplacedUnderscore false .other 0 t

/-- The base mark of a number that starts with a zero. -/
def radixOf : Option Char → Radix
  | some 'x' | some 'X' => .hexadecimal
  | some 'o' | some 'O' => .octal
  | some 'b' | some 'B' => .binary
  | _ => .legacyOctal

/-- A number: its token, its text and the place after it. -/
def readNumber (start : Reader) : Token × Text × Reader :=
  -- the integer part
  let (radix, int) : Radix × Digits :=
    if start.at' '.' then (.decimal, ⟨start, false, false, none⟩)
    else if start.at' '0' then
      let r := start.next
      match radixOf r.peek with
      | .legacyOctal =>
        let d := readDigits 8 r
        (.legacyOctal, { d with hasDigit := true })
      | radix => (radix, readDigits radix.base r.next)
    else (.decimal, readDigits 10 start)
  -- the fraction
  let fraction := int.stop.at' '.'
  let whole : Digits :=
    if fraction then
      let r := int.stop
      let r := if radix == .octal || radix == .binary then
        r.fault r.offset (text "invalid radix point in " ++ radix.literal) else r
      let d := readDigits radix.base r.next
      ⟨d.stop, int.hasDigit || d.hasDigit, int.hasUnderscore || d.hasUnderscore, int.invalid.or d.invalid⟩
    else int
  let r := if whole.hasDigit then whole.stop
    else whole.stop.fault whole.stop.offset (radix.literal ++ text " has no digits")
  -- the exponent
  let mark := r.peek.filter fun c => c == 'e' || c == 'E' || c == 'p' || c == 'P'
  let (float, underscore, r) : Bool × Bool × Reader :=
    match mark with
    | some c =>
      let small := c == 'e' || c == 'E'
      let r :=
        if small && (radix == .hexadecimal || radix == .octal || radix == .binary) then
          r.fault r.offset (Text.quoteChar c ++ text " exponent requires decimal mantissa")
        else if !small && radix != .hexadecimal then
          r.fault r.offset (Text.quoteChar c ++ text " exponent requires hexadecimal mantissa")
        else r
      let r := r.next
      let r := if r.at' '+' || r.at' '-' then r.next else r
      let d := readDigits 10 r
      let r := if d.hasDigit then d.stop else d.stop.fault d.stop.offset "exponent has no digits"
      (true, whole.hasUnderscore || d.hasUnderscore, r)
    | none =>
      let r := if radix == .hexadecimal && fraction then
        r.fault r.offset "hexadecimal mantissa requires a 'p' exponent" else r
      (fraction, whole.hasUnderscore, r)
  let (token, r) : Token × Reader :=
    if r.at' 'i' then (.imag, r.next) else (if float then .float else .int, r)
  let lit := Reader.between start r
  let r :=
    match whole.invalid with
    | some i =>
      if token == .int then
        let digit := Char.ofNat ((lit.drop (i - start.offset)).head?.getD 0).toNat
        r.fault i (text "invalid digit " ++ Text.quoteChar digit ++ text " in " ++ radix.literal)
      else r
    | none => r
  let r :=
    if underscore then
      match misplacedUnderscore? lit with
      | some i => r.fault (start.offset + i) "'_' must separate successive digits"
      | none => r
    else r
  (token, lit, r)

/-! ## Rune and string literals -/

/-- The value of a digit; sixteen for anything else. -/
def digitValue (c : Char) : Nat :=
  if c.isDigit then c.toNat - 48
  else if 'a' ≤ c && c ≤ 'f' then c.toNat - 87
  else if 'A' ≤ c && c ≤ 'F' then c.toNat - 55
  else 16

/-- Reads `n` digits of a numeric escape; the value, or none after a fault. -/
def readEscapeDigits (base : Nat) : Nat → Nat → Reader → Option Nat × Reader
  | 0, x, r => (some x, r)
  | n + 1, x, r =>
    match r.peek with
    | none => (none, r.fault r.offset "escape sequence not terminated")
    | some c =>
      if digitValue c < base then readEscapeDigits base n (x * base + digitValue c) r.next
      else (none, r.fault r.offset (text "illegal character " ++ Text.describeChar c ++ text " in escape sequence"))

/-- Reads an escape between the quotes `q` after its backslash; whether it was good. -/
def readEscape (q : Char) (r : Reader) : Bool × Reader :=
  let numeric (n base max : Nat) (s : Reader) : Bool × Reader :=
    match readEscapeDigits base n 0 s with
    | (none, s) => (false, s)
    | (some x, s) =>
      if max < x || (0xD800 ≤ x && x < 0xE000) then
        (false, s.fault r.offset "escape sequence is invalid Unicode code point")
      else (true, s)
  match r.peek with
  | none => (false, r.fault r.offset "escape sequence not terminated")
  | some c =>
    if c == q || c == '\\' || c == 'a' || c == 'b' || c == 'f' || c == 'n' || c == 'r' || c == 't' || c == 'v' then
      (true, r.next)
    else if '0' ≤ c && c ≤ '7' then numeric 3 8 255 r
    else if c == 'x' then numeric 2 16 255 r.next
    else if c == 'u' then numeric 4 16 0x10FFFF r.next
    else if c == 'U' then numeric 8 16 0x10FFFF r.next
    else (false, r.fault r.offset "unknown escape sequence")

/-- Reads a rune literal after its opening quote: `good` as long as no fault was found, `n` code points so
far. -/
def skipRune (start : Nat) : Nat → Bool → Nat → Reader → Reader
  | 0, _, _, r => r
  | fuel + 1, good, n, r =>
    match r.peek with
    | none => if good then r.fault start "rune literal not terminated" else r
    | some '\n' => if good then r.fault start "rune literal not terminated" else r
    | some '\'' =>
      let r := r.next
      if good && n != 1 then r.fault start "illegal rune literal" else r
    | some '\\' =>
      let (ok, r) := readEscape '\'' r.next
      skipRune start fuel (good && ok) (n + 1) r
    | some _ => skipRune start fuel good (n + 1) r.next

def skipString (start : Nat) : Nat → Reader → Reader
  | 0, r => r
  | fuel + 1, r =>
    match r.peek with
    | none => r.fault start "string literal not terminated"
    | some '\n' => r.fault start "string literal not terminated"
    | some '"' => r.next
    | some '\\' => skipString start fuel (readEscape '"' r.next).2
    | some _ => skipString start fuel r.next

/-- Reads a raw string literal after its opening quote. -/
def skipRawString (start : Nat) (r : Reader) : Reader :=
  let r := r.skipWhile (· != '\x60')
  if r.at' '\x60' then r.next else r.fault start "raw string literal not terminated"

/-! ## Operators -/

/-- The operators, longest first. -/
def operators : List (List Char × Token) := [
  (['<', '<', '='], .shlAssign), (['>', '>', '='], .shrAssign), (['&', '^', '='], .andNotAssign),
  (['.', '.', '.'], .ellipsis), (['<', '<'], .shl), (['>', '>'], .shr), (['&', '^'], .andNot),
  (['+', '='], .addAssign), (['-', '='], .subAssign), (['*', '='], .mulAssign), (['/', '='], .quoAssign),
  (['%', '='], .remAssign), (['&', '='], .andAssign), (['|', '='], .orAssign), (['^', '='], .xorAssign),
  (['&', '&'], .land), (['|', '|'], .lor), (['<', '-'], .arrow), (['+', '+'], .inc), (['-', '-'], .dec),
  (['=', '='], .eql), (['!', '='], .neq), (['<', '='], .leq), (['>', '='], .geq), ([':', '='], .define),
  (['+'], .add), (['-'], .sub), (['*'], .mul), (['/'], .quo), (['%'], .rem), (['&'], .and), (['|'], .or),
  (['^'], .xor), (['<'], .lss), (['>'], .gtr), (['='], .assign), (['!'], .not), (['('], .lparen),
  (['['], .lbrack), (['\x7b'], .lbrace), ([','], .comma), (['.'], .period), ([')'], .rparen), ([']'], .rbrack),
  (['\x7d'], .rbrace), ([';'], .semicolon), ([':'], .colon), (['~'], .tilde)]

/-- The longest operator at a place. -/
def operatorAt? (r : Reader) : Option (List Char × Token) :=
  let ahead := (r.rest.take 3).map (·.char)
  operators.find? fun (cs, _) => cs.isPrefixOf ahead

/-! ## The lexemes of a text -/

/-- Whether a line break here is a semicolon, and a semicolon that is due at an offset because a block comment
held a line break. -/
structure LexState where
  reader : Reader
  breakEnds : Bool := false
  pending : Option Nat := none

/-- The next lexeme, and the state after it. -/
def readLexeme (file : Text) (size : Nat) (s : LexState) : Lexeme × LexState :=
  match s.pending with
  | some offset => (⟨offset, .semicolon, "\n", []⟩, { s with pending := none })
  | none =>
    let start := s.reader.skipWhile fun c => c == ' ' || c == '\t' || c == '\r' || (c == '\n' && !s.breakEnds)
    let emit (token : Token) (lit : Text) (r : Reader) (breakEnds : Bool) : Lexeme × LexState :=
      (⟨start.offset, token, lit, r.faults.reverse⟩, ⟨r.forget, breakEnds, none⟩)
    match start.peek with
    | none =>
      if s.breakEnds then emit .semicolon "\n" start false else emit .eof [] start false
    | some c =>
      if Text.isIdentStart c then
        let r := start.skipWhile Text.isIdentPart
        let word := Reader.between start r
        let token := Token.ofWord word
        emit token word r token.endsStatement
      else if c.isDigit || (c == '.' && start.peek2.any (·.isDigit)) then
        let (token, lit, r) := readNumber start
        emit token lit r true
      else match c with
        | '\n' => emit .semicolon "\n" start.next false
        | '"' =>
          let r := skipString start.offset (start.rest.length + 1) start.next
          emit .string (Reader.between start r) r true
        | '\'' =>
          let r := skipRune start.offset (start.rest.length + 1) true 0 start.next
          emit .char (Reader.between start r) r true
        | '\x60' =>
          let r := skipRawString start.offset start.next
          emit .string ((Reader.between start r).filter (· != 13)) r true
        | _ =>
          if c == '/' && (start.peek2 == some '/' || start.peek2 == some '*') then
            let (lit, r, lineBreak) := readComment file size start start.next
            let lexeme : Lexeme := ⟨start.offset, .comment, lit, r.faults.reverse⟩
            match s.breakEnds, lineBreak with
            | true, some offset => (lexeme, ⟨r.forget, false, some offset⟩)
            | breakEnds, _ => (lexeme, ⟨r.forget, breakEnds, none⟩)
          else match operatorAt? start with
            | some (cs, token) =>
              emit token (if token == .semicolon then text ";" else []) (start.advance cs.length)
                token.endsStatement
            | none =>
              let r := start.next
              let r :=
                if c == Text.byteOrderMark then r
                else if c == '“' || c == '”' then
                  r.fault start.offset (text "curly quotation mark " ++ Text.quoteChar c ++
                    text " (use neutral " ++ Text.quoteChar '"' ++ text ")")
                else r.fault start.offset (text "illegal character " ++ Text.describeChar c)
              emit .illegal (Text.ofChar c) r s.breakEnds

/-- The lexemes from a state on; `fuel` bounds their number. -/
def lexFrom (file : Text) (size : Nat) : Nat → LexState → List Lexeme × List LineMark
  | 0, s => ([], s.reader.marks)
  | fuel + 1, s =>
    let (l, s) := readLexeme file size s
    if l.token == .eof then ([l], s.reader.marks)
    else
      let (ls, marks) := lexFrom file size fuel s
      (l :: ls, marks)

/-- The lexemes of a text, the last one being the end of file, and its line directives. -/
def lex (file : Text) (t : Text) : List Lexeme × List LineMark :=
  let r := Reader.start t
  lexFrom file t.length (2 * r.rest.length + 3) ⟨r, false, none⟩

end DocAccessors.Source
