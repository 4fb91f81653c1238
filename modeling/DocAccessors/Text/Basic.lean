/-!
# Text: byte strings

Source files, comments and names are byte strings: they need not be valid UTF-8, and every position of a
diagnostic counts bytes.

* `Text` is a list of bytes, `text` the UTF-8 bytes of a literal;
* `Glyph` is one unit of reading: a code point together with the bytes that spell it, or a byte that starts
  no valid sequence, which reads as the replacement character;
* `glyphs` cuts a text into its glyphs; `ofGlyphs_glyphs` says that nothing is lost;
* searching, cutting and joining;
* decimal and hexadecimal numerals.
-/

namespace DocAccessors

/-- A byte string. -/
abbrev Text := List UInt8

/-- The UTF-8 bytes of a literal. -/
def text (s : String) : Text := s.toUTF8.data.toList

instance : Coe String Text := ⟨text⟩

namespace Text

/-! ## Code points -/

/-- What an undecodable byte reads as. -/
def replacement : Char := '\ufffd'

def byteOrderMark : Char := '\ufeff'

/-- The bytes that spell a code point. -/
def ofChar (c : Char) : Text := String.utf8EncodeChar c

/-- The bytes of a list of code points. -/
def ofChars (cs : List Char) : Text := cs.flatMap ofChar

/-- One unit of reading: the code point read and the bytes that spell it. -/
structure Glyph where
  char : Char
  bytes : Text
  deriving DecidableEq, Repr

/-- A byte that starts no valid sequence. -/
def Glyph.invalid (b : UInt8) : Glyph := ⟨replacement, [b]⟩

/-- Whether the glyph is a lone undecodable byte rather than a spelled code point. -/
def Glyph.isInvalid (g : Glyph) : Bool := g.char == replacement && g.bytes.length == 1

/-- The number of bytes of a glyph. -/
def Glyph.width (g : Glyph) : Nat := g.bytes.length

def isContinuation (b : UInt8) : Bool := 0x80 ≤ b && b ≤ 0xBF

/-- The range that the byte after a three-byte or four-byte lead must be in: it excludes overlong
spellings, surrogates and values past U+10FFFF. -/
def isSecondOf (lead b : UInt8) : Bool :=
  if lead == 0xE0 then 0xA0 ≤ b && b ≤ 0xBF
  else if lead == 0xED then 0x80 ≤ b && b ≤ 0x9F
  else if lead == 0xF0 then 0x90 ≤ b && b ≤ 0xBF
  else if lead == 0xF4 then 0x80 ≤ b && b ≤ 0x8F
  else isContinuation b

/-- The low six bits of a continuation byte. -/
def tailBits (b : UInt8) : Nat := b.toNat % 64

/-- Cuts a text into glyphs, from left to right. -/
def glyphs : Text → List Glyph
  | [] => []
  | b0 :: r0 =>
    if b0 < 0x80 then ⟨Char.ofNat b0.toNat, [b0]⟩ :: glyphs r0
    else match r0 with
      | [] => [Glyph.invalid b0]
      | b1 :: r1 =>
        if 0xC2 ≤ b0 && b0 ≤ 0xDF && isContinuation b1 then
          ⟨Char.ofNat ((b0.toNat - 0xC0) * 64 + tailBits b1), [b0, b1]⟩ :: glyphs r1
        else if 0xE0 ≤ b0 && b0 ≤ 0xF4 && isSecondOf b0 b1 then
          match r1 with
          | [] => Glyph.invalid b0 :: glyphs (b1 :: [])
          | b2 :: r2 =>
            if b0 ≤ 0xEF && isContinuation b2 then
              ⟨Char.ofNat ((b0.toNat - 0xE0) * 4096 + tailBits b1 * 64 + tailBits b2), [b0, b1, b2]⟩ :: glyphs r2
            else if 0xF0 ≤ b0 && isContinuation b2 then
              match r2 with
              | [] => Glyph.invalid b0 :: glyphs (b1 :: b2 :: [])
              | b3 :: r3 =>
                if isContinuation b3 then
                  ⟨Char.ofNat ((b0.toNat - 0xF0) * 262144 + tailBits b1 * 4096 + tailBits b2 * 64 + tailBits b3),
                    [b0, b1, b2, b3]⟩ :: glyphs r3
                else Glyph.invalid b0 :: glyphs (b1 :: b2 :: b3 :: r3)
            else Glyph.invalid b0 :: glyphs (b1 :: b2 :: r2)
        else Glyph.invalid b0 :: glyphs (b1 :: r1)
  termination_by structural t => t

/-- The bytes of a list of glyphs. -/
def ofGlyphs (gs : List Glyph) : Text := gs.flatMap Glyph.bytes

/-- The code points of a text. -/
def chars (t : Text) : List Char := (glyphs t).map Glyph.char

def firstGlyph? (t : Text) : Option Glyph := (glyphs (t.take 4)).head?

def isValid (t : Text) : Bool := (glyphs t).all fun g => !g.isInvalid

/-- Cutting a text into glyphs loses nothing. -/
theorem ofGlyphs_glyphs (t : Text) : ofGlyphs (glyphs t) = t := by
  fun_induction glyphs t <;> simp_all [ofGlyphs, Glyph.invalid]

/-! ## Searching, cutting and joining -/

def startsWith (t p : Text) : Bool := p.isPrefixOf t

def endsWith (t p : Text) : Bool := p.isSuffixOf t

/-- `t` without `p` at its start, when it starts with it. -/
def dropStart? (t p : Text) : Option Text :=
  if startsWith t p then some (t.drop p.length) else none

/-- `t` without `p` at its start, or `t` itself. -/
def dropStart (t p : Text) : Text := (dropStart? t p).getD t

/-- `t` without `p` at its end, or `t` itself. -/
def dropEnd (t p : Text) : Text := if endsWith t p then t.take (t.length - p.length) else t

/-- The offset of the first occurrence of a byte. -/
def indexOf? (t : Text) (b : UInt8) : Option Nat := t.findIdx? (· == b)

/-- The offset of the last occurrence of a byte. -/
def lastIndexOf? (t : Text) (b : UInt8) : Option Nat :=
  (t.reverse.findIdx? (· == b)).map fun i => t.length - 1 - i

def contains : Text → Text → Bool
  | [], p => p.isEmpty
  | b :: r, p => startsWith (b :: r) p || contains r p

/-- The pieces of a text between the occurrences of a byte. -/
def split (sep : UInt8) : Text → List Text
  | [] => [[]]
  | b :: r =>
    if b == sep then [] :: split sep r
    else match split sep r with
      | [] => [[b]]
      | l :: ls => (b :: l) :: ls

def lines (t : Text) : List Text := split 10 t

/-- Texts one after the other with a separator between them. -/
def join (sep : Text) : List Text → Text
  | [] => []
  | [t] => t
  | t :: ts => t ++ sep ++ join sep ts

/-- The concatenation of a list of texts. -/
def concat (ts : List Text) : Text := ts.flatten

def repeated (n : Nat) (t : Text) : Text := (List.replicate n t).flatten

/-- The text without the bytes at its end that satisfy `p`. -/
def dropEndWhile (p : UInt8 → Bool) (t : Text) : Text := (t.reverse.dropWhile p).reverse

def lt : Text → Text → Bool
  | _, [] => false
  | [], _ :: _ => true
  | a :: s, b :: t => a < b || (a == b && lt s t)

/-- Lexicographic order by bytes, equality included. -/
def le (s t : Text) : Bool := !lt t s

theorem lt_iff (s t : Text) : lt s t = true ↔ s < t := by
  fun_induction lt s t with
  | case1 s => simp
  | case2 b t => simp
  | case3 a s b t ih => simp [ih, List.cons_lt_cons_iff]

theorem le_iff (s t : Text) : le s t = true ↔ s ≤ t := by
  rw [le, Bool.not_eq_true', ← Bool.not_eq_true, lt_iff]
  exact List.not_lt

/-- The texts in increasing order. -/
def sort (ts : List Text) : List Text := ts.mergeSort le

/-! ## ASCII classes -/

/-- An ASCII decimal digit. -/
def isDigitByte (b : UInt8) : Bool := 48 ≤ b && b ≤ 57

/-- An ASCII lower-case letter. -/
def isLowerByte (b : UInt8) : Bool := 97 ≤ b && b ≤ 122

/-- An ASCII upper-case letter. -/
def isUpperByte (b : UInt8) : Bool := 65 ≤ b && b ≤ 90

/-- An ASCII letter in lower case. -/
def lowerByte (b : UInt8) : UInt8 := if isUpperByte b then b + 32 else b

/-- An ASCII letter in upper case. -/
def upperByte (b : UInt8) : UInt8 := if isLowerByte b then b - 32 else b

/-! ## Numerals -/

/-- The digit character of a value below 36. -/
def digitByte (n : Nat) : UInt8 := if n < 10 then UInt8.ofNat (48 + n) else UInt8.ofNat (87 + n)

/-- The digits of a number in a base, least significant first, at most `fuel` of them. -/
def digitsRev (base : Nat) : Nat → Nat → Text
  | 0, _ => []
  | fuel + 1, n => if n < base then [digitByte n] else digitByte (n % base) :: digitsRev base fuel (n / base)

/-- A natural number in a base. -/
def ofNatBase (base n : Nat) : Text := (digitsRev base (n.log2 + 1) n).reverse

/-- A natural number in decimal. -/
def ofNat (n : Nat) : Text := ofNatBase 10 n

/-- An integer in decimal. -/
def ofInt : Int → Text
  | .ofNat n => ofNat n
  | .negSucc n => 45 :: ofNat (n + 1)

/-- `t` padded with zeros on the left to at least `n` bytes. -/
def padZero (n : Nat) (t : Text) : Text := List.replicate (n - t.length) 48 ++ t

/-- A number in hexadecimal with at least `n` lower-case digits. -/
def hex (n v : Nat) : Text := padZero n (ofNatBase 16 v)

/-- The value of a digit in bases up to 36. -/
def digitValue? (b : UInt8) : Option Nat :=
  if isDigitByte b then some (b.toNat - 48)
  else if isLowerByte b then some (b.toNat - 87)
  else if isUpperByte b then some (b.toNat - 55)
  else none

/-- Reads digits of a base; the text must not be empty and hold digits only. -/
def toNatBase? (base : Nat) (t : Text) : Option Nat :=
  if t.isEmpty then none
  else t.foldl (fun acc b =>
    match acc, digitValue? b with
    | some n, some d => if d < base then some (n * base + d) else none
    | _, _ => none) (some 0)

/-- Reads a decimal numeral. -/
def toNat? (t : Text) : Option Nat := toNatBase? 10 t

end Text

end DocAccessors
