import DocAccessors.Data.Basic
import DocAccessors.Text.Quoted

/-!
# JSON

* `read?` reads the first value of a text. Fields keep their order, also when a name occurs more than once. What is
  not valid UTF-8 reads as the replacement character.
* Values are written over several lines, two blanks deeper for each level. Characters that mean something in markup
  are escaped, and what is not valid UTF-8 becomes the replacement character.
-/

namespace DocAccessors.Json

/-- Whether a byte is white space between values. -/
def isSpace (b : UInt8) : Bool := b == 32 || b == 9 || b == 10 || b == 13

/-- The text after white space. -/
def skipSpace (t : Text) : Text := t.dropWhile isSpace

/-! ## Texts -/

/-- The number of four hexadecimal digits. -/
def hexUnit? : Text → Option (Nat × Text)
  | a :: b :: c :: d :: r => (Text.toNatBase? 16 [a, b, c, d]).map fun n => (n, r)
  | _ => none

/-- Whether a unit is the first of a pair. -/
def isHigh (n : Nat) : Bool := 0xD800 ≤ n && n < 0xDC00

/-- Whether a unit is the second of a pair. -/
def isLow (n : Nat) : Bool := 0xDC00 ≤ n && n < 0xE000

/-- The code point of one or two escaped units, and what follows; a lone half of a pair is replaced. -/
def unitChar? (n : Nat) (r : Text) : Text × Text :=
  if isHigh n then
    match r with
    | 92 :: 117 :: r' =>
      match hexUnit? r' with
      | some (m, r'') =>
        if isLow m then (Text.ofChar (Char.ofNat (0x10000 + (n - 0xD800) * 0x400 + (m - 0xDC00))), r'')
        else (Text.ofChar Text.replacement, r)
      | none => (Text.ofChar Text.replacement, r)
    | _ => (Text.ofChar Text.replacement, r)
  else if isLow n then (Text.ofChar Text.replacement, r)
  else (Text.ofChar (Char.ofNat n), r)

/-- The byte that a one-letter escape stands for. -/
def escaped? (b : UInt8) : Option UInt8 :=
  match b with
  | 34 | 92 | 47 => some b
  | 98 => some 8
  | 102 => some 12
  | 110 => some 10
  | 114 => some 13
  | 116 => some 9
  | _ => none

/-- The bytes of a text up to its closing quote, and what follows. -/
def textBody? : Nat → Text → Option (Text × Text)
  | 0, _ => none
  | _, [] => none
  | fuel + 1, b :: r =>
    if b == 34 then some ([], r)
    else if b < 32 then none
    else if b != 92 then do
      let (t, r) ← textBody? fuel r
      return (b :: t, r)
    else match r with
      | 117 :: r => do
        let (n, r) ← hexUnit? r
        let (c, r) := unitChar? n r
        let (t, r) ← textBody? fuel r
        return (c ++ t, r)
      | e :: r => do
        let c ← escaped? e
        let (t, r) ← textBody? fuel r
        return (c :: t, r)
      | [] => none

/-- The text with what is not valid UTF-8 replaced. -/
def valid (t : Text) : Text := Text.ofChars (Text.chars t)

/-- A text after its opening quote, and what follows. -/
def text? (r : Text) : Option (Text × Text) := (textBody? (r.length + 1) r).map fun (t, r) => (valid t, r)

/-! ## Numbers -/

/-- The digits at the start of a text, at least one, and what follows. -/
def digits? (t : Text) : Option (Text × Text) :=
  let (d, r) := t.span Text.isDigitByte
  if d.isEmpty then none else some (d, r)

def fraction? : Text → Option (Text × Text)
  | 46 :: r => (digits? r).map fun (d, r) => (46 :: d, r)
  | r => some ([], r)

/-- The exponent at the start of a text, and what follows. -/
def exponent? : Text → Option (Text × Text)
  | e :: r =>
    if e == 101 || e == 69 then
      match r with
      | 43 :: r => (digits? r).map fun (d, r) => (e :: 43 :: d, r)
      | 45 :: r => (digits? r).map fun (d, r) => (e :: 45 :: d, r)
      | r => (digits? r).map fun (d, r) => (e :: d, r)
    else some ([], e :: r)
  | [] => some ([], [])

def number? (t : Text) : Option (Datum × Text) := do
  let (sign, r) := match t with
    | 45 :: r => ([45], r)
    | r => (([] : Text), r)
  let (whole, r) ← match r with
    | 48 :: r => some ([48], r)
    | r => digits? r
  let (fraction, r) ← fraction? r
  let (exponent, r) ← exponent? r
  if fraction.isEmpty && exponent.isEmpty then
    let n ← Text.toNat? whole
    return (.int (if sign.isEmpty then n else -(n : Int)), r)
  else return (.other (sign ++ whole ++ fraction ++ exponent), r)

/-! ## Values -/

def items? (value : Text → Option (Datum × Text)) : Nat → Text → Option (List Datum × Text)
  | 0, _ => none
  | fuel + 1, t => do
    let (x, r) ← value (skipSpace t)
    match skipSpace r with
    | 44 :: r => do
      let (xs, r) ← items? value fuel r
      return (x :: xs, r)
    | 93 :: r => return ([x], r)
    | _ => none

/-- The fields of a record after the opening bracket; `value` reads the value of one. -/
def fields? (value : Text → Option (Datum × Text)) : Nat → Text → Option (List (Text × Datum) × Text)
  | 0, _ => none
  | fuel + 1, t =>
    match skipSpace t with
    | 34 :: r => do
      let (k, r) ← text? r
      match skipSpace r with
      | 58 :: r => do
        let (v, r) ← value (skipSpace r)
        match skipSpace r with
        | 44 :: r => do
          let (fs, r) ← fields? value fuel r
          return ((k, v) :: fs, r)
        | 125 :: r => return ([(k, v)], r)
        | _ => none
      | _ => none
    | _ => none

/-- A word that stands for a value, and what follows. -/
def word? (t : Text) : Option (Datum × Text) :=
  match Text.dropStart? t "null", Text.dropStart? t "true", Text.dropStart? t "false" with
  | some r, _, _ => some (.null, r)
  | _, some r, _ => some (.bool true, r)
  | _, _, some r => some (.bool false, r)
  | _, _, _ => none

/-- A value at the start of a text, nested to a depth, and what follows. -/
def value? : Nat → Text → Option (Datum × Text)
  | 0, _ => none
  | depth + 1, t =>
    match t with
    | [] => none
    | b :: r =>
      if b == 34 then (text? r).map fun (t, r) => (.text t, r)
      else if b == 91 then
        match skipSpace r with
        | 93 :: r => some (.list [], r)
        | _ => (items? (value? depth) (r.length + 1) r).map fun (xs, r) => (.list xs, r)
      else if b == 123 then
        match skipSpace r with
        | 125 :: r => some (.record [], r)
        | _ => (fields? (value? depth) (r.length + 1) r).map fun (fs, r) => (.record fs, r)
      else if b == 45 || Text.isDigitByte b then number? (b :: r)
      else word? (b :: r)

/-- The first value of a text. -/
def read? (t : Text) : Option Datum := (value? (t.length + 1) (skipSpace t)).map Prod.fst

/-! ## Writing -/

/-- A code point between double quotes. -/
def escapeChar (c : Char) : Text :=
  match c with
  | '"' => "\\\""
  | '\\' => "\\\\"
  | '\x08' => "\\b"
  | '\x0c' => "\\f"
  | '\n' => "\\n"
  | '\r' => "\\r"
  | '\t' => "\\t"
  | c =>
    if c < ' ' || c == '<' || c == '>' || c == '&' || c == '\u2028' || c == '\u2029' then
      text "\\u" ++ Text.hex 4 c.toNat
    else Text.ofChar c

/-- A text between double quotes. -/
def quote (t : Text) : Text :=
  text "\"" ++ (Text.glyphs t).flatMap (fun g => if g.isInvalid then text "\\ufffd" else escapeChar g.char) ++ text "\""

/-- The start of a line at a level. -/
def newline (level : Nat) : Text := text "\n" ++ Text.repeated level "  "

/-- Parts between brackets, each on its own line. -/
def bracketed (opening closing : Text) (level : Nat) (parts : List Text) : Text :=
  if parts.isEmpty then opening ++ closing
  else
    opening ++ Text.join (text ",") (parts.map fun p => newline (level + 1) ++ p) ++ newline level ++ closing

mutual

def writeAt (level : Nat) : Datum → Text
  | .null => "null"
  | .bool true => "true"
  | .bool false => "false"
  | .int n => Text.ofInt n
  | .other t => t
  | .text t => quote t
  | .list xs => bracketed "[" "]" level (writeList (level + 1) xs)
  | .record fs => bracketed "\x7b" "\x7d" level (writeFields (level + 1) fs)

def writeList (level : Nat) : List Datum → List Text
  | [] => []
  | x :: xs => writeAt level x :: writeList level xs

def writeFields (level : Nat) : List (Text × Datum) → List Text
  | [] => []
  | (k, v) :: fs => (quote k ++ text ": " ++ writeAt level v) :: writeFields level fs

end

/-- A value as a text of its own, with a line break at the end. -/
def write (d : Datum) : Text := writeAt 0 d ++ text "\n"

end DocAccessors.Json
