import DocAccessors.Constant.Literal
import DocAccessors.Constant.Rounding
import DocAccessors.Data.Toml.Write
import DocAccessors.Number.Basic
import DocAccessors.Number.Calendar
import DocAccessors.Text.Quoted

/-!
# The lexemes of TOML

Each function reads something at the start of a text and returns it with what follows; there is nothing when it is
malformed.

* `isReadable`: the bytes that can stand in a text at all;
* `text?` and `key?` read texts in quotes and keys, `renderKey` writes keys;
* `plain?` reads numbers, truth values and dates.
-/

namespace DocAccessors.Toml

/-! ## Bytes -/

/-- Whether a byte is a control character other than a tab or a line break. -/
def isControl (b : UInt8) : Bool := (b < 32 && b != 9 && b != 10 && b != 13) || b == 127

/-- Whether a text has no control characters, and no carriage return outside of a line break. -/
def isReadable : Text → Bool
  | [] => true
  | 13 :: 10 :: r => isReadable r
  | b :: r => b != 13 && !isControl b && isReadable r

/-- A text without the byte order mark at its start. -/
def withoutMark : Text → Text
  | 0xFF :: 0xFE :: r => r
  | 0xFE :: 0xFF :: r => r
  | 0xEF :: 0xBB :: 0xBF :: r => r
  | r => r

/-! ## Blanks and comments -/

def skipBlanks (t : Text) : Text := t.dropWhile fun b => b == 32 || b == 9

def skipComment : Text → Text
  | 35 :: r => r.dropWhile (· != 10)
  | r => r

/-- The text after the end of a line; nothing else may stand before it. -/
def endOfLine? (t : Text) : Option Text :=
  match skipComment (skipBlanks t) with
  | [] => some []
  | 10 :: r => some r
  | 13 :: 10 :: r => some r
  | _ => none

/-- The text after blanks, comments and line breaks. -/
def skipLines : Nat → Text → Text
  | 0, t => t
  | fuel + 1, t =>
    match skipComment (skipBlanks t) with
    | 10 :: r => skipLines fuel r
    | 13 :: 10 :: r => skipLines fuel r
    | r => r

/-! ## Texts -/

/-- An escape in a text, after the backslash: its bytes, and what follows. -/
def escape? : Text → Option (Text × Text)
  | 98 :: r => some ([8], r)
  | 116 :: r => some ([9], r)
  | 110 :: r => some ([10], r)
  | 102 :: r => some ([12], r)
  | 114 :: r => some ([13], r)
  | 34 :: r => some ([34], r)
  | 92 :: r => some ([92], r)
  | 117 :: a :: b :: c :: d :: r => do return (← (Text.toNatBase? 16 [a, b, c, d]).bind Text.ofCode?, r)
  | 85 :: a :: b :: c :: d :: e :: f :: g :: h :: r => do
    return (← (Text.toNatBase? 16 [a, b, c, d, e, f, g, h]).bind Text.ofCode?, r)
  | _ => none

def lineText? (quote : UInt8) (escapes : Bool) : Nat → Text → Option (Text × Text)
  | 0, _ => none
  | _, [] => none
  | fuel + 1, b :: r =>
    if b == quote then some ([], r)
    else if b == 10 || b == 13 then none
    else if escapes && b == 92 then do
      let (bytes, r) ← escape? r
      let (t, r) ← lineText? quote escapes fuel r
      return (bytes ++ t, r)
    else do
      let (t, r) ← lineText? quote escapes fuel r
      return (b :: t, r)

/-- A text over several lines up to three closing quotes. A backslash at the end of a line joins it to the next. -/
def blockText? (quote : UInt8) (escapes : Bool) : Nat → Text → Option (Text × Text)
  | 0, _ => none
  | _, [] => none
  | fuel + 1, b :: r =>
    if Text.startsWith (b :: r) [quote, quote, quote] then
      -- Up to two quotes before the closing ones belong to the text.
      let run := (b :: r).takeWhile (· == quote)
      let extra := min (run.length - 3) 2
      some (List.replicate extra quote, (b :: r).drop (3 + extra))
    else if escapes && b == 92 then
      match skipBlanks r with
      | 10 :: rest | 13 :: 10 :: rest =>
        blockText? quote escapes fuel (rest.dropWhile fun b => b == 32 || b == 9 || b == 10 || b == 13)
      | _ => do
        let (bytes, r) ← escape? r
        let (t, r) ← blockText? quote escapes fuel r
        return (bytes ++ t, r)
    else do
      let (t, r) ← blockText? quote escapes fuel r
      return (b :: t, r)

/-- The text without a line break at its start. -/
def dropBreak : Text → Text
  | 10 :: r => r
  | 13 :: 10 :: r => r
  | r => r

/-- A text in quotes, and what follows. -/
def text? (t : Text) : Option (Text × Text) :=
  let fuel := t.length + 1
  match t with
  | 34 :: 34 :: 34 :: r => blockText? 34 true fuel (dropBreak r)
  | 39 :: 39 :: 39 :: r => blockText? 39 false fuel (dropBreak r)
  | 34 :: r => lineText? 34 true fuel r
  | 39 :: r => lineText? 39 false fuel r
  | _ => none

/-! ## Keys -/

/-- Whether a byte can stand in a key without quotes. -/
def isBare (b : UInt8) : Bool := Text.isDigitByte b || Text.isLowerByte b || Text.isUpperByte b || b == 45 || b == 95

/-- One part of a key, and what follows. -/
def keyPart? (t : Text) : Option (Text × Text) :=
  match t with
  | 34 :: r => lineText? 34 true (t.length + 1) r
  | 39 :: r => lineText? 39 false (t.length + 1) r
  | _ =>
    let (k, r) := t.span isBare
    if k.isEmpty then none else some (k, r)

/-- A key with its parts, and what follows. -/
def key? : Nat → Text → Option (List Text × Text)
  | 0, _ => none
  | fuel + 1, t => do
    let (k, r) ← keyPart? (skipBlanks t)
    match skipBlanks r with
    | 46 :: r => do
      let (ks, r) ← key? fuel r
      return (k :: ks, r)
    | r => return ([k], r)

/-- A key as it is written in messages: quotes stand around a part that needs them. -/
def renderKey (ks : List Text) : Text :=
  Text.join "." (ks.map fun k =>
    if !k.isEmpty && k.all isBare then k else quote k)

/-! ## Numbers -/

/-- The digits of a number without the marks that group them; a mark stands between digits. -/
def ungrouped? (isDigit : UInt8 → Bool) (t : Text) : Option Text :=
  let groups := Text.split 95 t
  if groups.all fun g => !g.isEmpty && g.all isDigit then some groups.flatten else none

def bounded? (n : Int) : Option Int := if -(twoTo 63 : Int) ≤ n && n < twoTo 63 then some n else none

/-- A number in another base. -/
def basedInt? (t : Text) : Option Int :=
  let read (base : Nat) (r : Text) : Option Int :=
    (ungrouped? (fun b => (Text.digitValue? b).any (· < base)) r).bind fun d =>
      (Text.toNatBase? base d).bind fun n => bounded? n
  match t with
  | 48 :: 120 :: r => read 16 r
  | 48 :: 111 :: r => read 8 r
  | 48 :: 98 :: r => read 2 r
  | _ => none

/-- A text without its sign, and whether that was a minus. -/
def unsigned : Text → Text × Bool
  | 45 :: r => (r, true)
  | 43 :: r => (r, false)
  | r => (r, false)

/-- Decimal digits without a superfluous zero. -/
def decimal? (t : Text) : Option Text :=
  (ungrouped? Text.isDigitByte t).filter fun d => d.length == 1 || d.head? != some 48

def integer? (t : Text) : Option Int :=
  match basedInt? t with
  | some n => some n
  | none =>
    let (r, negative) := unsigned t
    (decimal? r).bind fun d => (Text.toNat? d).bind fun n => bounded? (if negative then -(n : Int) else n)

/-- Whether a number is not too large. -/
def isInRange (t : Text) : Bool :=
  match Constant.ofScientific? 10 10 101 (t.filter (· != 95)) with
  | some q => (BinaryFormat.double.round? q).isSome
  | none =>
    -- The exponent is out of all bounds, so the number is nothing, next to nothing or too large.
    (t.takeWhile fun b => Text.lowerByte b != 101).all (fun b => b == 48 || b == 46 || b == 95) || t.any (· == 45)

/-- Whether a text is a number with a fraction or an exponent, or one that has no digits. -/
def isFloat (t : Text) : Bool :=
  let (r, _) := unsigned t
  if r == text "inf" || r == text "nan" then true
  else
    let (mantissa, exponent) := r.span fun b => b != 101 && b != 69
    let (whole, fraction) := mantissa.span (· != 46)
    let digits (t : Text) : Bool := (ungrouped? Text.isDigitByte t).isSome
    (decimal? whole).isSome && (fraction.isEmpty || digits (fraction.drop 1)) &&
      (exponent.isEmpty || digits (unsigned (exponent.drop 1)).1) && (!fraction.isEmpty || !exponent.isEmpty) &&
      isInRange r

/-! ## Dates -/

def twoDigits? (a b : UInt8) : Option Nat := Text.toNat? [a, b]

def afterDate? : Text → Option Text
  | y₁ :: y₂ :: y₃ :: y₄ :: 45 :: m₁ :: m₂ :: 45 :: d₁ :: d₂ :: r => do
    let year ← Text.toNat? [y₁, y₂, y₃, y₄]
    if Calendar.isDay year (← twoDigits? m₁ m₂) (← twoDigits? d₁ d₂) then some r else none
  | _ => none

/-- What follows a time of day at the start of a text. -/
def afterTime? : Text → Option Text
  | h₁ :: h₂ :: 58 :: m₁ :: m₂ :: 58 :: s₁ :: s₂ :: r => do
    if Calendar.isTime (← twoDigits? h₁ h₂) (← twoDigits? m₁ m₂) (← twoDigits? s₁ s₂) then
      some (Calendar.afterFraction r)
    else none
  | _ => none

/-- Whether a text is a date, a time of day, or both with or without a distance from universal time. -/
def isDate (t : Text) : Bool :=
  match afterDate? t with
  | some [] => true
  | some (s :: r) =>
    (s == 84 || s == 116 || s == 32) && (afterTime? r).any fun z =>
      z.isEmpty || Calendar.isZone (z.map fun b => if b == 122 then 90 else b)
  | none => afterTime? t == some []

/-! ## Plain values -/

/-- A value without quotes and brackets. -/
def plain? (t : Text) : Option Datum :=
  if t == text "true" then some (.bool true)
  else if t == text "false" then some (.bool false)
  else match integer? t with
    | some n => some (.int n)
    | none => if isFloat t || isDate t then some (.other t) else none

/-- A word without quotes at the start of a text, and what follows; a blank may divide a date from a time. -/
def plainWord (t : Text) : Text × Text :=
  let isWord (b : UInt8) : Bool := isBare b || b == 43 || b == 46 || b == 58
  let (w, r) := t.span isWord
  match r with
  | 32 :: d :: r' =>
    if (afterDate? w) == some [] && Text.isDigitByte d then
      let (v, r'') := (d :: r').span isWord
      (w ++ 32 :: v, r'')
    else (w, r)
  | _ => (w, r)

end DocAccessors.Toml
