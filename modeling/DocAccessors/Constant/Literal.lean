import DocAccessors.Constant.Basic
import DocAccessors.Number.Basic
import DocAccessors.Source.Token

/-!
# Literals

The constants that literals stand for: numbers in the four bases, fractions with a decimal or binary exponent,
imaginary numbers, code points and texts.
-/

namespace DocAccessors.Constant

open DocAccessors.Source (Token)

/-- A number without the marks that group its digits. -/
def withoutMarks (t : Text) : Text := t.filter (· != 95)

/-- The base that the first bytes of a number ask for, if any, and the digits after them. -/
def baseMark? : Text → Option (Nat × Text)
  | 48 :: b :: r =>
    match Text.lowerByte b with
    | 120 => some (16, r)
    | 111 => some (8, r)
    | 98 => some (2, r)
    | _ => none
  | _ => none

/-- The value of an integer literal; a leading zero asks for base eight. -/
def ofIntLiteral? (t : Text) : Option Int :=
  let t := withoutMarks t
  let value := match baseMark? t with
    | some (base, r) => Text.toNatBase? base r
    | none => match t with
      | 48 :: b :: r => Text.toNatBase? 8 (b :: r)
      | _ => Text.toNat? t
  value.map Int.ofNat

/-- The largest exponent that is worked out. A number with a larger one counts as if it had this one, and one with a
smaller one as zero. -/
def workedExponent : Nat := 400000

/-- The largest exponent that a number can have. -/
def exponentLimit : Nat := 646456993

def ofExponent? : Text → Option Int
  | 43 :: r => (Text.toNat? r).map Int.ofNat
  | 45 :: r => (Text.toNat? r).map fun n => -Int.ofNat n
  | r => (Text.toNat? r).map Int.ofNat

/-- A power with a signed exponent. -/
def scaleBy (base : Nat) (e : Int) : Rat :=
  if 0 ≤ e then (power base e.toNat : Rat) else 1 / (power base (-e).toNat : Rat)

/-- The value of a number with a fraction or an exponent: digits in a base, and an exponent of another one after
the mark. -/
def ofScientific? (base expBase : Nat) (mark : UInt8) (t : Text) : Option Rat := do
  let (mantissa, exponent) := t.span fun b => Text.lowerByte b != mark
  let e ← match exponent with
    | [] => some 0
    | _ :: r => ofExponent? r
  let (whole, fraction) := mantissa.span (· != 46)
  let digits := whole ++ fraction.drop 1
  let n ← Text.toNatBase? base digits
  if n = 0 || e < -(workedExponent : Int) then some 0
  else if exponentLimit < e.natAbs then none
  else
    let scale := scaleBy base (-(Int.ofNat (fraction.drop 1).length))
    return (n : Rat) * scale * scaleBy expBase (min e workedExponent)

/-- The value of a literal with a fraction or an exponent. -/
def ofFloatLiteral? (t : Text) : Option Rat :=
  let t := withoutMarks t
  match baseMark? t with
  | some (16, r) => ofScientific? 16 2 112 r
  | _ => ofScientific? 10 10 101 t

/-- The value of the number before the mark of an imaginary literal; without a base mark it is decimal. -/
def ofImaginary? (t : Text) : Option Rat :=
  let n := withoutMarks (Text.dropEnd t "i")
  match baseMark? n with
  | some (16, _) => ofFloatLiteral? n
  | some _ => (ofIntLiteral? n).map fun i => (i : Rat)
  | none => ofFloatLiteral? n

/-- The code point that a literal between single quotes stands for. -/
def ofCharLiteral? (t : Text) : Option Int :=
  (Text.unquote? t).bind fun bytes =>
    match bytes with
    | [b] => some (Int.ofNat b.toNat)
    | _ => (Text.firstGlyph? bytes).map fun g => Int.ofNat g.char.toNat

/-- The constant that a literal stands for. -/
def ofLiteral? (kind : Token) (t : Text) : Option Constant :=
  match kind with
  | .int => (ofIntLiteral? t).map .int
  | .float => (ofFloatLiteral? t).map .real
  | .imag => (ofImaginary? t).map (.complex 0)
  | .char => (ofCharLiteral? t).map .int
  | .string => (Text.unquote? t).map .string
  | _ => none

end DocAccessors.Constant
