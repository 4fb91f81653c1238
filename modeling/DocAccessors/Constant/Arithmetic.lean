import DocAccessors.Constant.Basic
import DocAccessors.Number.Basic
import DocAccessors.Source.Token

/-!
# Arithmetic of constants

Operators on constant values. Two numbers of different kinds meet in the larger kind. Integers that are divided as
integers lose their remainder; the bits of a negative integer are those of its two's complement without end.
-/

namespace DocAccessors.Constant

open DocAccessors.Source (Token)

/-! ## Bits -/

/-- An operation on the bits of two integers, given by its effect on a pair of bits. -/
def bitwise (f : Bool → Bool → Bool) (a b : Int) : Int :=
  let width := max a.natAbs.log2 b.natAbs.log2 + 2
  let modulus : Nat := twoTo width
  let r := Nat.bitwise f (a % modulus).toNat (b % modulus).toNat
  if 2 * r < modulus then Int.ofNat r else Int.ofNat r - Int.ofNat modulus

/-- The number of bits of the absolute value of an integer. -/
def bitLength (n : Int) : Nat := if n = 0 then 0 else n.natAbs.log2 + 1

/-! ## Unary operators -/

/-- A unary operator; `width` is the number of bits of a type without a sign. -/
def unary (op : Token) (width : Option Nat) : Constant → Constant
  | .int n =>
    match op with
    | .add => .int n
    | .sub => .int (-n)
    | .xor => match width with
      | some w => .int ((-n - 1) % (twoTo w : Int))
      | none => .int (-n - 1)
    | _ => .unknown
  | .real q =>
    match op with
    | .add => .real q
    | .sub => .real (-q)
    | _ => .unknown
  | .complex re im =>
    match op with
    | .add => .complex re im
    | .sub => .complex (-re) (-im)
    | _ => .unknown
  | .bool b => if op == .not then .bool (!b) else .unknown
  | _ => .unknown

/-! ## Binary operators -/

/-- An operator on integers; `exact` divides without a remainder, into a fraction. -/
def binaryInt (op : Token) (exact : Bool) (a b : Int) : Constant :=
  match op with
  | .add => .int (a + b)
  | .sub => .int (a - b)
  | .mul => .int (a * b)
  | .quo => if exact then .real ((a : Rat) / (b : Rat)) else .int (a.tdiv b)
  | .rem => .int (a.tmod b)
  | .and => .int (bitwise (· && ·) a b)
  | .or => .int (bitwise (· || ·) a b)
  | .xor => .int (bitwise (· != ·) a b)
  | .andNot => .int (bitwise (fun x y => x && !y) a b)
  | _ => .unknown

/-- An operator on rational numbers. -/
def binaryReal (op : Token) (a b : Rat) : Constant :=
  match op with
  | .add => .real (a + b)
  | .sub => .real (a - b)
  | .mul => .real (a * b)
  | .quo => .real (a / b)
  | _ => .unknown

/-- An operator on complex numbers. -/
def binaryComplex (op : Token) (a b : Rat × Rat) : Constant :=
  match op with
  | .add => .complex (a.1 + b.1) (a.2 + b.2)
  | .sub => .complex (a.1 - b.1) (a.2 - b.2)
  | .mul => .complex (a.1 * b.1 - a.2 * b.2) (a.2 * b.1 + a.1 * b.2)
  | .quo =>
    let s := b.1 * b.1 + b.2 * b.2
    .complex ((a.1 * b.1 + a.2 * b.2) / s) ((a.2 * b.1 - a.1 * b.2) / s)
  | _ => .unknown

/-- A binary operator other than a comparison or a shift; `exact` as for integers. -/
def binary (op : Token) (exact : Bool) : Constant → Constant → Constant
  | .int a, .int b => binaryInt op exact a b
  | .string a, .string b => if op == .add then .string (a ++ b) else .unknown
  | .bool a, .bool b =>
    match op with
    | .land => .bool (a && b)
    | .lor => .bool (a || b)
    | _ => .unknown
  | .complex re im, b =>
    match b.toComplex? with
    | some b => binaryComplex op (re, im) b
    | none => .unknown
  | a, .complex re im =>
    match a.toComplex? with
    | some a => binaryComplex op a (re, im)
    | none => .unknown
  | a, b =>
    match a.toReal?, b.toReal? with
    | some a, some b => binaryReal op a b
    | _, _ => .unknown

/-- An integer shifted by a number of bits. -/
def shift (op : Token) (n : Int) (bits : Nat) : Int :=
  if op == .shl then n * (twoTo bits : Int) else n.fdiv (twoTo bits : Int)

/-! ## Comparison -/

/-- What a comparison operator says about an order. -/
def holds (op : Token) (o : Ordering) : Bool :=
  match op with
  | .eql => o == .eq
  | .neq => o != .eq
  | .lss => o == .lt
  | .leq => o != .gt
  | .gtr => o == .gt
  | .geq => o != .lt
  | _ => false

/-- The order of two texts by their bytes. -/
def compareText (a b : Text) : Ordering := if a == b then .eq else if Text.lt a b then .lt else .gt

/-- The order of two rational numbers. -/
def compareReal (a b : Rat) : Ordering := if a = b then .eq else if a < b then .lt else .gt

/-- Whether a comparison holds between two values of matching kinds. -/
def compare (op : Token) : Constant → Constant → Bool
  | .bool a, .bool b => if op == .eql then a == b else a != b
  | .string a, .string b => holds op (compareText a b)
  | a, b =>
    match a.toReal?, b.toReal? with
    | some a, some b => holds op (compareReal a b)
    | _, _ =>
      match a.toComplex?, b.toComplex? with
      | some a, some b => if op == .eql then a == b else a != b
      | _, _ => false

def isZero : Constant → Bool
  | .int n => n == 0
  | .real q => q == 0
  | .complex re im => re == 0 && im == 0
  | _ => false

end DocAccessors.Constant
