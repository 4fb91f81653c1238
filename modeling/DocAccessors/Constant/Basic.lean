import DocAccessors.Text.Quoted

/-!
# Constant values

The values of constant expressions are exact: integers of any size and rational numbers.

* `Constant` is such a value;
* `Constant.render` writes it so that equal values of one kind have equal texts;
* `Constant.toInt?`, `toReal?` and `toComplex?` see a number as one of another kind without loss.
-/

namespace DocAccessors

/-- A constant value. -/
inductive Constant where
  | bool (b : Bool)
  | string (t : Text)
  | int (n : Int)
  | real (q : Rat)
  | complex (re im : Rat)
  /-- A value that could not be determined. -/
  | unknown
  deriving DecidableEq

namespace Constant

/-- A rational number: an integer, or a fraction in lowest terms. -/
def renderRat (q : Rat) : Text :=
  if q.den = 1 then Text.ofInt q.num else Text.ofInt q.num ++ text "/" ++ Text.ofNat q.den

/-- The exact text of a value. -/
def render : Constant → Text
  | .bool true => "true"
  | .bool false => "false"
  | .string t => Text.quote t
  | .int n => Text.ofInt n
  | .real q => renderRat q
  | .complex re im => text "(" ++ renderRat re ++ text " + " ++ renderRat im ++ text "i)"
  | .unknown => "unknown"

def toInt? : Constant → Option Int
  | .int n => some n
  | .real q => if q.den = 1 then some q.num else none
  | .complex re im => if im = 0 ∧ re.den = 1 then some re.num else none
  | _ => none

/-- The rational number that a number is. -/
def toReal? : Constant → Option Rat
  | .int n => some (n : Rat)
  | .real q => some q
  | .complex re im => if im = 0 then some re else none
  | _ => none

def toComplex? : Constant → Option (Rat × Rat)
  | .int n => some ((n : Rat), 0)
  | .real q => some (q, 0)
  | .complex re im => some (re, im)
  | _ => none

end Constant

end DocAccessors
