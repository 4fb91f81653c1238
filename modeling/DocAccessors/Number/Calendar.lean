import DocAccessors.Text.Basic

/-!
# Dates and times of day

The parts of dates that written formats have in common: the lengths of months, fractions of a second, and distances from
universal time.
-/

namespace DocAccessors.Calendar

/-- Whether a year has a leap day. -/
def isLeapYear (y : Nat) : Bool := y % 4 == 0 && (y % 100 != 0 || y % 400 == 0)

/-- The number of days of a month. -/
def daysIn (year month : Nat) : Nat :=
  if month == 2 then (if isLeapYear year then 29 else 28)
  else if [4, 6, 9, 11].contains month then 30 else 31

/-- What follows a fraction of a second, if there is one. -/
def afterFraction : Text → Text
  | p :: d :: r => if (p == 46 || p == 44) && Text.isDigitByte d then r.dropWhile Text.isDigitByte else p :: d :: r
  | r => r

/-- Whether a text is the distance from universal time. -/
def isZone : Text → Bool
  | [90] => true
  | [s, a, b, 58, c, d] =>
    (s == 43 || s == 45) && (Text.toNat? [a, b]).any (· ≤ 24) && (Text.toNat? [c, d]).any (· ≤ 60)
  | _ => false

/-- Whether a number is the day of a month. -/
def isDay (year month day : Nat) : Bool := 1 ≤ month && month ≤ 12 && 1 ≤ day && day ≤ daysIn year month

/-- Whether numbers are a time of day. -/
def isTime (hour minute second : Nat) : Bool := hour < 24 && minute < 60 && second < 60

end DocAccessors.Calendar
