/-!
# Sums, powers and words

* `total` is the sum of a list;
* `power` multiplies a number with itself, `twoTo` the number two;
* `word` brings a sum into the range of a machine word.
-/

namespace DocAccessors

/-- The sum of a list of numbers. -/
def total : List Nat → Nat
  | [] => 0
  | n :: ns => n + total ns

/-- A number multiplied with itself. -/
def power (base exponent : Nat) : Nat := Nat.pow base exponent

def twoTo (exponent : Nat) : Nat := power 2 exponent

/-- What a word of 64 bits holds of a number: numbers outside of its range come in again at the other end. -/
def word (n : Int) : Int := n.bmod (twoTo 64)

theorem word_eq_self {n : Int} (low : -twoTo 63 ≤ n) (high : n < twoTo 63) : word n = n := by
  have double : (twoTo 64 : Int) = 2 * twoTo 63 := rfl
  exact Int.bmod_eq_of_le_mul_two (by omega) (by omega)

theorem total_append (ms ns : List Nat) : total (ms ++ ns) = total ms + total ns := by
  induction ms with
  | nil => simp [total]
  | cons m ms ih => simp [total, ih, Nat.add_assoc]

end DocAccessors
