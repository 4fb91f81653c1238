import DocAccessors.Proofs.Text.Utf8
import Mathlib.Data.Nat.Digits.Lemmas

/-!
# Numerals

A number is written with the digits of its positional representation, and read back.

* `digits base n`: the digits of `n`, most significant first; zero has one digit;
* `ofNatBase_eq_map`: a numeral is its digits, one byte each;
* `toNat?_ofNat`: a decimal numeral reads as the number it was written for;
* `ofNat_inj`, `ofInt_inj`: so different numbers have different numerals.
-/

namespace DocAccessors.Text

/-- The digits of a number in a base, most significant first. -/
def digits (base n : Nat) : List Nat := if n = 0 then [0] else (Nat.digits base n).reverse

section Digits

variable {base : Nat} (hb : 1 < base)
include hb

theorem digitsRev_eq_map (fuel n : Nat) (hn : 0 < n) (hf : n < base ^ fuel) :
    digitsRev base fuel n = (Nat.digits base n).map digitByte := by
  induction fuel generalizing n with
  | zero =>
    rw [pow_zero] at hf
    omega
  | succ fuel ih =>
    unfold digitsRev
    split
    · next small => rw [Nat.digits_of_lt base n (by omega) small, List.map_singleton]
    · next large =>
      have rest : n / base < base ^ fuel := by
        rw [Nat.div_lt_iff_lt_mul (by omega), ← pow_succ]
        exact hf
      rw [Nat.digits_def' hb hn, List.map_cons, ih _ (Nat.div_pos (by omega) (by omega)) rest]

theorem ofNatBase_eq_map (n : Nat) : ofNatBase base n = (digits base n).map digitByte := by
  unfold ofNatBase digits
  split
  · next zero =>
    subst zero
    simp [digitsRev, show 0 < base by omega]
  · next pos =>
    have enough : n < base ^ (n.log2 + 1) :=
      calc n < 2 ^ (n.log2 + 1) := Nat.lt_log2_self
        _ ≤ base ^ (n.log2 + 1) := Nat.pow_le_pow_left hb _
    rw [digitsRev_eq_map hb _ n (by omega) enough, List.map_reverse]

theorem lt_of_mem_digits {n d : Nat} (h : d ∈ digits base n) : d < base := by
  unfold digits at h
  split at h
  · rw [List.mem_singleton] at h
    omega
  · rw [List.mem_reverse] at h
    exact Nat.digits_lt_base hb h

theorem length_digits_le {n k : Nat} (hk : 0 < k) (hn : n < base ^ k) : (digits base n).length ≤ k := by
  unfold digits
  split
  · exact hk
  · rw [List.length_reverse]
    exact (Nat.digits_length_le_iff hb n).2 hn

omit hb in
theorem foldl_digits (base n : Nat) : (digits base n).foldl (fun m d => m * base + d) 0 = n := by
  unfold digits
  split
  · next zero => simp [zero]
  · have value := Nat.ofDigits_digits base n
    rw [Nat.ofDigits_eq_foldr] at value
    rw [List.foldl_reverse]
    simpa [Nat.mul_comm, Nat.add_comm] using value

end Digits

theorem digits_ne_nil (base n : Nat) : digits base n ≠ [] := by
  unfold digits
  split
  · simp
  · next pos => simpa [Nat.digits_ne_nil_iff_ne_zero] using pos

/-! ## Single digits -/

theorem digitValue?_digitByte : ∀ d < 16, digitValue? (digitByte d) = some d := by decide

theorem isDigitByte_digitByte : ∀ d < 10, isDigitByte (digitByte d) = true := by decide

theorem digitByte_ascii : ∀ d < 16, digitByte d < 0x80 := by decide

/-! ## Decimal numerals -/

/-- One more digit of a numeral, as `toNatBase?` reads it. -/
def readDigit (base : Nat) (acc : Option Nat) (b : UInt8) : Option Nat :=
  match acc, digitValue? b with
  | some n, some d => if d < base then some (n * base + d) else none
  | _, _ => none

theorem foldl_readDigit {base : Nat} (hb : base ≤ 16) (ds : List Nat) (hd : ∀ d ∈ ds, d < base) (n : Nat) :
    (ds.map digitByte).foldl (readDigit base) (some n) = some (ds.foldl (fun m d => m * base + d) n) := by
  induction ds generalizing n with
  | nil => rfl
  | cons d ds ih =>
    have small : d < base := hd d (by simp)
    rw [List.map_cons, List.foldl_cons, List.foldl_cons]
    have first : readDigit base (some n) (digitByte d) = some (n * base + d) := by
      simp [readDigit, digitValue?_digitByte d (by omega), small]
    rw [first]
    exact ih (fun e he => hd e (by simp [he])) _

/-- **A decimal numeral reads as its number.** -/
theorem toNat?_ofNat (n : Nat) : toNat? (ofNat n) = some n := by
  have filled : ((digits 10 n).map digitByte).isEmpty = false := by simpa using digits_ne_nil 10 n
  unfold toNat? toNatBase? ofNat
  rw [ofNatBase_eq_map (by decide), filled]
  have read := foldl_readDigit (show 10 ≤ 16 by decide) (digits 10 n) (fun d hd => lt_of_mem_digits (by decide) hd) 0
  rw [foldl_digits] at read
  exact read

theorem isDigitByte_of_mem_ofNat {n : Nat} {b : UInt8} (h : b ∈ ofNat n) : isDigitByte b = true := by
  unfold ofNat at h
  rw [ofNatBase_eq_map (by decide)] at h
  obtain ⟨d, hd, rfl⟩ := List.mem_map.1 h
  exact isDigitByte_digitByte d (lt_of_mem_digits (by decide) hd)

theorem ofNat_inj {m n : Nat} : ofNat m = ofNat n ↔ m = n := by
  refine ⟨fun same => ?_, congrArg ofNat⟩
  have read := toNat?_ofNat m
  rw [same, toNat?_ofNat, Option.some.injEq] at read
  exact read.symm

theorem sign_or_digit_of_mem_ofInt {i : Int} {b : UInt8} (h : b ∈ ofInt i) : b = 45 ∨ isDigitByte b = true := by
  cases i with
  | ofNat n => exact .inr (isDigitByte_of_mem_ofNat h)
  | negSucc n => exact (List.mem_cons.1 h).imp id isDigitByte_of_mem_ofNat

theorem ofInt_inj {i j : Int} : ofInt i = ofInt j ↔ i = j := by
  have signed (m n : Nat) : ofNat m ≠ 45 :: ofNat n := fun same =>
    absurd (isDigitByte_of_mem_ofNat (same ▸ List.mem_cons_self : 45 ∈ ofNat m)) (by decide)
  refine ⟨fun same => ?_, congrArg ofInt⟩
  cases i with
  | ofNat m =>
    cases j with
    | ofNat n => rw [ofNat_inj.1 same]
    | negSucc n => exact absurd same (signed m (n + 1))
  | negSucc m =>
    cases j with
    | ofNat n => exact absurd same.symm (signed n (m + 1))
    | negSucc n => rw [Nat.succ.inj (ofNat_inj.1 (List.cons.inj same).2)]

end DocAccessors.Text
