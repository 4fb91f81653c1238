import DocAccessors.Proofs.Declaration.Identifiers
import DocAccessors.Proofs.Table.Content
import DocAccessors.Text.LetterCase
import Mathlib.Data.List.Basic

/-!
# Names of generated constants

The constants that are generated have names that are identifiers: a name that is given is checked, and any other is the
name of the declaration with an ending that no keyword has. Either visibility keeps the first character a letter.

* `Text.isIdentStart_toUpper`: what a name can start with, it can start with in the other case;
* `isIdentifier_applyVisibility`: a name with such an ending is an identifier in either visibility;
* `isIdentifier_of_constNames`: the names of generated constants are identifiers.
-/

namespace DocAccessors.Text

/-- A run of a case mapping does not concern letters, or takes letters to letters. -/
def keepsLetters : Nat × Nat × Nat × Int → Bool
  | (lo, hi, step, delta) =>
    (letterRanges.any fun (a, b) =>
        Nat.ble a ((lo : Int) + delta).toNat && Nat.ble ((hi : Int) + delta).toNat b && Nat.ble 0x80 a) ||
      (letterRanges.all fun (a, b) => Nat.blt hi a || Nat.blt b lo) ||
      (List.range (hi - lo + 1)).all fun k => k % step != 0 || isIdentStart (Char.ofNat (((lo + k : Nat) : Int) + delta).toNat)

theorem keepsLetters_shifts : (∀ r ∈ upperShifts, keepsLetters r = true) ∧ ∀ r ∈ lowerShifts, keepsLetters r = true := by
  decide +kernel

theorem isValidChar_of_letterRanges : ∀ r ∈ letterRanges, r.2 < 0xD800 ∨ 0xDFFF < r.1 ∧ r.2 < 0x110000 := by decide +kernel

theorem toNat_ofNat {n : Nat} (valid : n.isValidChar) : (Char.ofNat n).toNat = n := by
  unfold Char.ofNat
  rw [dif_pos valid]
  rfl

theorem isIdentStart_shifted {table : List (Nat × Nat × Nat × Int)} (keeps : ∀ r ∈ table, keepsLetters r = true) {c : Char}
    (letter : inRanges letterRanges c = true) (wide : ¬ c < '\x80') : isIdentStart (shifted table c) = true := by
  unfold shifted
  dsimp only
  split
  · next lo hi step delta found =>
    have member := List.mem_of_find?_eq_some found
    have inside := List.find?_some found
    simp only [Bool.and_eq_true, decide_eq_true_eq, beq_iff_eq] at inside
    obtain ⟨⟨above, below⟩, hit⟩ := inside
    have kept := keeps _ member
    simp only [keepsLetters, Bool.or_eq_true] at kept
    rcases kept with (lands | apart) | each
    · obtain ⟨⟨a, b⟩, range, bounds⟩ := List.any_eq_true.1 lands
      simp only [Bool.and_eq_true, Nat.ble_eq] at bounds
      obtain ⟨⟨above', below'⟩, high⟩ := bounds
      have valid := isValidChar_of_letterRanges _ range
      dsimp only at valid
      have place : (Char.ofNat ((c.toNat : Int) + delta).toNat).toNat = ((c.toNat : Int) + delta).toNat := by
        refine toNat_ofNat ?_
        unfold Nat.isValidChar
        omega
      have letter' : inRanges letterRanges (Char.ofNat ((c.toNat : Int) + delta).toNat) = true := by
        refine List.any_eq_true.2 ⟨(a, b), range, ?_⟩
        simp only [Bool.and_eq_true, decide_eq_true_eq, place]
        omega
      have wide' : ¬ Char.ofNat ((c.toNat : Int) + delta).toNat < '\x80' := by
        intro small
        have small : (Char.ofNat ((c.toNat : Int) + delta).toNat).toNat < 0x80 := small
        omega
      simp [isIdentStart, isLetter, wide', letter']
    · obtain ⟨⟨a, b⟩, range, bounds⟩ := List.any_eq_true.1 letter
      have outside := List.all_eq_true.1 apart _ range
      simp only [Bool.and_eq_true, Bool.or_eq_true, decide_eq_true_eq, Nat.blt_eq] at bounds outside
      omega
    · have there := List.all_eq_true.1 each (c.toNat - lo) (List.mem_range.2 (by omega))
      rw [hit, Nat.add_sub_of_le above] at there
      exact there
  · simp [isIdentStart, isLetter, wide, letter]

/-- **What a name can start with, it can start with in the other case.** -/
theorem isIdentStart_toUpper {c : Char} (h : isIdentStart c = true) :
    isIdentStart (toUpper c) = true ∧ isIdentStart (toLower c) = true := by
  by_cases small : c < '\x80'
  · have all : ∀ n < 128, isIdentStart (Char.ofNat n) = true →
        isIdentStart (toUpper (Char.ofNat n)) = true ∧ isIdentStart (toLower (Char.ofNat n)) = true := by decide +kernel
    have here := all c.toNat small
    rw [Char.ofNat_toNat] at here
    exact here h
  · have letter : inRanges letterRanges c = true := by
      unfold isIdentStart isLetter at h
      rw [if_neg small, Bool.or_eq_true, beq_iff_eq] at h
      rcases h with letter | rfl
      · exact letter
      · exact absurd (by decide) small
    unfold toUpper toLower
    rw [if_neg small, if_neg small]
    exact ⟨isIdentStart_shifted keepsLetters_shifts.1 letter small, isIdentStart_shifted keepsLetters_shifts.2 letter small⟩

end DocAccessors.Text

namespace DocAccessors

open Source (Token isWord isIdentifier_iff)
open Text (Glyph glyphs)

/-! ## Words -/

/-- Letters and digits that go on with a word. -/
def IsTail (t : Text) : Prop := ∀ g ∈ glyphs t, Text.isIdentPart g.char = true

theorem isWord_ofChar_append {c : Char} {t : Text} (first : Text.isIdentStart c = true) (rest : IsTail t) :
    isWord (Text.ofChar c ++ t) = true := by
  unfold isWord Text.chars
  rw [Text.glyphs_ofChar_append, List.map_cons]
  simp only [first, Bool.true_and, List.all_map, List.all_eq_true]
  exact rest

/-- A word is a letter and letters and digits that go on with it. -/
theorem exists_of_isWord {w : Text} (h : isWord w = true) :
    ∃ c t, w = Text.ofChar c ++ t ∧ Text.isIdentStart c = true ∧ IsTail t := by
  obtain ⟨g, gs, glyphs_eq, first, parts⟩ := Source.exists_glyphs_of_isWord h
  have plain : Text.isIdentPart Text.replacement = false := by decide +kernel
  have bytes : ∀ g ∈ glyphs w, g.bytes = Text.ofChar g.char := fun g hg => Source.spelled_of_mem hg fun same => by
    have part := parts g hg
    rw [same, plain] at part
    cases part
  have whole := Text.ofGlyphs_glyphs w
  rw [glyphs_eq] at whole parts bytes
  obtain ⟨here, later⟩ := List.forall_mem_cons.1 bytes
  refine ⟨g.char, Text.ofGlyphs gs, ?_, first, ?_⟩
  · rw [← whole, ← here]
    rfl
  · rw [IsTail, Text.glyphs_ofGlyphs later]
    exact fun g hg => parts g (List.mem_cons_of_mem _ hg)

theorem isTail_append {b : UInt8} {t u : Text} (ht : IsTail t) (ascii : b < 0x80) (hu : IsTail (b :: u)) :
    IsTail (t ++ b :: u) := by
  unfold IsTail
  rw [Text.glyphs_append_ascii ascii]
  exact fun g hg => (List.mem_append.1 hg).elim (ht g) (hu g)

theorem isTail_of_isWord {w : Text} (h : isWord w = true) : IsTail w := by
  obtain ⟨-, -, -, -, parts⟩ := Source.exists_glyphs_of_isWord h
  exact parts

/-- A word that is no keyword is an identifier. -/
theorem ofWord_eq_ident {w : Text} (other : ∀ k ∈ Token.keywords, k.1 ≠ w) : Token.ofWord w = .ident := by
  unfold Token.ofWord
  rw [List.lookup_eq_none_iff.2 fun k hk => bne_iff_ne.2 (other k hk).symm]
  rfl

/-- No keyword has the ending. -/
theorem ofWord_of_docs {t : Text} : Token.ofWord (t ++ text "Docs") = .ident := by
  have other : ∀ k ∈ Token.keywords, ¬ text "Docs" <:+ k.1 := by decide
  exact ofWord_eq_ident fun k hk same => other k hk ⟨t, same.symm⟩

/-! ## Visibility -/

theorem firstGlyph?_ofChar_append (c : Char) (t : Text) : Text.firstGlyph? (Text.ofChar c ++ t) = some ⟨c, Text.ofChar c⟩ := by
  have short : (Text.ofChar c).length ≤ 4 := by
    unfold Text.ofChar String.utf8EncodeChar
    dsimp only
    repeat' split
    all_goals simp
  unfold Text.firstGlyph?
  rw [List.take_append, List.take_of_length_le short, Text.glyphs_ofChar_append]
  rfl

/-- **A name with such an ending is an identifier in either visibility.** -/
theorem isIdentifier_applyVisibility {n : Text} (h : isIdentifier n = true) (v : Visibility) :
    isIdentifier (n ++ text "Docs") = true ∧ isIdentifier (applyVisibility (n ++ text "Docs") v) = true := by
  obtain ⟨c, t, rfl, first, tail⟩ := exists_of_isWord (isIdentifier_iff.1 h).1
  have tail' : IsTail (t ++ text "Docs") := isTail_append tail (by decide) (by unfold IsTail; decide +kernel)
  have spelled {c : Char} (first : Text.isIdentStart c = true) : isIdentifier (Text.ofChar c ++ t ++ text "Docs") = true := by
    refine isIdentifier_iff.2 ⟨?_, ofWord_of_docs⟩
    rw [List.append_assoc]
    exact isWord_ofChar_append first tail'
  refine ⟨spelled first, ?_⟩
  have plain : Text.isIdentStart Text.replacement = false := by decide +kernel
  have decoded : c ≠ Text.replacement := by
    rintro rfl
    rw [plain] at first
    cases first
  obtain ⟨upper, lower⟩ := Text.isIdentStart_toUpper first
  unfold applyVisibility
  rw [List.append_assoc, firstGlyph?_ofChar_append]
  dsimp only
  rw [if_neg (by simpa using decoded), Glyph.width, List.drop_left]
  split <;> rw [← List.append_assoc]
  · exact spelled upper
  · exact spelled lower

open Resolve in
/-- **The names of generated constants are identifiers.** -/
theorem isIdentifier_of_constNames {d : Declaration} {s : Settings} {os : List ReadOption} {names : List Text}
    (h : constNames d s os = .ok names) (spelled : ∀ n ∈ d.names, isIdentifier n.name = true) :
    ∀ n ∈ names, isIdentifier n = true := by
  unfold constNames at h
  dsimp only at h
  split at h
  · cases h
    intro n hn
    obtain ⟨declared, hd, rfl⟩ := List.mem_map.1 hn
    split
    · exact (isIdentifier_applyVisibility (spelled declared hd) _).2
    · exact (isIdentifier_applyVisibility (spelled declared hd) .exported).1
  · split at h
    · cases h
    · cases visible : s.visibility <;> rw [visible] at h <;> dsimp only at h <;> split at h
      all_goals
        next checked =>
          cases h
          try exact List.forall_mem_singleton.2 checked

end DocAccessors
