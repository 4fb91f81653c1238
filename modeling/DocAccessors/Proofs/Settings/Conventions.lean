import DocAccessors.Proofs.Text.Utf8
import DocAccessors.Settings.Basic

/-!
# What a convention leaves of a name

Lower and upper case change letters one by one, so they leave something of every name; so does a separator between
words. The conventions that run words together keep ASCII letters and digits only, and may leave nothing.

* `lowerCase_eq_nil_iff`, `upperCase_eq_nil_iff`, `delimitWords_eq_nil_iff`, `joinWords_eq_nil_iff`: when nothing is left;
* `CaseConvention.LeavesNothing`, `convert_eq_nil_iff`: the same for each convention.
-/

namespace DocAccessors

namespace Text

/-! ## Letters -/

theorem ofChar_ne_nil (c : Char) : ofChar c ≠ [] := by
  have size := String.length_utf8EncodeChar c
  have some_byte := Char.utf8Size_pos c
  exact List.ne_nil_of_length_pos (by unfold ofChar; omega)

theorem bytes_ne_nil {t : Text} {g : Glyph} (hg : g ∈ glyphs t) : g.bytes ≠ [] := by
  rcases spelled_or_invalid t g hg with spelled | ⟨b, rfl⟩
  · rw [spelled]
    exact ofChar_ne_nil g.char
  · exact List.cons_ne_nil b []

theorem glyphs_eq_nil_iff {t : Text} : glyphs t = [] ↔ t = [] := by
  refine ⟨fun none => ?_, fun none => by rw [none]; rfl⟩
  rw [← ofGlyphs_glyphs t, none]
  rfl

theorem lowerExpansion_ne_nil (c : Char) : lowerExpansion c ≠ [] := by
  unfold lowerExpansion
  split <;> exact List.cons_ne_nil _ _

theorem upperExpansion_ne_nil (c : Char) : upperExpansion c ≠ [] := by
  have listed : ∀ e ∈ upperExpansions, e.2 ≠ [] := by decide
  unfold upperExpansion
  split
  · next rs found => simpa using listed _ (List.mem_of_find?_eq_some found)
  · exact List.cons_ne_nil _ _

theorem mapCase_ne_nil {f : Char → List Char} (some_char : ∀ c, f c ≠ []) {g : Glyph} (some_byte : g.bytes ≠ []) :
    g.mapCase f ≠ [] := by
  unfold Glyph.mapCase
  split
  · exact some_byte
  · obtain ⟨c, cs, mapped⟩ := List.exists_cons_of_ne_nil (some_char g.char)
    rw [mapped, ofChars, List.flatMap_cons]
    exact List.append_ne_nil_of_left_ne_nil (ofChar_ne_nil c) _

theorem upperCase_eq_nil_iff {t : Text} : upperCase t = [] ↔ t = [] := by
  rw [upperCase, List.flatMap_eq_nil_iff, ← glyphs_eq_nil_iff, List.eq_nil_iff_forall_not_mem]
  exact forall₂_congr fun g hg => iff_of_false (mapCase_ne_nil upperExpansion_ne_nil (bytes_ne_nil hg)) not_false

theorem lowerCase_eq_nil_iff {t : Text} : lowerCase t = [] ↔ t = [] := by
  rw [lowerCase, ← glyphs_eq_nil_iff (t := t)]
  cases letters : glyphs t with
  | nil => exact iff_of_true rfl rfl
  | cons g gs =>
    have some_byte : g.bytes ≠ [] := bytes_ne_nil (letters ▸ List.mem_cons_self ..)
    refine iff_of_false ?_ (List.cons_ne_nil g gs)
    unfold lowerGlyphs
    rw [if_neg Bool.false_ne_true]
    split
    · exact List.append_ne_nil_of_left_ne_nil (mapCase_ne_nil lowerExpansion_ne_nil some_byte) _
    · exact List.append_ne_nil_of_left_ne_nil some_byte _

/-! ## Words -/

/-- An ASCII letter or digit. -/
def isWordByte (b : UInt8) : Bool := isUpperByte b || isLowerByte b || isDigitByte b

/-- Words that are run together keep their letters and digits. -/
theorem joinWordsFrom_eq_nil_iff {keep : Bool} {s : WordState} {t : Text} :
    joinWordsFrom keep s t = [] ↔ ∀ b ∈ t, isWordByte b = false := by
  induction t generalizing s with
  | nil => simp [joinWordsFrom]
  | cons b t ih =>
    rw [List.forall_mem_cons]
    unfold joinWordsFrom
    dsimp only
    split
    · next letter => exact iff_of_false (List.cons_ne_nil _ _) (by simp [isWordByte, letter])
    · next other =>
      split
      · next digit => exact iff_of_false (List.cons_ne_nil _ _) (by simp [isWordByte, digit])
      · next separator =>
        have passed : isWordByte b = false := by
          unfold isWordByte
          rw [Bool.eq_false_iff.2 other, Bool.eq_false_iff.2 separator, Bool.or_false]
        rw [ih, and_iff_right passed]

theorem joinWords_eq_nil_iff {capital : Bool} {name : Text} :
    joinWords capital name = [] ↔ ∀ b ∈ trim name, isWordByte b = false := by
  unfold joinWords
  dsimp only
  split
  · next alone =>
    -- the name that counts as one word is made of letters
    rw [beq_iff_eq.1 alone, joinWordsFrom_eq_nil_iff]
    exact iff_of_false (by decide) (by decide)
  · exact joinWordsFrom_eq_nil_iff

/-- Between separators nothing is left out. -/
theorem delimitWordsFrom_eq_nil_iff {sep : UInt8} {screaming : Bool} {before : Option UInt8} {t : Text} :
    delimitWordsFrom sep screaming before t = [] ↔ t = [] := by
  cases t with
  | nil => exact iff_of_true rfl rfl
  | cons b r =>
    refine iff_of_false ?_ (List.cons_ne_nil b r)
    unfold delimitWordsFrom
    dsimp only
    split
    · exact List.cons_ne_nil _ _
    · split <;> simp

theorem delimitWords_eq_nil_iff {sep : UInt8} {screaming : Bool} {name : Text} :
    delimitWords sep screaming name = [] ↔ trim name = [] := delimitWordsFrom_eq_nil_iff

/-- What ways to put words together leave: ASCII letters and digits, and anything at all between separators. -/
structure WordRules.Lawful (w : WordRules) : Prop where
  join_eq_nil_iff : ∀ {capital name}, w.join capital name = [] ↔ ∀ b ∈ trim name, isWordByte b = false
  delimit_eq_nil_iff : ∀ {sep screaming name}, w.delimit sep screaming name = [] ↔ trim name = []

theorem lawful_asciiWords : asciiWords.Lawful := ⟨joinWords_eq_nil_iff, delimitWords_eq_nil_iff⟩

end Text

/-! ## Conventions -/

namespace CaseConvention

def LeavesNothing (c : CaseConvention) (name : Text) : Prop :=
  match c with
  | .lower | .upper => name = []
  | .pascal | .camel => ∀ b ∈ Text.trim name, Text.isWordByte b = false
  | .snake | .screamingSnake | .kebab | .screamingKebab => Text.trim name = []

/-- **What a convention leaves of a name.** -/
theorem convert_eq_nil_iff [w : Text.WordRules] (lawful : w.Lawful) {c : CaseConvention} {name : Text} :
    c.convert name = [] ↔ c.LeavesNothing name := by
  cases c with
  | lower => exact Text.lowerCase_eq_nil_iff
  | upper => exact Text.upperCase_eq_nil_iff
  | pascal | camel => exact lawful.join_eq_nil_iff
  | snake | screamingSnake | kebab | screamingKebab => exact lawful.delimit_eq_nil_iff

end CaseConvention

end DocAccessors
