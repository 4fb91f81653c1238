import DocAccessors.Text.Basic
import Mathlib.Tactic.SplitIfs

/-!
# Glyphs and the spelling of code points

* `Spells bs n`: the bytes `bs` are the one spelling of the code point with number `n`, by its lead byte and ranges;
* `Spells.ofChar` and `Spells.eq_ofChar`: the spellings are exactly the bytes of code points;
* `Spells.glyphs_append`: a spelling at the start of a text is its first glyph, whatever follows;
* `glyphs_append_ascii`: a text is cut into glyphs before an ASCII byte, whatever stands before it;
* `spelled_or_invalid`, `exists_spelling_cons`: every glyph of a text is a spelled code point or a lone undecodable byte;
* `glyphs_ofGlyphs_append`: spelled code points are the glyphs of their text, whatever follows;
* `glyphs_of_append`: where glyphs of a text are cut, each part has the glyphs that it had in the text.
-/

namespace DocAccessors.Text

/-- The bytes that spell the code point with a number. -/
inductive Spells : Text → Nat → Prop
  | one {a : UInt8} (ha : a < 0x80) : Spells [a] a.toNat
  | two {a b : UInt8} (lo : 0xC2 ≤ a) (hi : a ≤ 0xDF) (hb : isContinuation b = true) :
      Spells [a, b] ((a.toNat - 0xC0) * 64 + tailBits b)
  | three {a b c : UInt8} (lo : 0xE0 ≤ a) (hi : a ≤ 0xEF) (hb : isSecondOf a b = true)
      (hc : isContinuation c = true) :
      Spells [a, b, c] ((a.toNat - 0xE0) * 4096 + tailBits b * 64 + tailBits c)
  | four {a b c d : UInt8} (lo : 0xF0 ≤ a) (hi : a ≤ 0xF4) (hb : isSecondOf a b = true)
      (hc : isContinuation c = true) (hd : isContinuation d = true) :
      Spells [a, b, c, d] ((a.toNat - 0xF0) * 262144 + tailBits b * 4096 + tailBits c * 64 + tailBits d)

/-! ## Reading a spelling -/

theorem glyphs_ascii {a : UInt8} (ha : a < 0x80) (r : Text) :
    glyphs (a :: r) = ⟨Char.ofNat a.toNat, [a]⟩ :: glyphs r := by
  rw [glyphs.eq_def]
  simp [ha]

theorem Spells.glyphs_append {bs : Text} {n : Nat} (h : Spells bs n) (r : Text) :
    glyphs (bs ++ r) = ⟨Char.ofNat n, bs⟩ :: glyphs r := by
  cases h with
  | one ha => exact glyphs_ascii ha r
  | @two a b lo hi hb =>
    have big : ¬ a < 0x80 := UInt8.not_lt.2 (UInt8.le_trans (by decide) lo)
    simp only [List.cons_append, List.nil_append]
    rw [glyphs.eq_def]
    simp [big, lo, hi, hb]
  | @three a b c lo hi hb hc =>
    have big : ¬ a < 0x80 := UInt8.not_lt.2 (UInt8.le_trans (by decide) lo)
    have notTwo : ¬ a ≤ 0xDF := UInt8.not_le.2 (UInt8.lt_of_lt_of_le (by decide) lo)
    have hi' : a ≤ 0xF4 := UInt8.le_trans hi (by decide)
    simp only [List.cons_append, List.nil_append]
    rw [glyphs.eq_def]
    simp [big, notTwo, lo, hi, hi', hb, hc]
  | @four a b c d lo hi hb hc hd =>
    have big : ¬ a < 0x80 := UInt8.not_lt.2 (UInt8.le_trans (by decide) lo)
    have notTwo : ¬ a ≤ 0xDF := UInt8.not_le.2 (UInt8.lt_of_lt_of_le (by decide) lo)
    have notThree : ¬ a ≤ 0xEF := UInt8.not_le.2 (UInt8.lt_of_lt_of_le (by decide) lo)
    have lo' : 0xE0 ≤ a := UInt8.le_trans (by decide) lo
    simp only [List.cons_append, List.nil_append]
    rw [glyphs.eq_def]
    simp [big, notTwo, notThree, lo, lo', hi, hb, hc, hd]

/-! ## Bytes as numbers -/

theorem isContinuation_iff {b : UInt8} : isContinuation b = true ↔ 128 ≤ b.toNat ∧ b.toNat ≤ 191 := by
  simp [isContinuation, UInt8.le_iff_toNat_le]

theorem isSecondOf_iff {a b : UInt8} :
    isSecondOf a b = true ↔ 128 ≤ b.toNat ∧ b.toNat ≤ 191 ∧ (a.toNat = 0xE0 → 0xA0 ≤ b.toNat) ∧
      (a.toNat = 0xED → b.toNat ≤ 0x9F) ∧ (a.toNat = 0xF0 → 0x90 ≤ b.toNat) ∧ (a.toNat = 0xF4 → b.toNat ≤ 0x8F) := by
  simp only [isSecondOf, isContinuation, beq_iff_eq, ← UInt8.toNat_inj, UInt8.le_iff_toNat_le, UInt8.reduceToNat]
  split_ifs <;> simp only [Bool.and_eq_true, decide_eq_true_eq] <;> omega

theorem toNat_byte {n : Nat} (h : n < 256) : (UInt8.ofNat n).toNat = n := by
  simp [Nat.mod_eq_of_lt h]

theorem eq_byte {a : UInt8} {n : Nat} (h : a.toNat = n) : a = UInt8.ofNat n := by
  subst h
  simp

theorem ofChar_ofNat {n : Nat} (v : n.isValidChar) :
    ofChar (Char.ofNat n) =
      if n ≤ 0x7F then [UInt8.ofNat n]
      else if n ≤ 0x7FF then [UInt8.ofNat (n / 64 % 32 + 0xC0), UInt8.ofNat (n % 64 + 0x80)]
      else if n ≤ 0xFFFF then
        [UInt8.ofNat (n / 4096 % 16 + 0xE0), UInt8.ofNat (n / 64 % 64 + 0x80), UInt8.ofNat (n % 64 + 0x80)]
      else
        [UInt8.ofNat (n / 262144 % 8 + 0xF0), UInt8.ofNat (n / 4096 % 64 + 0x80), UInt8.ofNat (n / 64 % 64 + 0x80),
          UInt8.ofNat (n % 64 + 0x80)] := by
  have number : (Char.ofNat n).val.toNat = n := by
    rw [Char.ofNat, dif_pos v]
    rfl
  simp only [ofChar, String.utf8EncodeChar, number]

/-! ## Spellings are the bytes of code points -/

theorem Spells.eq_ofChar {bs : Text} {n : Nat} (h : Spells bs n) : bs = Text.ofChar (Char.ofNat n) := by
  cases h with
  | @one a ha =>
    have small : a.toNat < 128 := UInt8.lt_iff_toNat_lt.1 ha
    rw [ofChar_ofNat (by left; omega), if_pos (by omega)]
    simp
  | @two a b lo hi hb =>
    rw [UInt8.le_iff_toNat_le] at lo hi
    rw [isContinuation_iff] at hb
    simp only [UInt8.reduceToNat] at lo hi
    unfold tailBits
    rw [ofChar_ofNat (by left; omega), if_neg (by omega), if_pos (by omega)]
    rw [← eq_byte (a := a) (by omega), ← eq_byte (a := b) (by omega)]
  | @three a b c lo hi hb hc =>
    rw [UInt8.le_iff_toNat_le] at lo hi
    rw [isSecondOf_iff] at hb
    rw [isContinuation_iff] at hc
    simp only [UInt8.reduceToNat] at lo hi
    unfold tailBits
    -- the range of the second byte keeps the number clear of the surrogates
    have valid : ((a.toNat - 0xE0) * 4096 + b.toNat % 64 * 64 + c.toNat % 64).isValidChar := by
      unfold Nat.isValidChar
      omega
    rw [ofChar_ofNat valid, if_neg (by omega), if_neg (by omega), if_pos (by omega)]
    rw [← eq_byte (a := a) (by omega), ← eq_byte (a := b) (by omega), ← eq_byte (a := c) (by omega)]
  | @four a b c d lo hi hb hc hd =>
    rw [UInt8.le_iff_toNat_le] at lo hi
    rw [isSecondOf_iff] at hb
    rw [isContinuation_iff] at hc hd
    simp only [UInt8.reduceToNat] at lo hi
    unfold tailBits
    have valid : ((a.toNat - 0xF0) * 262144 + b.toNat % 64 * 4096 + c.toNat % 64 * 64 + d.toNat % 64).isValidChar := by
      unfold Nat.isValidChar
      omega
    rw [ofChar_ofNat valid, if_neg (by omega), if_neg (by omega), if_neg (by omega)]
    rw [← eq_byte (a := a) (by omega), ← eq_byte (a := b) (by omega), ← eq_byte (a := c) (by omega),
      ← eq_byte (a := d) (by omega)]

theorem Spells.ofChar (c : Char) : Spells (ofChar c) c.toNat := by
  have valid : c.toNat.isValidChar := c.valid
  have range : c.toNat < 0xD800 ∨ 0xDFFF < c.toNat ∧ c.toNat < 0x110000 := valid
  conv => arg 1; rw [← Char.ofNat_toNat c, ofChar_ofNat valid]
  generalize c.toNat = n at range
  split
  · have ha := @toNat_byte n (by omega)
    have h := @Spells.one (UInt8.ofNat n) (by rw [UInt8.lt_iff_toNat_lt, ha]; simp; omega)
    rwa [ha] at h
  split
  · have ha := @toNat_byte (n / 64 % 32 + 0xC0) (by omega)
    have hb := @toNat_byte (n % 64 + 0x80) (by omega)
    have h := Spells.two (by rw [UInt8.le_iff_toNat_le, ha]; simp; omega)
      (by rw [UInt8.le_iff_toNat_le, ha]; simp; omega) (by rw [isContinuation_iff, hb]; omega)
    rw [tailBits, ha, hb] at h
    have back : (n / 64 % 32 + 0xC0 - 0xC0) * 64 + (n % 64 + 0x80) % 64 = n := by omega
    rwa [back] at h
  split
  · have ha := @toNat_byte (n / 4096 % 16 + 0xE0) (by omega)
    have hb := @toNat_byte (n / 64 % 64 + 0x80) (by omega)
    have hc := @toNat_byte (n % 64 + 0x80) (by omega)
    have h := @Spells.three _ (UInt8.ofNat (n / 64 % 64 + 0x80)) _ (by rw [UInt8.le_iff_toNat_le, ha]; simp)
      (by rw [UInt8.le_iff_toNat_le, ha]; simp; omega)
      (by rw [isSecondOf_iff, ha, hb]; omega) (by rw [isContinuation_iff, hc]; omega)
    rw [tailBits, tailBits, ha, hb, hc] at h
    have back : (n / 4096 % 16 + 0xE0 - 0xE0) * 4096 + (n / 64 % 64 + 0x80) % 64 * 64 + (n % 64 + 0x80) % 64 = n := by
      omega
    rwa [back] at h
  · have ha := @toNat_byte (n / 262144 % 8 + 0xF0) (by omega)
    have hb := @toNat_byte (n / 4096 % 64 + 0x80) (by omega)
    have hc := @toNat_byte (n / 64 % 64 + 0x80) (by omega)
    have hd := @toNat_byte (n % 64 + 0x80) (by omega)
    have h := @Spells.four _ (UInt8.ofNat (n / 4096 % 64 + 0x80)) (UInt8.ofNat (n / 64 % 64 + 0x80)) _
      (by rw [UInt8.le_iff_toNat_le, ha]; simp) (by rw [UInt8.le_iff_toNat_le, ha]; simp; omega)
      (by rw [isSecondOf_iff, ha, hb]; omega) (by rw [isContinuation_iff, hc]; omega)
      (by rw [isContinuation_iff, hd]; omega)
    rw [tailBits, tailBits, tailBits, ha, hb, hc, hd] at h
    have back : (n / 262144 % 8 + 0xF0 - 0xF0) * 262144 + (n / 4096 % 64 + 0x80) % 64 * 4096 +
        (n / 64 % 64 + 0x80) % 64 * 64 + (n % 64 + 0x80) % 64 = n := by omega
    rwa [back] at h

/-- **The bytes of a code point are one glyph.** -/
theorem glyphs_ofChar_append (c : Char) (r : Text) : glyphs (ofChar c ++ r) = ⟨c, ofChar c⟩ :: glyphs r := by
  rw [(Spells.ofChar c).glyphs_append, Char.ofNat_toNat]

/-- A byte that is no lead byte is no part of a code point. -/
theorem glyphs_cons_invalid {a : UInt8} (ha : 0xF4 < a) (r : Text) : glyphs (a :: r) = Glyph.invalid a :: glyphs r := by
  have notOne : ¬ a < 0x80 := UInt8.not_lt.2 (UInt8.le_trans (by decide) (UInt8.le_of_lt ha))
  have notTwo : ¬ a ≤ 0xDF := UInt8.not_le.2 (UInt8.lt_of_le_of_lt (by decide) ha)
  have notLead : ¬ a ≤ 0xF4 := UInt8.not_le.2 ha
  rw [glyphs.eq_def]
  cases r with
  | nil => simp [notOne, glyphs]
  | cons b r => simp [notOne, notTwo, notLead]

/-- An ASCII byte starts a glyph of its own, whatever stands before it. -/
theorem glyphs_append_ascii {a : UInt8} (ha : a < 0x80) (t r : Text) :
    glyphs (t ++ a :: r) = glyphs t ++ glyphs (a :: r) := by
  have small : a.toNat < 128 := UInt8.lt_iff_toNat_lt.1 ha
  have notContinuation : isContinuation a = false := by
    rw [← Bool.not_eq_true, isContinuation_iff]
    omega
  have notSecond (b : UInt8) : isSecondOf b a = false := by
    rw [← Bool.not_eq_true, isSecondOf_iff]
    omega
  fun_induction glyphs t with
  | case1 => rfl
  | case2 b t hb ih =>
    rw [List.cons_append, glyphs_ascii hb, ih]
    rfl
  | case3 b hb => 
    rw [List.singleton_append, glyphs.eq_def]
    simp [hb, notContinuation, notSecond]
  | case5 b hb c h2 h3 ih =>
    rw [List.singleton_append] at ih
    rw [List.cons_append, List.singleton_append, glyphs.eq_def]
    simp only [hb, h2, h3, notContinuation, Bool.and_false, if_false, if_true, ih]
    rfl
  | case7 b hb c h2 h3 d h4 h5 ih =>
    simp only [List.cons_append, List.nil_append] at ih ⊢
    rw [glyphs.eq_def]
    simp only [hb, h2, h3, h4, h5, notContinuation, if_false, if_true, ih]
    rfl
  | _ =>
    simp only [List.cons_append] at *
    rw [glyphs.eq_def]
    simp only [*, if_false, if_true, Bool.false_eq_true]

/-- An ASCII byte stands for itself: it is no part of the spelling of another code point. -/
theorem ne_of_mem_ofChar {c : Char} {a : Nat} (ha : a < 128) (other : c.toNat ≠ a) : ∀ b ∈ ofChar c, b.toNat ≠ a := by
  have spelled := Spells.ofChar c
  generalize ofChar c = bs, c.toNat = n at other spelled ⊢
  cases spelled with
  | one => simpa using other
  | two lo hi hb =>
    simp only [UInt8.le_iff_toNat_le, UInt8.reduceToNat] at lo
    simp only [isContinuation_iff] at hb
    simp only [List.forall_mem_cons, List.not_mem_nil, false_imp_iff, implies_true, and_true]
    omega
  | three lo hi hb hc =>
    simp only [UInt8.le_iff_toNat_le, UInt8.reduceToNat] at lo
    simp only [isContinuation_iff, isSecondOf_iff] at hb hc
    simp only [List.forall_mem_cons, List.not_mem_nil, false_imp_iff, implies_true, and_true]
    omega
  | four lo hi hb hc hd =>
    simp only [UInt8.le_iff_toNat_le, UInt8.reduceToNat] at lo
    simp only [isContinuation_iff, isSecondOf_iff] at hb hc hd
    simp only [List.forall_mem_cons, List.not_mem_nil, false_imp_iff, implies_true, and_true]
    omega

/-! ## The glyphs of a text -/

/-- **Every glyph is a code point with its own bytes, or an undecodable byte.** -/
theorem spelled_or_invalid (t : Text) :
    ∀ g ∈ glyphs t, g.bytes = ofChar g.char ∨ ∃ b, g = Glyph.invalid b := by
  have spelled : ∀ {bs : Text} {n : Nat}, Spells bs n → (⟨Char.ofNat n, bs⟩ : Glyph).bytes = ofChar (Char.ofNat n) :=
    fun h => h.eq_ofChar
  fun_induction glyphs t with
  | case1 => simp
  | case2 a r ha ih =>
    rw [List.forall_mem_cons]
    exact ⟨.inl (spelled (.one ha)), ih⟩
  | case3 a ha =>
    rw [List.forall_mem_singleton]
    exact .inr ⟨a, rfl⟩
  | case4 a ha b r h ih =>
    simp only [Bool.and_eq_true, decide_eq_true_eq] at h
    rw [List.forall_mem_cons]
    exact ⟨.inl (spelled (.two h.1.1 h.1.2 h.2)), ih⟩
  | case6 a ha b _ h c r h' ih =>
    simp only [Bool.and_eq_true, decide_eq_true_eq] at h h'
    rw [List.forall_mem_cons]
    exact ⟨.inl (spelled (.three h.1.1 h'.1 h.2 h'.2)), ih⟩
  | case8 a ha b _ h c _ h' d r hd ih =>
    simp only [Bool.and_eq_true, decide_eq_true_eq] at h h'
    rw [List.forall_mem_cons]
    exact ⟨.inl (spelled (.four h'.1 h.1.2 h.2 h'.2 hd)), ih⟩
  | _ =>
    rw [List.forall_mem_cons]
    exact ⟨.inr ⟨_, rfl⟩, by assumption⟩

/-- The glyphs of spelled code points are these, whatever follows. -/
theorem glyphs_ofGlyphs_append {gs : List Glyph} (spelled : ∀ g ∈ gs, g.bytes = ofChar g.char) (r : Text) :
    glyphs (ofGlyphs gs ++ r) = gs ++ glyphs r := by
  induction gs with
  | nil => rfl
  | cons g gs ih =>
    obtain ⟨first, rest⟩ := List.forall_mem_cons.1 spelled
    have bytes : ofGlyphs (g :: gs) = ofChar g.char ++ ofGlyphs gs := by rw [ofGlyphs, List.flatMap_cons, first]; rfl
    rw [bytes, List.append_assoc, glyphs_ofChar_append, ih rest, List.cons_append, ← first]

theorem glyphs_ofGlyphs {gs : List Glyph} (spelled : ∀ g ∈ gs, g.bytes = ofChar g.char) : glyphs (ofGlyphs gs) = gs := by
  have followed := glyphs_ofGlyphs_append spelled []
  rw [List.append_nil] at followed
  rw [followed]
  exact List.append_nil gs

/-- What follows the first glyph of a text is read as it is behind that glyph. -/
theorem glyphs_tail {t : Text} {g : Glyph} {gs : List Glyph} (h : glyphs t = g :: gs) : glyphs (ofGlyphs gs) = gs := by
  obtain ⟨r, rfl⟩ : ∃ r, glyphs r = gs := by
    revert h
    fun_cases glyphs t with
    | case1 =>
      intro h
      cases h
    | case3 =>
      intro h
      exact ⟨[], (List.cons.inj h).2⟩
    | _ =>
      intro h
      exact ⟨_, (List.cons.inj h).2⟩
  rw [ofGlyphs_glyphs]

/-- A text starts with a spelled code point or with an undecodable byte. -/
theorem exists_spelling_cons (b : UInt8) (r : Text) :
    (∃ s rest n, r = s ++ rest ∧ Spells (b :: s) n) ∨ glyphs (b :: r) = Glyph.invalid b :: glyphs r := by
  cases cut : glyphs (b :: r) with
  | nil =>
    have bytes := ofGlyphs_glyphs (b :: r)
    rw [cut] at bytes
    cases bytes
  | cons g gs =>
    have bytes : b :: r = g.bytes ++ ofGlyphs gs := by
      rw [← ofGlyphs_glyphs (b :: r), cut]
      rfl
    rcases spelled_or_invalid (b :: r) g (by rw [cut]; exact List.mem_cons_self) with spelled | ⟨c, rfl⟩
    · have code := Spells.ofChar g.char
      rw [← spelled] at code
      cases first : g.bytes with
      | nil =>
        rw [first] at code
        cases code
      | cons c s =>
        rw [first] at bytes code
        obtain ⟨rfl, rest⟩ := List.cons.inj bytes
        exact .inl ⟨s, _, _, rest, code⟩
    · obtain ⟨rfl, rfl⟩ : b = c ∧ r = ofGlyphs gs := List.cons.inj bytes
      exact .inr (by rw [glyphs_tail cut])

/-- A byte that cannot be decoded in a longer text cannot be decoded in a shorter one. -/
theorem glyphs_invalid_of_append {c : UInt8} {u v : Text} {gs : List Glyph}
    (h : glyphs (c :: (u ++ v)) = Glyph.invalid c :: gs) : glyphs (c :: u) = Glyph.invalid c :: glyphs u := by
  rcases exists_spelling_cons c u with ⟨s, rest, n, rfl, spelled⟩ | invalid
  · -- a code point in the shorter text is one in the longer text as well
    rw [List.append_assoc, ← List.cons_append, spelled.glyphs_append] at h
    have first := (List.cons.inj h).1
    have char : Char.ofNat n = replacement := congrArg Glyph.char first
    have single : c :: s = [c] := congrArg Glyph.bytes first
    rw [spelled.eq_ofChar, char] at single
    revert single
    simp [ofChar, replacement, String.utf8EncodeChar]
  · exact invalid

/-- **Where the glyphs of a text are cut, each part has the glyphs that it had in the text.** -/
theorem glyphs_of_append {t : Text} {a b : List Glyph} (h : glyphs t = a ++ b) :
    glyphs (ofGlyphs a) = a ∧ glyphs (ofGlyphs b) = b := by
  induction a generalizing t with
  | nil =>
    have whole : ofGlyphs b = t := by rw [← ofGlyphs_glyphs t, h, List.nil_append]
    exact ⟨rfl, by rw [whole, h, List.nil_append]⟩
  | cons g a ih =>
    rw [List.cons_append] at h
    obtain ⟨first, second⟩ := ih (glyphs_tail h)
    refine ⟨?_, second⟩
    have bytes : t = g.bytes ++ (ofGlyphs a ++ ofGlyphs b) := by
      rw [← ofGlyphs_glyphs t, h]
      simp [ofGlyphs]
    change glyphs (g.bytes ++ ofGlyphs a) = g :: a
    rcases spelled_or_invalid t g (by rw [h]; exact List.mem_cons_self) with spelled | ⟨c, rfl⟩
    · rw [spelled, glyphs_ofChar_append, first, ← spelled]
    · rw [bytes] at h
      have shorter := glyphs_invalid_of_append (u := ofGlyphs a) (v := ofGlyphs b) h
      rwa [first] at shorter

/-- A glyph that can be decoded is a spelled code point. -/
theorem spelled_of_valid {t : Text} {g : Glyph} (h : g ∈ glyphs t) (valid : g.isInvalid = false) :
    g.bytes = ofChar g.char := by
  rcases spelled_or_invalid t g h with spelled | ⟨b, rfl⟩
  · exact spelled
  · cases valid

end DocAccessors.Text
