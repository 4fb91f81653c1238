import DocAccessors.Proofs.Text.Numeral
import DocAccessors.Text.Quoted

/-!
# Quoting and its inverse

* `ReadsAs q e bs`: between the quotes `q`, the text `e` is one unit that stands for the bytes `bs`;
* `readsAs_escapeGlyph`: a glyph is written as one unit that stands for its own bytes, be it printable, escaped or
  undecodable;
* `unquote?_quote`: a quoted text reads as the text, whatever bytes it holds.
-/

namespace DocAccessors.Text

/-! ## ASCII bytes as glyphs -/

def Glyph.ascii (b : UInt8) : Glyph := ⟨Char.ofNat b.toNat, [b]⟩

theorem glyphs_ascii_append (bs : Text) (h : ∀ b ∈ bs, b < 0x80) (r : Text) :
    glyphs (bs ++ r) = bs.map Glyph.ascii ++ glyphs r := by
  induction bs with
  | nil => rfl
  | cons b bs ih =>
    rw [List.cons_append, glyphs_ascii (h b (by simp)), ih (fun c hc => h c (by simp [hc]))]
    rfl

/-! ## Hexadecimal digits -/

/-- The digits of a number in hexadecimal, with zeros before them up to a length. -/
def hexDigits (k n : Nat) : List Nat := List.replicate (k - (digits 16 n).length) 0 ++ digits 16 n

theorem hex_eq_map (k n : Nat) : hex k n = (hexDigits k n).map digitByte := by
  unfold hex padZero hexDigits
  rw [ofNatBase_eq_map (by decide), List.length_map, List.map_append, List.map_replicate]
  rfl

theorem lt_of_mem_hexDigits {k n d : Nat} (h : d ∈ hexDigits k n) : d < 16 := by
  rcases List.mem_append.1 h with h | h
  · rw [List.eq_of_mem_replicate h]
    decide
  · exact lt_of_mem_digits (by decide) h

theorem length_hexDigits {k n : Nat} (hk : 0 < k) (hn : n < 16 ^ k) : (hexDigits k n).length = k := by
  have short := length_digits_le (by decide) hk hn
  simp only [hexDigits, List.length_append, List.length_replicate]
  omega

theorem foldl_hexDigits (k n : Nat) : (hexDigits k n).foldl (fun m d => m * 16 + d) 0 = n := by
  have zeros : ∀ j, (List.replicate j 0).foldl (fun m d => m * 16 + d) 0 = 0 := by
    intro j
    induction j with
    | zero => rfl
    | succ j ih => simpa [List.replicate_succ] using ih
  rw [hexDigits, List.foldl_append, zeros, foldl_digits]

/-- A hexadecimal digit as a glyph. -/
def hexGlyph (d : Nat) : Glyph := Glyph.ascii (digitByte d)

/-- One more hexadecimal digit, as `hexValue?` reads it. -/
def hexStep (acc : Option Nat) (c : Char) : Option Nat :=
  match acc with
  | some n =>
    if c.isDigit then some (n * 16 + (c.toNat - 48))
    else if 'a' ≤ c && c ≤ 'f' then some (n * 16 + (c.toNat - 87))
    else if 'A' ≤ c && c ≤ 'F' then some (n * 16 + (c.toNat - 55))
    else none
  | none => none

theorem hexStep_hexGlyph (n d : Nat) (hd : d < 16) : hexStep (some n) (hexGlyph d).char = some (n * 16 + d) := by
  interval_cases d <;> rfl

theorem foldl_hexStep (ds : List Nat) (hd : ∀ d ∈ ds, d < 16) (n : Nat) :
    ((ds.map hexGlyph).map Glyph.char).foldl hexStep (some n) = some (ds.foldl (fun m d => m * 16 + d) n) := by
  induction ds generalizing n with
  | nil => rfl
  | cons d ds ih =>
    simp only [List.map_cons, List.foldl_cons]
    rw [hexStep_hexGlyph n d (hd d (by simp))]
    exact ih (fun e he => hd e (by simp [he])) _

theorem hexValue?_hexDigits (k n : Nat) : hexValue? (((hexDigits k n).map hexGlyph).map Glyph.char) = some n := by
  have read := foldl_hexStep (hexDigits k n) (fun d hd => lt_of_mem_hexDigits hd) 0
  rw [foldl_hexDigits] at read
  exact read

/-! ## Units between quotes -/

/-- Between the quotes `q`, the text `e` is one unit that stands for the bytes `bs`. -/
def ReadsAs (q : Char) (e bs : Text) : Prop :=
  ∃ g gs, (∀ r, glyphs (e ++ r) = g :: (gs ++ glyphs r)) ∧ g.char ≠ q ∧ g.char ≠ '\n' ∧
    ∀ rest, unescape? q (g :: (gs ++ rest)) = some (bs, rest)

theorem readsAs_self {c : Char} (hq : c ≠ '"') (hb : c ≠ '\\') (hn : c ≠ '\n') :
    ReadsAs '"' (ofChar c) (ofChar c) := by
  refine ⟨⟨c, ofChar c⟩, [], fun r => glyphs_ofChar_append c r, hq, hn, fun rest => ?_⟩
  unfold unescape?
  simp [hq, hb]

theorem readsAs_letter {e b : UInt8} (he : e < 0x80)
    (h : ∀ rest, unescape? '"' (Glyph.ascii 92 :: Glyph.ascii e :: rest) = some ([b], rest)) :
    ReadsAs '"' [92, e] [b] := by
  refine ⟨Glyph.ascii 92, [Glyph.ascii e], fun r => ?_, by decide, by decide, h⟩
  exact glyphs_ascii_append [92, e] (by simp [he]) r

theorem readsAs_number {e : UInt8} {k n : Nat} {bs : Text} (he : e < 0x80)
    (h : ∀ rest, unescape? '"' (Glyph.ascii 92 :: Glyph.ascii e :: ((hexDigits k n).map hexGlyph ++ rest)) =
      some (bs, rest)) :
    ReadsAs '"' ([92, e] ++ hex k n) bs := by
  refine ⟨Glyph.ascii 92, Glyph.ascii e :: (hexDigits k n).map hexGlyph, fun r => ?_, by decide, by decide, h⟩
  have small : ∀ b ∈ [92, e] ++ hex k n, b < 0x80 := by
    intro b hb
    rw [hex_eq_map] at hb
    rcases List.mem_append.1 hb with hb | hb
    · simp only [List.mem_cons, List.not_mem_nil, or_false] at hb
      rcases hb with rfl | rfl
      · decide
      · exact he
    · obtain ⟨d, hd, rfl⟩ := List.mem_map.1 hb
      exact digitByte_ascii d (lt_of_mem_hexDigits hd)
  rw [glyphs_ascii_append _ small, hex_eq_map]
  simp [hexGlyph]

theorem readsAs_byte {n : Nat} (hn : n < 256) : ReadsAs '"' (text "\\x" ++ hex 2 n) [UInt8.ofNat n] := by
  refine readsAs_number (e := 120) (by decide) fun rest => ?_
  have value := hexValue?_hexDigits 2 n
  obtain ⟨a, b, ds⟩ := List.length_eq_two.1 (length_hexDigits (k := 2) (by decide) (by omega : n < 16 ^ 2))
  rw [ds] at value ⊢
  simp only [List.map_cons, List.map_nil] at value
  unfold unescape?
  simp [Glyph.ascii, value, ofByteValue?, hn]

theorem ofCode?_toNat (c : Char) : ofCode? c.toNat = some (ofChar c) := by
  have valid : c.toNat < 0xD800 ∨ 0xDFFF < c.toNat ∧ c.toNat < 0x110000 := c.valid
  unfold ofCode?
  rw [if_pos (by simp; omega), Char.ofNat_toNat]

theorem readsAs_short {c : Char} (hc : c.toNat < 0x10000) : ReadsAs '"' (text "\\u" ++ hex 4 c.toNat) (ofChar c) := by
  refine readsAs_number (e := 117) (by decide) fun rest => ?_
  have value := hexValue?_hexDigits 4 c.toNat
  obtain ⟨x, y, z, w, ds⟩ :=
    List.length_eq_four.1 (length_hexDigits (k := 4) (by decide) (by omega : c.toNat < 16 ^ 4))
  rw [ds] at value ⊢
  simp only [List.map_cons, List.map_nil] at value
  unfold unescape?
  simp [Glyph.ascii, value, ofCode?_toNat]

theorem readsAs_long (c : Char) : ReadsAs '"' (text "\\U" ++ hex 8 c.toNat) (ofChar c) := by
  refine readsAs_number (e := 85) (by decide) fun rest => ?_
  have valid : c.toNat < 0xD800 ∨ 0xDFFF < c.toNat ∧ c.toNat < 0x110000 := c.valid
  have value := hexValue?_hexDigits 8 c.toNat
  have len := length_hexDigits (k := 8) (by decide) (by omega : c.toNat < 16 ^ 8)
  obtain ⟨x, y, z, w, front⟩ := List.length_eq_four.1 (by simp [len] : ((hexDigits 8 c.toNat).take 4).length = 4)
  obtain ⟨x', y', z', w', back⟩ := List.length_eq_four.1 (by simp [len] : ((hexDigits 8 c.toNat).drop 4).length = 4)
  rw [← List.take_append_drop 4 (hexDigits 8 c.toNat), front, back] at value ⊢
  simp only [List.map_cons, List.map_nil, List.cons_append, List.nil_append] at value
  unfold unescape?
  simp [Glyph.ascii, value, ofCode?_toNat]

/-! ## What is written -/

theorem readsAs_escapeChar (c : Char) : ReadsAs '"' (escapeChar '"' c) (ofChar c) := by
  unfold escapeChar
  split
  · next h =>
    rw [Bool.or_eq_true, beq_iff_eq, beq_iff_eq] at h
    rcases h with rfl | rfl
    · exact readsAs_letter (e := 34) (b := 34) (by decide) fun rest => rfl
    · exact readsAs_letter (e := 92) (b := 92) (by decide) fun rest => rfl
  · next h =>
    rw [Bool.or_eq_true, beq_iff_eq, beq_iff_eq, not_or] at h
    split
    · next printable =>
      refine readsAs_self h.1 h.2 ?_
      rintro rfl
      exact absurd printable (by decide)
    · split
      · exact readsAs_letter (e := 97) (b := 7) (by decide) fun rest => rfl
      · exact readsAs_letter (e := 98) (b := 8) (by decide) fun rest => rfl
      · exact readsAs_letter (e := 102) (b := 12) (by decide) fun rest => rfl
      · exact readsAs_letter (e := 110) (b := 10) (by decide) fun rest => rfl
      · exact readsAs_letter (e := 114) (b := 13) (by decide) fun rest => rfl
      · exact readsAs_letter (e := 116) (b := 9) (by decide) fun rest => rfl
      · exact readsAs_letter (e := 118) (b := 11) (by decide) fun rest => rfl
      · split
        · next control =>
          have small : c.toNat < 128 := by
            rw [Bool.or_eq_true, decide_eq_true_eq, beq_iff_eq] at control
            rcases control with below | rfl
            · exact Nat.lt_trans (Char.lt_def.1 below) (by decide)
            · decide
          have single : ofChar c = [UInt8.ofNat c.toNat] := by
            have bytes := ofChar_ofNat (n := c.toNat) c.valid
            rwa [Char.ofNat_toNat, if_pos (by omega)] at bytes
          rw [single]
          exact readsAs_byte (by omega)
        · split
          · next short => exact readsAs_short short
          · exact readsAs_long c

theorem isInvalid_of_bytes_eq {g : Glyph} (h : g.bytes = ofChar g.char) : g.isInvalid = false := by
  unfold Glyph.isInvalid
  rw [Bool.and_eq_false_iff]
  by_cases hc : g.char = replacement
  · right
    rw [h, hc]
    decide
  · left
    simpa using hc

theorem readsAs_escapeGlyph {t : Text} {g : Glyph} (hg : g ∈ glyphs t) : ReadsAs '"' (escapeGlyph '"' g) g.bytes := by
  unfold escapeGlyph
  rcases spelled_or_invalid t g hg with spelled | ⟨b, rfl⟩
  · rw [isInvalid_of_bytes_eq spelled, if_neg Bool.false_ne_true, spelled]
    exact readsAs_escapeChar g.char
  · have invalid : (Glyph.invalid b).isInvalid = true := by
      simp [Glyph.isInvalid, Glyph.invalid]
    rw [invalid, if_pos rfl]
    have unit := readsAs_byte b.toNat_lt
    simpa [Glyph.invalid] using unit

/-! ## The round trip -/

theorem unescapeAll?_flatMap (gs : List Glyph) (h : ∀ g ∈ gs, ReadsAs '"' (escapeGlyph '"' g) g.bytes) :
    ∀ fuel, (glyphs (gs.flatMap (escapeGlyph '"') ++ text "\"")).length ≤ fuel →
      unescapeAll? '"' fuel (glyphs (gs.flatMap (escapeGlyph '"') ++ text "\"")) = some (ofGlyphs gs) := by
  induction gs with
  | nil =>
    intro fuel enough
    cases fuel with
    | zero => exact absurd enough (by decide)
    | succ fuel => rfl
  | cons g gs ih =>
    intro fuel enough
    obtain ⟨e, es, read, notQuote, notBreak, value⟩ := h g (by simp)
    rw [List.flatMap_cons, List.append_assoc, read] at enough ⊢
    cases fuel with
    | zero => simp at enough
    | succ fuel =>
      have rest := ih (fun g' hg' => h g' (by simp [hg'])) fuel (by
        simp only [List.length_cons, List.length_append] at enough
        omega)
      simp [unescapeAll?, notQuote, notBreak, value, rest, ofGlyphs]

/-- **A quoted text reads as the text.** -/
theorem unquote?_quote (t : Text) : unquote? (quote t) = some t := by
  have opening : glyphs (quote t) =
      Glyph.ascii 34 :: glyphs ((glyphs t).flatMap (escapeGlyph '"') ++ text "\"") := by
    unfold quote
    rw [List.append_assoc]
    exact glyphs_ascii (by decide) _
  have body := unescapeAll?_flatMap (glyphs t) (fun g hg => readsAs_escapeGlyph hg)
    ((glyphs ((glyphs t).flatMap (escapeGlyph '"') ++ text "\"")).length + 1) (Nat.le_succ _)
  rw [ofGlyphs_glyphs] at body
  unfold unquote?
  rw [opening]
  exact body

end DocAccessors.Text
