import DocAccessors.Proofs.Source.WholeTokens
import DocAccessors.Proofs.Text.Quoted

/-!
# String literals

What quoting writes is one string literal, and it is read without faults.

* `Passes gs post r`: nothing is wrong at the place `r` with the glyphs `gs` that stand there before `post`;
* `Passes.readEscape`: an escape that can be read back is read without faults;
* `reads_quote`: a quoted text reads as a string literal, whatever bytes it holds.
-/

namespace DocAccessors.Source

open DocAccessors.Text (Glyph glyphs)
open OptionList (isSignificant)
open Reader (Reaches reaches_next)

/-! ## Digits -/

theorem toNat_bounds {a b c : Char} (h : (a ≤ c && c ≤ b) = true) : a.toNat ≤ c.toNat ∧ c.toNat ≤ b.toNat := by
  rw [Bool.and_eq_true, decide_eq_true_eq, decide_eq_true_eq, Char.le_def, Char.le_def] at h
  exact ⟨UInt32.le_iff_toNat_le.1 h.1, UInt32.le_iff_toNat_le.1 h.2⟩

theorem hexStep_eq_some {n m : Nat} {c : Char} (h : Text.hexStep (some n) c = some m) :
    digitValue c < 16 ∧ m = n * 16 + digitValue c := by
  unfold Text.hexStep at h
  unfold digitValue
  dsimp only at h
  split at h
  · next digit =>
    rw [if_pos digit]
    obtain ⟨lo, hi⟩ := toNat_bounds (a := '0') (b := '9') digit
    have nine : '9'.toNat = 57 := rfl
    exact ⟨by omega, (Option.some.inj h).symm⟩
  · next notDigit =>
    rw [if_neg notDigit]
    split at h
    · next lower =>
      rw [if_pos lower]
      obtain ⟨lo, hi⟩ := toNat_bounds lower
      have bound : 'f'.toNat = 102 := rfl
      exact ⟨by omega, (Option.some.inj h).symm⟩
    · next notLower =>
      rw [if_neg notLower]
      split at h
      · next upper =>
        rw [if_pos upper]
        obtain ⟨lo, hi⟩ := toNat_bounds upper
        have bound : 'F'.toNat = 70 := rfl
        exact ⟨by omega, (Option.some.inj h).symm⟩
      · cases h

/-- One more octal digit, as `octalValue?` reads it. -/
def octalStep (acc : Option Nat) (c : Char) : Option Nat :=
  match acc with
  | some n => if '0' ≤ c && c ≤ '7' then some (n * 8 + (c.toNat - 48)) else none
  | none => none

theorem octalStep_eq_some {n m : Nat} {c : Char} (h : octalStep (some n) c = some m) :
    digitValue c < 8 ∧ m = n * 8 + digitValue c := by
  unfold octalStep at h
  unfold digitValue
  dsimp only at h
  split at h
  · next octal =>
    obtain ⟨lo, hi⟩ := toNat_bounds octal
    have bounds : '0'.toNat = 48 ∧ '7'.toNat = 55 := ⟨rfl, rfl⟩
    have digit : c.isDigit = true := by
      simp only [Char.isDigit, Bool.and_eq_true, decide_eq_true_eq, ge_iff_le, UInt32.le_iff_toNat_le]
      change 48 ≤ c.toNat ∧ c.toNat ≤ 57
      omega
    rw [if_pos digit]
    exact ⟨by omega, (Option.some.inj h).symm⟩
  · cases h

theorem foldl_digits {base : Nat} {f : Option Nat → Char → Option Nat} (stays : ∀ c, f none c = none)
    (reads : ∀ {n m c}, f (some n) c = some m → digitValue c < base ∧ m = n * base + digitValue c)
    {ds : List Glyph} {n m : Nat} (h : (ds.map (·.char)).foldl f (some n) = some m) :
    (∀ d ∈ ds, digitValue d.char < base) ∧ ds.foldl (fun x d => x * base + digitValue d.char) n = m := by
  induction ds generalizing n with
  | nil => exact ⟨by simp, Option.some.inj h⟩
  | cons d ds ih =>
    rw [List.map_cons, List.foldl_cons] at h
    cases first : f (some n) d.char with
    | none =>
      have none_left : ∀ cs : List Char, cs.foldl f none = none := by
        intro cs
        induction cs with
        | nil => rfl
        | cons c cs ih => rw [List.foldl_cons, stays, ih]
      rw [first, none_left] at h
      cases h
    | some k =>
      obtain ⟨digit, rfl⟩ := reads first
      rw [first] at h
      obtain ⟨digits, value⟩ := ih h
      exact ⟨List.forall_mem_cons.2 ⟨digit, digits⟩, value⟩

theorem hexValue?_eq_some {ds : List Glyph} {n : Nat} (h : Text.hexValue? (ds.map (·.char)) = some n) :
    (∀ d ∈ ds, digitValue d.char < 16) ∧ ds.foldl (fun x d => x * 16 + digitValue d.char) 0 = n :=
  foldl_digits (f := Text.hexStep) (fun _ => rfl) hexStep_eq_some h

theorem octalValue?_eq_some {ds : List Glyph} {n : Nat} (h : Text.octalValue? (ds.map (·.char)) = some n) :
    (∀ d ∈ ds, digitValue d.char < 8) ∧ ds.foldl (fun x d => x * 8 + digitValue d.char) 0 = n :=
  foldl_digits (f := octalStep) (fun _ => rfl) octalStep_eq_some h

/-! ## Escapes -/

theorem lt_of_ofByteValue? {n : Nat} {v : Text} (h : Text.ofByteValue? n = some v) : n < 256 := by
  unfold Text.ofByteValue? at h
  split at h
  · assumption
  · cases h

theorem range_of_ofCode? {n : Nat} {v : Text} (h : Text.ofCode? n = some v) :
    n ≤ 0x10FFFF ∧ (n < 0xD800 ∨ 0xE000 ≤ n) := by
  unfold Text.ofCode? at h
  split at h
  · next range =>
    simp only [Bool.or_eq_true, Bool.and_eq_true, decide_eq_true_eq] at range
    omega
  · cases h

theorem isLetter_of_simpleEscape? {c : Char} {v : UInt8} (h : Text.simpleEscape? '"' c = some v) :
    (c == '"' || c == '\\' || c == 'a' || c == 'b' || c == 'f' || c == 'n' || c == 'r' || c == 't' || c == 'v') =
      true := by
  unfold Text.simpleEscape? at h
  split at h <;> first | rfl | cases h

theorem not_isLetter_of_octal {c : Char} (h : ('0' ≤ c && c ≤ '7') = true) :
    (c == '"' || c == '\\' || c == 'a' || c == 'b' || c == 'f' || c == 'n' || c == 'r' || c == 't' || c == 'v') =
      false := by
  have letters : ∀ d ∈ ['"', '\\', 'a', 'b', 'f', 'n', 'r', 't', 'v'], ('0' ≤ d && d ≤ '7') = false := by decide
  have differs : ∀ d ∈ ['"', '\\', 'a', 'b', 'f', 'n', 'r', 't', 'v'], c ≠ d := by
    rintro d hd rfl
    rw [letters _ hd] at h
    cases h
  simp only [List.forall_mem_cons, List.not_mem_nil, false_imp_iff, implies_true, and_true] at differs
  simp [differs]

/-- At the place `r`, the glyphs `gs` stand before `post`, and nothing is wrong with them or with what follows. -/
structure Passes (gs post : List Glyph) (r : Reader) : Prop where
  rest : r.rest = gs ++ post
  clean : r.faults = []
  fine : ∀ g ∈ gs, ∀ o, Reader.glyphFault? o g = none
  follows : ∀ g ∈ post.head?, ∀ o, Reader.glyphFault? o g = none

namespace Passes

variable {g : Glyph} {gs hs post : List Glyph} {r : Reader}

theorem peek (h : Passes (g :: gs) post r) : r.peek = some g.char := by
  rw [Reader.peek, h.rest]
  rfl

theorem next (h : Passes (g :: gs) post r) : Passes gs post r.next := by
  have after : ∀ g' ∈ (gs ++ post).head?, ∀ o, Reader.glyphFault? o g' = none := by
    cases gs with
    | nil => exact h.follows
    | cons g' gs =>
      intro g'' hg''
      exact h.fine g'' (by simp_all)
  have rest : r.next.rest = gs ++ post := by rw [Reader.rest_next, h.rest]; rfl
  refine ⟨rest, ?_, fun g' hg' => h.fine g' (by simp [hg']), h.follows⟩
  unfold Reader.next
  rw [h.rest]
  cases tail : gs ++ post with
  | nil => simp [Reader.inspect, tail, h.clean]
  | cons g' rest =>
    rw [tail] at after
    simp [Reader.inspect, tail, after g' rfl, h.clean]

theorem readEscapeDigits {base : Nat} {ds : List Glyph} (digits : ∀ d ∈ ds, digitValue d.char < base) (x : Nat)
    (h : Passes ds post r) :
    ∃ r', Source.readEscapeDigits base ds.length x r =
        (some (ds.foldl (fun x d => x * base + digitValue d.char) x), r') ∧ Passes [] post r' := by
  induction ds generalizing x r with
  | nil => exact ⟨r, rfl, h⟩
  | cons d ds ih =>
    obtain ⟨r', read, passes⟩ := ih (fun d' hd' => digits d' (by simp [hd'])) (x * base + digitValue d.char) h.next
    refine ⟨r', ?_, passes⟩
    rw [List.length_cons, Source.readEscapeDigits, h.peek]
    simpa [digits d (by simp)] using read

theorem numeric {base : Nat} {ds : List Glyph} {n : Nat} (max o : Nat) (h : Passes ds post r)
    (digits : ∀ d ∈ ds, digitValue d.char < base)
    (value : ds.foldl (fun x d => x * base + digitValue d.char) 0 = n)
    (small : n ≤ max ∧ (n < 0xD800 ∨ 0xE000 ≤ n)) :
    Passes [] post (match Source.readEscapeDigits base ds.length 0 r with
      | (none, s) => (false, s)
      | (some x, s) =>
        if max < x || (0xD800 ≤ x && x < 0xE000) then
          (false, s.fault o "escape sequence is invalid Unicode code point")
        else (true, s)).2 := by
  obtain ⟨r', read, passes⟩ := h.readEscapeDigits digits 0
  rw [read, value]
  have good : (max < n || (0xD800 ≤ n && n < 0xE000)) = false := by
    simp only [Bool.or_eq_false_iff, Bool.and_eq_false_iff, decide_eq_false_iff_not]
    omega
  simpa [good] using passes

/-- **An escape that can be read back is read without faults.** -/
theorem readEscape {us : List Glyph} {b : Glyph} {bs : Text} (backslash : b.char = '\\')
    (read : Text.unescape? '"' (b :: (us ++ post)) = some (bs, post)) (h : Passes us post r) :
    Passes [] post (Source.readEscape '"' r).2 := by
  have quote : '\\' ≠ '"' := by decide
  unfold Text.unescape? at read
  simp only [backslash, beq_iff_eq, quote, if_false, bne_self_eq_false, Bool.false_eq_true] at read
  -- what follows the escape is what follows the glyphs it is made of
  have inside {ds : List Glyph} (same : us ++ post = ds ++ post) : Passes ds post r :=
    List.append_cancel_right same ▸ h
  generalize us ++ post = all at read inside
  cases all with
  | nil => cases read
  | cons e rest =>
    dsimp only at read
    split at read
    · next _ _ d₁ d₂ rest kind =>
      simp only [Option.bind_eq_bind, Option.bind_eq_some_iff, Option.pure_def, Option.some.injEq, Prod.mk.injEq] at read
      obtain ⟨v, ⟨n, value, byte⟩, -, rest_eq⟩ := read
      have passes : Passes (e :: [d₁, d₂]) post r := inside (by rw [rest_eq]; rfl)
      have hex : Text.hexValue? ([d₁, d₂].map (·.char)) = some n := value
      obtain ⟨digits, value⟩ := hexValue?_eq_some hex
      have small := lt_of_ofByteValue? byte
      unfold Source.readEscape
      rw [passes.peek, kind]
      exact passes.next.numeric 255 _ digits value (by omega)
    · next _ _ d₁ d₂ d₃ d₄ rest kind =>
      simp only [Option.bind_eq_bind, Option.bind_eq_some_iff, Option.pure_def, Option.some.injEq, Prod.mk.injEq] at read
      obtain ⟨v, ⟨n, value, code⟩, -, rest_eq⟩ := read
      have passes : Passes (e :: [d₁, d₂, d₃, d₄]) post r := inside (by rw [rest_eq]; rfl)
      have hex : Text.hexValue? ([d₁, d₂, d₃, d₄].map (·.char)) = some n := value
      obtain ⟨digits, value⟩ := hexValue?_eq_some hex
      unfold Source.readEscape
      rw [passes.peek, kind]
      exact passes.next.numeric 0x10FFFF _ digits value (range_of_ofCode? code)
    · next _ _ d₁ d₂ d₃ d₄ d₅ d₆ d₇ d₈ rest kind =>
      simp only [Option.bind_eq_bind, Option.bind_eq_some_iff, Option.pure_def, Option.some.injEq, Prod.mk.injEq] at read
      obtain ⟨v, ⟨n, value, code⟩, -, rest_eq⟩ := read
      have passes : Passes (e :: [d₁, d₂, d₃, d₄, d₅, d₆, d₇, d₈]) post r := inside (by rw [rest_eq]; rfl)
      have hex : Text.hexValue? ([d₁, d₂, d₃, d₄, d₅, d₆, d₇, d₈].map (·.char)) = some n := value
      obtain ⟨digits, value⟩ := hexValue?_eq_some hex
      unfold Source.readEscape
      rw [passes.peek, kind]
      exact passes.next.numeric 0x10FFFF _ digits value (range_of_ofCode? code)
    · split at read
      · next octal =>
        have other := not_isLetter_of_octal octal
        split at read
        · next d₁ d₂ rest _ _ _ =>
          simp only [Option.bind_eq_bind, Option.bind_eq_some_iff, Option.pure_def, Option.some.injEq,
            Prod.mk.injEq] at read
          obtain ⟨v, ⟨n, value, byte⟩, -, rest_eq⟩ := read
          have passes : Passes [e, d₁, d₂] post r := inside (by rw [rest_eq]; rfl)
          have digits : Text.octalValue? ([e, d₁, d₂].map (·.char)) = some n := value
          obtain ⟨digits, value⟩ := octalValue?_eq_some digits
          have small := lt_of_ofByteValue? byte
          unfold Source.readEscape
          rw [passes.peek]
          simp only [other, octal, Bool.false_eq_true, if_false, if_true]
          exact passes.numeric 255 _ digits value (by omega)
        · cases read
      · obtain ⟨v, simple, same⟩ := Option.map_eq_some_iff.1 read
        have passes : Passes [e] post r := inside (by rw [(Prod.mk.inj same).2]; rfl)
        unfold Source.readEscape
        rw [passes.peek]
        simp only [isLetter_of_simpleEscape? simple, if_true]
        exact passes.next

theorem split (h : Passes (gs ++ hs) post r) : Passes gs (hs ++ post) r := by
  refine ⟨by rw [h.rest, List.append_assoc], h.clean, fun g hg => h.fine g (by simp [hg]), ?_⟩
  cases hs with
  | nil => exact h.follows
  | cons g hs =>
    intro g' hg'
    exact h.fine g' (by simp_all)

theorem join (h : Passes [] (gs ++ post) r) (fine : ∀ g ∈ gs, ∀ o, Reader.glyphFault? o g = none)
    (follows : ∀ g ∈ post.head?, ∀ o, Reader.glyphFault? o g = none) : Passes gs post r :=
  ⟨h.rest, h.clean, fine, follows⟩

end Passes

/-! ## What quoting writes -/

/-- ASCII bytes other than zero. -/
def Plain (t : Text) : Prop := ∀ b ∈ t, b < 0x80 ∧ b ≠ 0

theorem Plain.append {t u : Text} (ht : Plain t) (hu : Plain u) : Plain (t ++ u) :=
  fun b hb => (List.mem_append.1 hb).elim (ht b) (hu b)

theorem plain_hex (k n : Nat) : Plain (Text.hex k n) := by
  intro b hb
  rw [Text.hex_eq_map] at hb
  obtain ⟨d, hd, rfl⟩ := List.mem_map.1 hb
  have digits : ∀ d < 16, Text.digitByte d < 0x80 ∧ Text.digitByte d ≠ 0 := by decide
  exact digits d (Text.lt_of_mem_hexDigits hd)

theorem Plain.fine {t : Text} (h : Plain t) : ∀ g ∈ glyphs t, ∀ o, Reader.glyphFault? o g = none := by
  have same := Text.glyphs_ascii_append t (fun b hb => (h b hb).1) []
  rw [List.append_nil] at same
  intro g hg o
  rw [same, show glyphs [] = [] from rfl, List.append_nil] at hg
  obtain ⟨b, hb, rfl⟩ := List.mem_map.1 hg
  obtain ⟨ascii, nonzero⟩ := h b hb
  have bytes : ∀ n < 128, n ≠ 0 → Char.ofNat n ≠ '\x00' ∧ Char.ofNat n ≠ Text.replacement ∧
      Char.ofNat n ≠ Text.byteOrderMark := by decide +kernel
  obtain ⟨nul, replaced, mark⟩ := bytes b.toNat (UInt8.lt_iff_toNat_lt.1 ascii) fun zero =>
    nonzero (UInt8.toNat_inj.1 zero)
  simp [Reader.glyphFault?, Glyph.isInvalid, Text.Glyph.ascii, nul, replaced, mark]

theorem fine_of_isPrint {c : Char} (h : Text.isPrint c = true) (o : Nat) :
    Reader.glyphFault? o ⟨c, Text.ofChar c⟩ = none := by
  have nul : c ≠ '\x00' := by
    rintro rfl
    exact absurd h (by decide)
  have mark : c ≠ Text.byteOrderMark := by
    rintro rfl
    exact absurd h (by decide +kernel)
  have valid : (⟨c, Text.ofChar c⟩ : Glyph).isInvalid = false := Text.isInvalid_of_bytes_eq rfl
  have narrow : (c == Text.replacement && Reader.isWideText (Text.ofChar c)) = false := by
    rw [Bool.and_eq_false_iff]
    by_cases same : c = Text.replacement
    · subst same
      exact .inr (by decide)
    · exact .inl (by simpa using same)
  simp [Reader.glyphFault?, nul, mark, valid, narrow]

theorem escapeChar_cases (c : Char) :
    Plain (Text.escapeChar '"' c) ∨ Text.isPrint c = true ∧ Text.escapeChar '"' c = Text.ofChar c := by
  unfold Text.escapeChar
  split
  · next escaped =>
    rw [Bool.or_eq_true, beq_iff_eq, beq_iff_eq] at escaped
    rcases escaped with rfl | rfl <;> exact .inl (by unfold Plain; decide)
  · split
    · next printable => exact .inr ⟨printable, rfl⟩
    · left
      have start : ∀ t ∈ [text "\\x", text "\\u", text "\\U"], Plain t := by unfold Plain; decide
      split
      all_goals first | (unfold Plain; decide) | skip
      split
      · exact (start _ (by simp)).append (plain_hex _ _)
      · split
        · exact (start _ (by simp)).append (plain_hex _ _)
        · exact (start _ (by simp)).append (plain_hex _ _)

theorem fine_escapeGlyph (g : Glyph) :
    ∀ g' ∈ glyphs (Text.escapeGlyph '"' g), ∀ o, Reader.glyphFault? o g' = none := by
  unfold Text.escapeGlyph
  split
  · refine Plain.fine fun b hb => ?_
    obtain ⟨b', -, hb⟩ := List.mem_flatMap.1 hb
    have start : Plain (text "\\x") := by unfold Plain; decide
    exact start.append (plain_hex _ _) b hb
  · rcases escapeChar_cases g.char with plain | ⟨printable, same⟩
    · exact plain.fine
    · intro g' hg' o
      have single := Text.glyphs_ofChar_append g.char []
      rw [List.append_nil] at single
      rw [same, single] at hg'
      rw [List.mem_singleton.1 hg']
      exact fine_of_isPrint printable o

/-- A glyph that is neither a quote nor a backslash stands for itself. -/
theorem unescape?_plain {g : Glyph} {gs post : List Glyph} {bs : Text} (notQuote : g.char ≠ '"')
    (notEscape : g.char ≠ '\\') (h : Text.unescape? '"' (g :: gs) = some (bs, post)) : gs = post := by
  unfold Text.unescape? at h
  simp [notQuote, notEscape] at h
  exact h.2

theorem glyphs_closing : glyphs (text "\"") = [⟨'"', [34]⟩] := rfl

/-- Between quotes, what quoting writes is passed over up to the closing quote. -/
theorem skipString_quoted {t post : Text} (follows : ∀ g ∈ (glyphs post).head?, ∀ o, Reader.glyphFault? o g = none)
    (start : Nat) (gs : List Glyph) (ofText : ∀ g ∈ gs, g ∈ glyphs t) (fuel : Nat) {r : Reader}
    (h : Passes (glyphs (gs.flatMap (Text.escapeGlyph '"') ++ text "\"")) (glyphs post) r)
    (enough : r.rest.length < fuel) : Passes [] (glyphs post) (skipString start fuel r) := by
  induction gs generalizing fuel r with
  | nil =>
    obtain ⟨fuel, rfl⟩ := Nat.exists_eq_succ_of_ne_zero (Nat.ne_zero_of_lt enough)
    rw [List.flatMap_nil, List.nil_append, glyphs_closing] at h
    unfold skipString
    rw [h.peek]
    exact h.next
  | cons g gs ih =>
    obtain ⟨fuel, rfl⟩ := Nat.exists_eq_succ_of_ne_zero (Nat.ne_zero_of_lt enough)
    obtain ⟨u, us, read, notQuote, notBreak, value⟩ := Text.readsAs_escapeGlyph (ofText g (by simp))
    rw [List.flatMap_cons, List.append_assoc, read] at h
    have rest_fine : ∀ g' ∈ glyphs (gs.flatMap (Text.escapeGlyph '"') ++ text "\""), ∀ o, Reader.glyphFault? o g' = none :=
      fun g' hg' => h.fine g' (by simp [hg'])
    have tail := ih (fun g' hg' => ofText g' (by simp [hg']))
    have value := value (glyphs (gs.flatMap (Text.escapeGlyph '"') ++ text "\"") ++ glyphs post)
    have shorter {r' : Reader} (hr : Reaches r.next r') : r'.rest.length < fuel :=
      Nat.lt_of_lt_of_le (length_rest_next (by rw [h.rest]; simp) hr) (Nat.le_of_lt_succ enough)
    have next := h.next.split
    unfold skipString
    rw [h.peek]
    split
    · next missing => cases missing
    · next lineBreak => exact absurd (Option.some.inj lineBreak) notBreak
    · next closing => exact absurd (Option.some.inj closing) notQuote
    · next escape =>
      have passes := next.readEscape (Option.some.inj escape) value
      exact tail fuel (passes.join rest_fine follows) (shorter (reaches_readEscape _ _))
    · next c _ _ notEscape other =>
      -- any other glyph stands for itself
      have alone : us = [] := by
        have plain : u.char ≠ '\\' := fun escape => notEscape (Option.some.inj other ▸ escape)
        have rest := unescape?_plain notQuote plain value
        exact List.append_cancel_right (rest.trans (List.nil_append _).symm)
      subst alone
      exact tail fuel (next.join rest_fine follows) (shorter (.refl _))

theorem glyphs_quote (t : Text) : glyphs (Text.quote t) =
    ⟨'"', [34]⟩ :: glyphs ((glyphs t).flatMap (Text.escapeGlyph '"') ++ text "\"") := by
  unfold Text.quote
  rw [List.append_assoc]
  exact Text.glyphs_ascii (by decide) _

theorem fine_flatMap (gs : List Glyph) (ofText : ∀ g ∈ gs, g ∈ glyphs t) :
    ∀ g ∈ glyphs (gs.flatMap (Text.escapeGlyph '"') ++ text "\""), ∀ o, Reader.glyphFault? o g = none := by
  have closing : Plain (text "\"") := by unfold Plain; decide
  induction gs with
  | nil => exact closing.fine
  | cons g gs ih =>
    obtain ⟨u, us, read, -⟩ := Text.readsAs_escapeGlyph (ofText g (by simp))
    have unit := read []
    rw [List.append_nil] at unit
    intro g' hg'
    rw [List.flatMap_cons, List.append_assoc, read] at hg'
    rcases List.mem_append.1 (List.cons_append ▸ hg' : g' ∈ (u :: us) ++ _) with inside | later
    · refine fine_escapeGlyph g g' ?_
      rw [unit]
      simpa [glyphs] using inside
    · exact ih (fun g'' hg'' => ofText g'' (by simp [hg''])) g' later

/-- **A quoted text reads as one string literal**, whatever bytes it holds. -/
theorem reads_quote (t : Text) : Reads (Text.quote t) [⟨0, .string, Text.quote t, []⟩] := by
  have fine : ∀ g ∈ glyphs (Text.quote t), ∀ o, Reader.glyphFault? o g = none := by
    rw [glyphs_quote]
    refine List.forall_mem_cons.2 ⟨Reader.Within.glyphFault?_of_mem (by decide), ?_⟩
    exact fine_flatMap (glyphs t) fun g hg => hg
  refine ⟨⟨_, _, glyphs_quote t, fine _ (by rw [glyphs_quote]; simp)⟩, by simp, fun file size {post k s} ended stands => ?_⟩
  have follows : ∀ g ∈ (glyphs post).head?, ∀ o, Reader.glyphFault? o g = none :=
    fun g hg => Reader.Within.glyphFault?_of_mem (ended.closed g hg)
  have whole : s.reader.rest = glyphs (Text.quote t) ++ glyphs post := by rw [stands.rest, ended.glyphs_append]
  have passes : Passes (glyphs (Text.quote t)) (glyphs post) s.reader := ⟨whole, stands.clean, fine, follows⟩
  have rest := whole
  rw [glyphs_quote, List.cons_append] at rest
  have begin : s.begin = s.reader := begin_eq rest (by decide)
  have found : s.begin.peek = some '"' := by rw [begin, Reader.peek, rest]; rfl
  rw [glyphs_quote] at passes
  have stop := skipString_quoted (t := t) follows s.reader.offset (glyphs t) (fun g hg => hg)
    (s.reader.rest.length + 1) passes.next (by
      have := length_rest_next (r := s.reader) (by rw [rest]; simp) (.refl _)
      omega)
  have read : readLexeme file size s = lexemeAt file size s.reader s.breakEnds '"' :=
    begin ▸ readLexeme_eq stands.pending found
  unfold lexemeAt at read
  rw [if_neg (by decide), if_neg (by simp [show '"'.isDigit = false from rfl])] at read
  dsimp only at read
  have reaches := (reaches_next s.reader).trans
    (reaches_skipString s.reader.offset (s.reader.rest.length + 1) s.reader.next)
  generalize skipString s.reader.offset (s.reader.rest.length + 1) s.reader.next = r at stop read reaches
  obtain ⟨gs, path, offset⟩ := reaches.path
  -- the literal is everything up to what follows
  have inside : gs = glyphs (Text.quote t) := by
    rw [whole, stop.rest, List.nil_append] at path
    exact (List.append_cancel_right path).symm
  have lit : Reader.between s.reader r = Text.quote t := by
    rw [Reader.between_eq path offset, inside, Text.ofGlyphs_glyphs]
  have lexemes : Lexes file size s [(readLexeme file size s).1] (readLexeme file size s).2 :=
    .cons (by rw [read]; simp [emit]) (.nil _)
  rw [read] at lexemes
  refine ⟨_, _, lexemes, ?_, ?_, ?_⟩
  · simp [emit, isSignificant, lit, stop.clean, Lexeme.shift, stands.offset]
  · simp [emit, stop.clean]
  · rw [inside, width_glyphs, stands.offset] at offset
    have line := reaches.line (by rw [stands.offset]; exact stands.line)
    refine ⟨by simpa [emit, Reader.forget] using stop.rest, offset, ?_, rfl, rfl⟩
    rw [← offset]
    exact line

end DocAccessors.Source
