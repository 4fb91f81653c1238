import DocAccessors.Declaration.Basic
import DocAccessors.Proofs.Source.Symbols
import DocAccessors.Proofs.Text.Numeral

/-!
# How symbols are spelled

What a text is read as follows from what its parts are read as.

* `spells_word`: a word is read as a keyword or an identifier;
* `spells_ofNat`: a numeral is read as a number;
* `Spells.append`, `Spells.blank`, `Spells.lparen`, `Spells.lbrack`, `Spells.star`: parts of a line side by side, with blanks,
  brackets and stars between them;
* `Written t xs`: wherever the lines `t` stand at the start of a line, they are read as the symbols `xs`;
* `written_line`, `written_remark`, `Written.append` put lines together, and `Written.symbols_lex` is what they
  are read as in the end.
-/

namespace DocAccessors.Source

open DocAccessors.Text (Glyph glyphs)
open Reader (Reaches reaches_next)

namespace Passes

variable {gs post : List Glyph} {r : Reader}

/-- All glyphs are passed. -/
theorem advance (h : Passes gs post r) : Passes [] post (r.advance gs.length) := by
  induction gs generalizing r with
  | nil => exact h
  | cons g gs ih => exact ih h.next

/-- A run of glyphs is passed, if what follows does not go on with it. -/
theorem skipWhile {p : Char → Bool} (h : Passes gs post r) (all : ∀ g ∈ gs, p g.char = true)
    (stops : ∀ g ∈ post.head?, p g.char = false) : Passes [] post (r.skipWhile p) := by
  have run : (r.rest.takeWhile fun g => p g.char) = gs := by
    rw [h.rest, List.takeWhile_append_of_pos all]
    cases post with
    | nil => simp
    | cons g post => simp [stops g rfl]
  rw [Reader.skipWhile, run]
  exact h.advance

end Passes

/-- A text that is read as one token is read as its symbol wherever it stands. -/
theorem spells_of_passes {p : Text} {token : Token} {g : Glyph} {gs : List Glyph} (glyphs_eq : glyphs p = g :: gs)
    (unblank : isBlank g.char = false) (fine : ∀ g ∈ glyphs p, ∀ o, Reader.glyphFault? o g = none)
    (proper : token.isProper = true)
    (read : ∀ (file : Text) (size : Nat) (b : Bool) {start : Reader} {post : Text}, Ended post →
      Passes (g :: gs) (glyphs post) start →
      ∃ r, lexemeAt file size start b g.char = emit start token (Reader.between start r) r token.endsStatement ∧
        Reaches start r ∧ Passes [] (glyphs post) r) : Spells p [(token, p)] := by
  refine ⟨⟨g, gs, glyphs_eq, fine g (by simp [glyphs_eq])⟩, by simp, fun file size {post k s} ended stands => ?_⟩
  have whole : s.reader.rest = glyphs p ++ glyphs post := by rw [stands.rest, ended.glyphs_append]
  have follows : ∀ g ∈ (glyphs post).head?, ∀ o, Reader.glyphFault? o g = none :=
    fun g hg => Reader.Within.glyphFault?_of_mem (ended.closed g hg)
  have passes : Passes (g :: gs) (glyphs post) s.reader := ⟨glyphs_eq ▸ whole, stands.clean, glyphs_eq ▸ fine, follows⟩
  have begin : s.begin = s.reader := begin_eq passes.rest unblank
  obtain ⟨r, lexeme, reaches, stop⟩ := read file size s.breakEnds ended passes
  have found : readLexeme file size s = emit s.reader token (Reader.between s.reader r) r token.endsStatement := by
    rw [readLexeme_eq stands.pending (begin ▸ passes.peek), begin, lexeme]
  obtain ⟨passed, path, offset⟩ := reaches.path
  have inside : passed = glyphs p := by
    rw [whole, stop.rest, List.nil_append] at path
    exact (List.append_cancel_right path).symm
  have lit : Reader.between s.reader r = p := by rw [Reader.between_eq path offset, inside, Text.ofGlyphs_glyphs]
  have inner : token ≠ .eof ∧ token ≠ .comment := by
    constructor <;> rintro rfl <;> cases proper
  refine ⟨⟨r.forget, token.endsStatement, none⟩, ?_, ?_, ?_⟩
  · have leads := Leads.of_readLexeme found inner.1 (by simp [stop.clean])
    rwa [symbols_cons inner.2, lit] at leads
  · rw [inside, width_glyphs, stands.offset] at offset
    have line := reaches.line (by rw [stands.offset]; exact stands.line)
    exact ⟨stop.rest, offset, offset ▸ line, rfl, rfl⟩
  · simp [endsStatement]

/-! ## Words -/

theorem fine_of_isIdentPart {g : Glyph} (h : Text.isIdentPart g.char = true) (o : Nat) : Reader.glyphFault? o g = none := by
  have others : ∀ c ∈ ['\x00', Text.replacement, Text.byteOrderMark], Text.isIdentPart c = false := by decide +kernel
  have differs : ∀ c ∈ ['\x00', Text.replacement, Text.byteOrderMark], g.char ≠ c := by
    intro c hc same
    rw [same, others c hc] at h
    cases h
  simp only [List.forall_mem_cons, List.not_mem_nil, false_imp_iff, implies_true, and_true] at differs
  simp [Reader.glyphFault?, Glyph.isInvalid, differs]

/-- Whether a text is an identifier or a keyword. -/
def isWord (w : Text) : Bool :=
  match Text.chars w with
  | [] => false
  | c :: cs => Text.isIdentStart c && cs.all Text.isIdentPart

theorem exists_glyphs_of_isWord {w : Text} (h : isWord w = true) :
    ∃ g gs, glyphs w = g :: gs ∧ Text.isIdentStart g.char = true ∧ ∀ g ∈ glyphs w, Text.isIdentPart g.char = true := by
  unfold isWord Text.chars at h
  cases found : glyphs w with
  | nil => simp [found] at h
  | cons g gs =>
    simp only [found, List.map_cons, Bool.and_eq_true, List.all_eq_true, List.mem_map, forall_exists_index, and_imp,
      forall_apply_eq_imp_iff₂] at h
    exact ⟨g, gs, rfl, h.1, List.forall_mem_cons.2 ⟨by simp [Text.isIdentPart, h.1], h.2⟩⟩

/-- **A word is read as a keyword or an identifier** wherever it stands. -/
theorem spells_word {w : Text} (h : isWord w = true) : Spells w [(Token.ofWord w, w)] := by
  obtain ⟨g, gs, glyphs_eq, first, all⟩ := exists_glyphs_of_isWord h
  have blanks : ∀ c ∈ [' ', '\t', '\r', '\n'], Text.isIdentStart c = false := by decide +kernel
  have unblank : isBlank g.char = false := by
    have differs : ∀ c ∈ [' ', '\t', '\r', '\n'], g.char ≠ c := by
      intro c hc same
      rw [same, blanks c hc] at first
      cases first
    simpa [isBlank, and_assoc] using differs
  refine spells_of_passes glyphs_eq unblank (fun g hg => fine_of_isIdentPart (all g hg)) (isProper_ofWord w)
    fun file size b start post ended passes => ?_
  have stops : ∀ g ∈ (glyphs post).head?, Text.isIdentPart g.char = false := ended.closed.head? (by decide)
  have stop := passes.skipWhile (p := Text.isIdentPart) (fun g hg => all g (glyphs_eq ▸ hg)) stops
  have reaches := Reader.reaches_skipWhile Text.isIdentPart start
  have lit : Reader.between start (start.skipWhile Text.isIdentPart) = w := by
    obtain ⟨passed, path, offset⟩ := reaches.path
    have same := path
    rw [passes.rest, stop.rest, List.nil_append] at same
    rw [Reader.between_eq path offset, ← List.append_cancel_right same, ← glyphs_eq, Text.ofGlyphs_glyphs]
  refine ⟨start.skipWhile Text.isIdentPart, ?_, reaches, stop⟩
  unfold lexemeAt
  rw [if_pos first]
  dsimp only
  rw [lit]

theorem isIdentifier_iff {n : Text} : isIdentifier n = true ↔ isWord n = true ∧ Token.ofWord n = .ident := by
  unfold isIdentifier isWord
  exact Bool.and_eq_true_iff.trans (and_congr_right fun _ => beq_iff_eq)

theorem spells_identifier {n : Text} (h : isIdentifier n = true) : Spells n [(Token.ident, n)] := by
  obtain ⟨word, ident⟩ := isIdentifier_iff.1 h
  exact ident ▸ spells_word word

/-! ## Numerals -/

theorem Passes.peek_eq {post : List Glyph} {r : Reader} (h : Passes [] post r) (closed : Closed post) :
    ∀ c ∈ r.peek, c ∈ delimiters := by
  intro c hc
  rw [Reader.peek, h.rest, List.nil_append] at hc
  obtain ⟨g, hg, rfl⟩ := Option.map_eq_some_iff.1 hc
  exact closed g hg

theorem Passes.at'_eq {post : List Glyph} {r : Reader} (h : Passes [] post r) (closed : Closed post) {c : Char}
    (other : c ∉ delimiters) : r.at' c = false := by
  rw [Reader.at', beq_eq_false_iff_ne]
  exact fun here => other (h.peek_eq closed c here)

/-- Digits are read up to what follows them. -/
theorem readDigits_of_passes {gs post : List Glyph} {r : Reader} (h : Passes gs post r) (closed : Closed post) (base : Nat)
    (small : base ≤ 10) (digits : ∀ g ∈ gs, g.char.isDigit = true ∧ g.char.toNat - 48 < base) :
    readDigits base r = ⟨r.advance gs.length, !gs.isEmpty, false, none⟩ := by
  have stops : ∀ g ∈ post.head?, (g.char.isDigit || g.char == '_') = false :=
    closed.head? (p := fun c => c.isDigit || c == '_') (by decide)
  have run : (r.rest.takeWhile fun g => g.char.isDigit || g.char == '_') = gs := by
    rw [h.rest, List.takeWhile_append_of_pos fun g hg => by simp [(digits g hg).1]]
    cases post with
    | nil => simp
    | cons g post => simp [stops g rfl]
  have plain : ∀ g ∈ gs, g.char ≠ '_' := by
    rintro g hg same
    have digit := (digits g hg).1
    rw [same] at digit
    exact absurd digit (by decide)
  unfold readDigits
  simp only [if_pos small, run]
  have some_digit : (gs.any fun g => g.char != '_') = !gs.isEmpty := by
    cases gs with
    | nil => rfl
    | cons g gs => simp [plain g (by simp)]
  have no_underscore : (gs.any fun g => g.char == '_') = false := by simpa using plain
  have no_invalid : (gs.findIdx? fun g => decide (base ≤ 10) && g.char.isDigit && decide (base ≤ g.char.toNat - 48)) = none := by
    rw [List.findIdx?_eq_none_iff]
    intro g hg
    simp [Nat.not_le.2 (digits g hg).2]
  rw [some_digit, no_underscore, no_invalid]
  rfl

/-- A number goes no further than its digits. -/
theorem readNumber_of_digits {start r : Reader} {post : List Glyph} {radix : Radix} (h : Passes [] post r) (closed : Closed post)
    (integer : integerPart start = (radix, ⟨r, true, false, none⟩)) : readNumber start = (Token.int, Reader.between start r, r) := by
  have plain (c : Char) (other : c ∉ delimiters) : r.at' c = false := h.at'_eq closed other
  have mark : r.peek.filter (fun c => c == 'e' || c == 'E' || c == 'p' || c == 'P') = none := by
    rw [Option.filter_eq_none_iff]
    intro c hc
    have others : ∀ c ∈ delimiters, (c == 'e' || c == 'E' || c == 'p' || c == 'P') = false := by decide
    simpa using others c (h.peek_eq closed c hc)
  have whole : wholePart radix ⟨r, true, false, none⟩ = ⟨r, true, false, none⟩ := by
    unfold wholePart
    rw [if_neg (by rw [plain '.' (by decide)]; simp)]
  rw [readNumber_eq, integer]
  dsimp only
  rw [whole, plain '.' (by decide)]
  simp [mantissaEnd, exponentPart, mark, numberEnd, plain 'i' (by decide), noteInvalid, noteUnderscore]

/-- The byte of a digit, as a character. -/
theorem digit_of_byte {b : UInt8} (h : Text.isDigitByte b = true) :
    b < 0x80 ∧ (Char.ofNat b.toNat).isDigit = true ∧ (Char.ofNat b.toNat).toNat - 48 < 10 ∧
      Text.isIdentStart (Char.ofNat b.toNat) = false ∧ isBlank (Char.ofNat b.toNat) = false ∧
      Char.ofNat b.toNat ∉ ['\x00', Text.replacement, Text.byteOrderMark, '.'] ∧ (Char.ofNat b.toNat = '0' → b = 48) := by
  have all : ∀ n < 256, Text.isDigitByte (UInt8.ofNat n) = true →
      UInt8.ofNat n < 0x80 ∧ (Char.ofNat n).isDigit = true ∧ (Char.ofNat n).toNat - 48 < 10 ∧
      Text.isIdentStart (Char.ofNat n) = false ∧ isBlank (Char.ofNat n) = false ∧
      Char.ofNat n ∉ ['\x00', Text.replacement, Text.byteOrderMark, '.'] ∧ (Char.ofNat n = '0' → UInt8.ofNat n = 48) := by
    decide +kernel
  have here := all b.toNat b.toNat_lt
  rw [UInt8.ofNat_toNat] at here
  exact here h

theorem glyphs_of_digits {p : Text} (digits : ∀ b ∈ p, Text.isDigitByte b = true) :
    ∀ g ∈ glyphs p, (g.char.isDigit = true ∧ g.char.toNat - 48 < 10) ∧ ∀ o, Reader.glyphFault? o g = none := by
  induction p with
  | nil => simp [glyphs]
  | cons b p ih =>
    obtain ⟨ascii, isDigit, small, -, -, other, -⟩ := digit_of_byte (digits b (by simp))
    rw [Text.glyphs_ascii ascii]
    refine List.forall_mem_cons.2 ⟨⟨⟨isDigit, small⟩, fun o => ?_⟩, ih fun b hb => digits b (by simp [hb])⟩
    simp only [List.mem_cons, List.not_mem_nil, or_false, not_or] at other
    simp [Reader.glyphFault?, Glyph.isInvalid, other]

/-- A decimal numeral starts with a zero only if it is zero. -/
theorem ofNat_eq (n : Nat) : ∃ b bs, Text.ofNat n = b :: bs ∧ (b = 48 → bs = []) := by
  unfold Text.ofNat
  rw [Text.ofNatBase_eq_map (by decide)]
  unfold Text.digits
  split
  · exact ⟨48, [], rfl, fun _ => rfl⟩
  · next pos =>
    obtain ⟨d, ds, split⟩ := List.exists_cons_of_ne_nil (l := (Nat.digits 10 n).reverse) (by
      simpa [Nat.digits_ne_nil_iff_ne_zero] using pos)
    refine ⟨Text.digitByte d, ds.map Text.digitByte, by rw [split]; rfl, fun zero => ?_⟩
    have last : (Nat.digits 10 n).getLast? = some d := by rw [← List.head?_reverse, split]; rfl
    have small : d < 10 := Nat.digits_lt_base (by decide) (List.mem_of_getLast? last)
    have nonzero : d ≠ 0 := by
      have other := Nat.getLast_digit_ne_zero 10 pos
      rwa [List.getLast_eq_iff_getLast?_eq_some _ |>.2 last] at other
    have digits : ∀ d < 10, d ≠ 0 → Text.digitByte d ≠ 48 := by decide
    exact absurd zero (digits d small nonzero)

/-- **A numeral is read as a number** wherever it stands. -/
theorem spells_ofNat (n : Nat) : Spells (Text.ofNat n) [(Token.int, Text.ofNat n)] := by
  obtain ⟨b, bs, spelled, zero⟩ := ofNat_eq n
  obtain ⟨ascii, digit, -, notWord, unblank, other, first⟩ := digit_of_byte (b := b)
    (Text.isDigitByte_of_mem_ofNat (n := n) (by simp [spelled]))
  have glyphs_eq : glyphs (Text.ofNat n) = ⟨Char.ofNat b.toNat, [b]⟩ :: glyphs bs := by
    rw [spelled, Text.glyphs_ascii ascii]
  have digits := glyphs_of_digits fun _ => Text.isDigitByte_of_mem_ofNat (n := n)
  refine spells_of_passes glyphs_eq unblank (fun g hg => (digits g hg).2) rfl fun file size d start post ended passes => ?_
  have integer : ∃ radix r, integerPart start = (radix, ⟨r, true, false, none⟩) ∧ Reaches start r ∧
      Passes [] (glyphs post) r := by
    have point : start.at' '.' = false := by
      rw [Reader.at', passes.peek, beq_eq_false_iff_ne]
      intro same
      have same : Char.ofNat b.toNat = '.' := Option.some.inj same
      exact other (by simp [same])
    unfold integerPart
    rw [if_neg (by simp [point])]
    by_cases nought : Char.ofNat b.toNat = '0'
    · obtain rfl := zero (first nought)
      have next : Passes [] (glyphs post) start.next := passes.next
      have octal : radixOf start.next.peek = .legacyOctal := by
        have others : ∀ c ∈ delimiters, radixOf (some c) = .legacyOctal := by decide
        cases found : start.next.peek with
        | none => rfl
        | some c => exact others c (next.peek_eq ended.closed c found)
      have none := readDigits_of_passes next ended.closed 8 (by decide) (by simp)
      rw [if_pos (by rw [Reader.at', passes.peek, nought]; rfl), octal]
      exact ⟨_, _, by rw [none]; rfl, reaches_next start, next⟩
    · have all := readDigits_of_passes passes ended.closed 10 (by decide) fun g hg => (digits g (glyphs_eq ▸ hg)).1
      rw [if_neg (by rw [Reader.at', passes.peek]; simpa using nought), all]
      exact ⟨_, _, rfl, Reader.reaches_advance _ start, passes.advance⟩
  obtain ⟨radix, r, integer, reaches, stop⟩ := integer
  refine ⟨r, ?_, reaches, stop⟩
  unfold lexemeAt
  rw [if_neg (by simp [notWord]), if_pos (by simp [digit]), readNumber_of_digits stop ended.closed integer]
  rfl

/-! ## The start of a part -/

/-- A text that starts with a glyph without fault, if there is anything. -/
def Fine (t : Text) : Prop := ∀ g ∈ (glyphs t).head?, ∀ o, Reader.glyphFault? o g = none

theorem fine_byte {b : UInt8} (ascii : b < 0x80) (plain : b ≠ 0) (t : Text) : Fine (b :: t) := by
  intro g hg
  have fine := Plain.fine (t := [b]) (by simpa [Plain] using ⟨ascii, plain⟩)
  rw [Text.glyphs_ascii ascii] at hg fine
  exact fine g (by simp_all)

theorem Spells.head_append {p post : Text} {xs : List Symbol} (h : Spells p xs) (ended : Ended post) :
    (glyphs (p ++ post)).head? = (glyphs p).head? := by
  obtain ⟨g, gs, glyphs_eq, -⟩ := h.head
  rw [ended.glyphs_append, glyphs_eq]
  rfl

theorem Spells.fine {p post : Text} {xs : List Symbol} (h : Spells p xs) (ended : Ended post) : Fine (p ++ post) := by
  obtain ⟨g, gs, glyphs_eq, fine⟩ := h.head
  unfold Fine
  rw [h.head_append ended, glyphs_eq]
  rintro _ ⟨⟩
  exact fine

/-! ## Steps -/

section

variable (file : Text) (size : Nat) {k : Nat} {s : LexState} {post : Text} {b : UInt8}

/-- The place behind a byte. -/
theorem LexState.Stands.next (stands : s.Stands k (b :: post)) (ascii : b < 0x80) (fine : Fine post) :
    s.reader.peek = some (Char.ofNat b.toNat) ∧ s.reader.next.rest = glyphs post ∧ s.reader.next.offset = k + 1 ∧
      s.reader.next.lineStart ≤ k + 1 ∧ s.reader.next.faults = [] := by
  have rest : s.reader.rest = ⟨Char.ofNat b.toNat, [b]⟩ :: glyphs post := by rw [stands.rest, Text.glyphs_ascii ascii]
  have offset := stands.offset
  have line := stands.line
  have clean := stands.clean
  refine ⟨by rw [Reader.peek, rest]; rfl, by rw [Reader.rest_next, rest]; rfl, ?_⟩
  unfold Reader.next
  rw [rest]
  dsimp only
  unfold Reader.inspect
  dsimp only
  have line' : (if (Char.ofNat b.toNat == '\n') = true then s.reader.offset + 1 else s.reader.lineStart) ≤ k + 1 := by
    split <;> omega
  cases found : glyphs post with
  | nil => exact ⟨congrArg (· + 1) offset, line', clean⟩
  | cons g gs =>
    have none := fine g (by simp [found]) (s.reader.offset + 1)
    simp only [Glyph.width, List.length_singleton, none]
    exact ⟨congrArg (· + 1) offset, line', clean⟩

/-- A blank does not count. -/
theorem leads_blank (stands : s.Stands k (b :: post)) (ascii : b < 0x80) (fine : Fine post)
    (blank : s.skips (Char.ofNat b.toNat) = true) :
    ∃ s', Leads file size s [] s' ∧ s'.Stands (k + 1) post ∧ s'.breakEnds = s.breakEnds := by
  obtain ⟨-, rest, offset, line, clean⟩ := stands.next ascii fine
  have here : s.reader.rest = ⟨Char.ofNat b.toNat, [b]⟩ :: glyphs post := by rw [stands.rest, Text.glyphs_ascii ascii]
  refine ⟨⟨s.reader.next, s.breakEnds, s.pending⟩, .of_same ?_, ⟨rest, offset, line, clean, stands.pending⟩, rfl⟩
  have begin := begin_eq_next here blank
  by_cases ended : s.begin.rest = []
  · rw [readLexeme_end stands.pending ended, readLexeme_end (s := ⟨s.reader.next, s.breakEnds, s.pending⟩) stands.pending
      (begin ▸ ended), begin]
  · obtain ⟨c, found, read, -⟩ := readLexeme_found file size stands.pending ended
    rw [read, readLexeme_eq (s := ⟨s.reader.next, s.breakEnds, s.pending⟩) stands.pending (begin ▸ found), begin]

/-- A token of one byte. -/
theorem leads_byte {token : Token} {lit : Text} (stands : s.Stands k (b :: post)) (ascii : b < 0x80) (fine : Fine post)
    (solid : s.skips (Char.ofNat b.toNat) = false) (proper : token.isProper = true)
    (read : lexemeAt file size s.reader s.breakEnds (Char.ofNat b.toNat) =
      emit s.reader token lit s.reader.next token.endsStatement) :
    ∃ s', Leads file size s [(token, lit)] s' ∧ s'.Stands (k + 1) post ∧ s'.breakEnds = token.endsStatement := by
  obtain ⟨peek, rest, offset, line, clean⟩ := stands.next ascii fine
  have here : s.reader.rest = ⟨Char.ofNat b.toNat, [b]⟩ :: glyphs post := by rw [stands.rest, Text.glyphs_ascii ascii]
  have begin : s.begin = s.reader := by
    unfold LexState.begin Reader.skipWhile
    rw [here, List.takeWhile_cons, if_neg (by simp [solid])]
    rfl
  have inner : token ≠ .eof ∧ token ≠ .comment := by
    constructor <;> rintro rfl <;> cases proper
  refine ⟨⟨s.reader.next.forget, token.endsStatement, none⟩, ?_, ⟨rest, offset, line, rfl, rfl⟩, rfl⟩
  have found : readLexeme file size s = emit s.reader token lit s.reader.next token.endsStatement := by
    rw [readLexeme_eq stands.pending (begin ▸ peek), begin, read]
  have leads := Leads.of_readLexeme found inner.1 (by simp [clean])
  rwa [symbols_cons inner.2] at leads

/-- A bracket or a star is read as it stands. -/
theorem leads_operator {token : Token} (stands : s.Stands k (b :: post)) (ascii : b < 0x80) (fine : Fine post)
    (operator : b = 40 ∧ token = .lparen ∨ b = 91 ∧ token = .lbrack ∨
      b = 42 ∧ token = .mul ∧ ∀ g ∈ (glyphs post).head?, g.char ≠ '=') :
    ∃ s', Leads file size s [(token, [])] s' ∧ s'.Stands (k + 1) post ∧ s'.breakEnds = false := by
  have here : s.reader.rest = ⟨Char.ofNat b.toNat, [b]⟩ :: glyphs post := by rw [stands.rest, Text.glyphs_ascii ascii]
  have found : operatorAt? s.reader = some ([Char.ofNat b.toNat], token) := by
    unfold operatorAt?
    rw [here, List.take_succ_cons, List.map_cons]
    rcases operator with ⟨rfl, rfl⟩ | ⟨rfl, rfl⟩ | ⟨rfl, rfl, plain⟩
    · rfl
    · rfl
    · cases rest : glyphs post with
      | nil => rfl
      | cons g gs =>
        have other : ('=' == g.char) = false := beq_eq_false_iff_ne.2 (plain g (by simp [rest])).symm
        have before : ∀ o ∈ operators.takeWhile (· ≠ (['*'], .mul)),
            o.1 = ['*', '='] ∨ o.1 ≠ [] ∧ o.1.head? ≠ some '*' := by decide
        rw [List.find?_eq_some_iff_append]
        refine ⟨rfl, operators.takeWhile (· ≠ (['*'], .mul)), _, rfl, fun (cs, token) ho => ?_⟩
        rcases before _ ho with longer | ⟨some_char, first⟩
        · obtain rfl : cs = ['*', '='] := longer
          simp [List.isPrefixOf, other]
        · obtain ⟨c, cs, rfl⟩ := List.exists_cons_of_ne_nil some_char
          have differ : (c == '*') = false := by simpa using first
          simp [List.isPrefixOf, differ]
  have plain : Text.isIdentStart (Char.ofNat b.toNat) = false ∧ (Char.ofNat b.toNat).isDigit = false ∧
      ∀ c ∈ ['\n', '"', '\'', '\x60', '/', ' ', '\t', '\r', '.'], Char.ofNat b.toNat ≠ c := by
    rcases operator with ⟨rfl, -⟩ | ⟨rfl, -⟩ | ⟨rfl, -⟩ <;> decide
  have tokens : token.isProper = true ∧ token.endsStatement = false ∧ token ≠ .semicolon := by
    rcases operator with ⟨-, rfl⟩ | ⟨-, rfl⟩ | ⟨-, rfl, -⟩ <;> decide
  obtain ⟨notWord, notDigit, others⟩ := plain
  simp only [List.forall_mem_cons, List.not_mem_nil, false_imp_iff, implies_true, and_true] at others
  refine tokens.2.1 ▸ leads_byte file size stands ascii fine (by simp [LexState.skips, others]) tokens.1 ?_
  unfold lexemeAt
  rw [if_neg (by simp [notWord]), if_neg (by simp [notDigit, others])]
  generalize Char.ofNat b.toNat = c at found others
  split
  · exact absurd rfl others.1
  · exact absurd rfl others.2.1
  · exact absurd rfl others.2.2.1
  · exact absurd rfl others.2.2.2.1
  · rw [if_neg (by simp [others]), found]
    simp [tokens.2.2, Reader.advance]

/-- A comment is read up to the end of its line. -/
theorem leads_remark {t : Text} (stands : s.Stands k (47 :: 47 :: 32 :: t ++ 10 :: post))
    (plain : ∀ g ∈ glyphs t, g.char ≠ '\n' ∧ ∀ o, Reader.glyphFault? o g = none) :
    ∃ s', Leads file size s [] s' ∧ s'.Stands (k + (47 :: 47 :: 32 :: t).length) (10 :: post) ∧
      s'.breakEnds = s.breakEnds := by
  have glyphs_eq : glyphs (47 :: 47 :: 32 :: t ++ 10 :: post) =
      ⟨'/', [47]⟩ :: ⟨'/', [47]⟩ :: ⟨' ', [32]⟩ :: glyphs t ++ glyphs (10 :: post) := by
    rw [Text.glyphs_append_ascii (by decide)]
    congr 1
    rw [Text.glyphs_ascii (by decide), Text.glyphs_ascii (by decide), Text.glyphs_ascii (by decide)]
    rfl
  have passes : Passes (⟨'/', [47]⟩ :: ⟨'/', [47]⟩ :: ⟨' ', [32]⟩ :: glyphs t) (glyphs (10 :: post)) s.reader := by
    refine ⟨stands.rest.trans glyphs_eq, stands.clean, ?_, fine_byte (by decide) (by decide) _⟩
    have opening : Plain [47, 47, 32] := by unfold Plain; decide
    rintro g hg
    simp only [List.mem_cons] at hg
    rcases hg with rfl | rfl | rfl | hg
    · exact opening.fine _ (by decide)
    · exact opening.fine _ (by decide)
    · exact opening.fine _ (by decide)
    · exact (plain g hg).2
  have begin : s.begin = s.reader := begin_eq passes.rest (by decide)
  have second : s.reader.peek2 = some '/' := by rw [Reader.peek2, passes.rest]; rfl
  have stop := passes.next.skipWhile (p := (· != '\n')) (by
    simp only [List.forall_mem_cons]
    exact ⟨by decide, by decide, fun g hg => by simpa using (plain g hg).1⟩) (by
    rw [Text.glyphs_ascii (by decide)]
    rintro _ ⟨⟩
    rfl)
  have reaches := (reaches_next s.reader).trans (Reader.reaches_skipWhile (· != '\n') s.reader.next)
  have at_slash : s.reader.next.at' '*' = false := by rw [Reader.at', passes.next.peek]; rfl
  have comment : lexemeAt file size s.reader s.breakEnds '/' = emitComment file size s.reader s.breakEnds := by
    have notWord : Text.isIdentStart '/' = false := by decide
    unfold lexemeAt
    rw [if_neg (by simp [notWord]), if_neg (by simp)]
    dsimp only
    rw [if_pos (by simp [second])]
    rfl
  generalize stop_eq : s.reader.next.skipWhile (· != '\n') = r at stop reaches
  obtain ⟨passed, path, offset⟩ := reaches.path
  have inside : passed = ⟨'/', [47]⟩ :: ⟨'/', [47]⟩ :: ⟨' ', [32]⟩ :: glyphs t := by
    rw [passes.rest, stop.rest, List.nil_append] at path
    exact (List.append_cancel_right path).symm
  have lit : Reader.between s.reader r = 47 :: 47 :: 32 :: t := by
    rw [Reader.between_eq path offset, inside]
    simp [Text.ofGlyphs]
    exact Text.ofGlyphs_glyphs t
  have read : ∃ lit, readComment file size s.reader s.reader.next = (lit, r, none) := by
    unfold readComment
    simp only [at_slash, Bool.false_eq_true, if_false, stop_eq, if_true, lit]
    -- behind the slashes there is a blank, so that this is no line directive
    have blank : ∀ u : Text, (u.drop 2).head? ≠ some 108 → Text.startsWith (u.drop 2) (DocAccessors.text "line ") = false := by
      intro u first
      cases rest : u.drop 2 with
      | nil => rfl
      | cons b bs =>
        have other : ((108 : UInt8) == b) = false :=
          beq_eq_false_iff_ne.2 fun same => first (by rw [rest, ← same]; rfl)
        exact (congrArg (· && _) other).trans (Bool.false_and _)
    rw [blank]
    · simp
    · split
      · cases t <;> simp
      · simp
  have length : width passed = (47 :: 47 :: 32 :: t).length := by
    simp only [inside, width_cons, width_glyphs, Glyph.width, List.length_cons, List.length_nil]
    omega
  rw [length, stands.offset] at offset
  obtain ⟨lit, read⟩ := read
  refine ⟨⟨r.forget, s.breakEnds, none⟩, ?_, ⟨stop.rest, ?_, ?_, rfl, rfl⟩, rfl⟩
  · have found : readLexeme file size s =
      (⟨s.reader.offset, .comment, lit, r.faults.reverse⟩, ⟨r.forget, s.breakEnds, none⟩) := by
      rw [readLexeme_eq stands.pending (c := '/') (by rw [begin, passes.peek]), begin, comment, emitComment, read]
      cases s.breakEnds <;> rfl
    exact Leads.of_readLexeme found (by simp) (by simp [stop.clean])
  · exact offset
  · exact offset ▸ reaches.line (by rw [stands.offset]; exact stands.line)

/-- A line break is a semicolon if it ends a statement. -/
theorem leads_line (stands : s.Stands k (10 :: post)) (fine : Fine post) :
    ∃ s', Leads file size s (if s.breakEnds then [lineEnd] else []) s' ∧ s'.Stands (k + 1) post ∧ s'.breakEnds = false := by
  have notWord : Text.isIdentStart '\n' = false := by decide
  have read (b : Bool) : lexemeAt file size s.reader b '\n' = emit s.reader .semicolon (text "\n") s.reader.next false := by
    unfold lexemeAt
    rw [if_neg (by simp [notWord]), if_neg (by simp)]
    rfl
  have proper : Token.semicolon.isProper = true := rfl
  cases breakEnds : s.breakEnds with
  | false =>
    obtain ⟨s', leads, stands', same⟩ := leads_blank file size stands (by decide) fine
      (by simp [LexState.skips, breakEnds])
    exact ⟨s', leads, stands', same.trans breakEnds⟩
  | true => exact leads_byte file size stands (by decide) fine (by simp [LexState.skips, breakEnds]) proper (read _)

end

/-! ## Parts of a line -/

section

variable {p q : Text} {xs ys : List Symbol}

theorem Ended.cons {b : UInt8} (h : b < 0x80 ∧ Char.ofNat b.toNat ∈ delimiters) (t : Text) : Ended (b :: t) := by
  rintro _ ⟨⟩
  exact h

theorem Spells.ne_nil (h : Spells p xs) : p ≠ [] := by
  obtain ⟨g, gs, glyphs_eq, -⟩ := h.head
  rintro rfl
  cases glyphs_eq

theorem endsStatement_append (some_symbol : ys ≠ []) : endsStatement (xs ++ ys) = endsStatement ys := by
  obtain ⟨ys, y, rfl⟩ := List.eq_nil_or_concat' ys |>.resolve_left some_symbol
  simp [endsStatement]

theorem endsStatement_singleton (x : Symbol) : endsStatement [x] = x.1.endsStatement := by simp [endsStatement]

theorem endsStatement_cons {x : Symbol} (some_symbol : xs ≠ []) : endsStatement (x :: xs) = endsStatement xs :=
  by rw [← List.singleton_append, endsStatement_append some_symbol]

namespace Spells

/-- A text of whole tokens that the text `t` stands for is read as its symbols. -/
theorem of_whole {t : Text} (h : WholeTokens t ∧ symbolsOf t = xs) : Spells t xs := h.2 ▸ h.1.spells

/-- **Side by side**, parts are read one after the other. -/
theorem append (h : Spells p xs) (h' : Spells q ys) (ended : Ended q) : Spells (p ++ q) (xs ++ ys) := by
  refine ⟨?_, by simp [h.some_symbol], fun file size {post k s} ended' stands => ?_⟩
  · obtain ⟨g, gs, glyphs_eq, fine⟩ := h.head
    exact ⟨g, gs ++ glyphs q, by rw [ended.glyphs_append, glyphs_eq, List.cons_append], fine⟩
  · rw [List.append_assoc] at stands
    obtain ⟨s', leads, stands', -⟩ := h.leads file size (ended.append h'.ne_nil) stands
    obtain ⟨s'', leads', stands'', breakEnds⟩ := h'.leads file size ended' stands'
    refine ⟨s'', leads.trans leads', ?_, breakEnds.trans (endsStatement_append h'.some_symbol).symm⟩
    rwa [List.length_append, ← Nat.add_assoc]

/-- A byte and what is read behind it. -/
theorem cons {b : UInt8} (zs : List Symbol) (ascii : b < 0x80 ∧ b ≠ 0) (h : Spells q ys)
    (first : ∀ (file : Text) (size : Nat) {post : Text} {k : Nat} {s : LexState}, Ended post → s.Stands k (b :: (q ++ post)) →
      ∃ s', Leads file size s zs s' ∧ s'.Stands (k + 1) (q ++ post)) : Spells (b :: q) (zs ++ ys) := by
  refine ⟨?_, by simp [h.some_symbol], fun file size {post k s} ended stands => ?_⟩
  · have fine := fine_byte ascii.1 ascii.2 q
    rw [Fine, Text.glyphs_ascii ascii.1] at fine
    exact ⟨_, _, Text.glyphs_ascii ascii.1 q, fine _ rfl⟩
  · obtain ⟨s', leads, stands'⟩ := first file size ended stands
    obtain ⟨s'', leads', stands'', breakEnds⟩ := h.leads file size ended stands'
    refine ⟨s'', leads.trans leads', ?_, breakEnds.trans (endsStatement_append h.some_symbol).symm⟩
    rwa [List.length_cons, Nat.add_comm q.length, ← Nat.add_assoc]

/-- A blank or a tab does not count. -/
theorem blank {b : UInt8} (h : Spells q ys) (isBlank : b = 32 ∨ b = 9) : Spells (b :: q) ys := by
  refine h.cons [] (by rcases isBlank with rfl | rfl <;> decide) fun file size {post k s} ended stands => ?_
  have skips : s.skips (Char.ofNat b.toNat) = true := by rcases isBlank with rfl | rfl <;> rfl
  obtain ⟨s', leads, stands', -⟩ := leads_blank file size stands (by rcases isBlank with rfl | rfl <;> decide)
    (h.fine ended) skips
  exact ⟨s', leads, stands'⟩

theorem lparen (h : Spells q ys) : Spells (40 :: q) ((Token.lparen, []) :: ys) := by
  refine h.cons [_] (by decide) fun file size {post k s} ended stands => ?_
  obtain ⟨s', leads, stands', -⟩ := leads_operator file size stands (by decide) (h.fine ended) (.inl ⟨rfl, rfl⟩)
  exact ⟨s', leads, stands'⟩

theorem lbrack (h : Spells q ys) : Spells (91 :: q) ((Token.lbrack, []) :: ys) := by
  refine h.cons [_] (by decide) fun file size {post k s} ended stands => ?_
  obtain ⟨s', leads, stands', -⟩ := leads_operator file size stands (by decide) (h.fine ended) (.inr (.inl ⟨rfl, rfl⟩))
  exact ⟨s', leads, stands'⟩

theorem star (h : Spells q ys) (plain : ∀ g ∈ (glyphs q).head?, g.char ≠ '=') : Spells (42 :: q) ((Token.mul, []) :: ys) := by
  refine h.cons [_] (by decide) fun file size {post k s} ended stands => ?_
  have plain' : ∀ g ∈ (glyphs (q ++ post)).head?, g.char ≠ '=' := by rwa [h.head_append ended]
  obtain ⟨s', leads, stands', -⟩ := leads_operator file size stands (by decide) (h.fine ended) (.inr (.inr ⟨rfl, rfl, plain'⟩))
  exact ⟨s', leads, stands'⟩

end Spells

end

/-! ## Lines -/

/-- Wherever the lines stand at the start of a line, they are read as the given symbols. -/
structure Written (t : Text) (xs : List Symbol) : Prop where
  fine : ∀ {post : Text}, Fine post → Fine (t ++ post)
  leads : ∀ (file : Text) (size : Nat) {post : Text} {k : Nat} {s : LexState}, Fine post → s.Stands k (t ++ post) →
    s.breakEnds = false → ∃ s', Leads file size s xs s' ∧ s'.Stands (k + t.length) post ∧ s'.breakEnds = false

theorem written_nil : Written [] [] :=
  ⟨id, fun _ _ {_ _ s} _ stands start => ⟨s, .of_same rfl, stands, start⟩⟩

/-- A line. -/
theorem written_line {l : Text} {xs : List Symbol} (h : Spells l xs) :
    Written (l ++ [10]) (xs ++ if endsStatement xs then [lineEnd] else []) := by
  have ended (post : Text) : Ended (10 :: post) := .cons (by decide) post
  refine ⟨fun {post} _ => by simpa using h.fine (ended post), fun file size {post k s} fine stands _ => ?_⟩
  rw [List.append_assoc, List.singleton_append] at stands
  obtain ⟨s', leads, stands', breakEnds⟩ := h.leads file size (ended post) stands
  obtain ⟨s'', leads', stands'', start⟩ := leads_line file size stands' fine
  refine ⟨s'', leads.trans (breakEnds ▸ leads'), ?_, start⟩
  rwa [List.length_append, ← Nat.add_assoc]

/-- An empty line. -/
theorem written_blank : Written [10] [] := by
  refine ⟨fun {post} _ => fine_byte (by decide) (by decide) _, fun file size {post k s} fine stands start => ?_⟩
  obtain ⟨s', leads, stands', start'⟩ := leads_line file size stands fine
  rw [start] at leads
  exact ⟨s', leads, stands', start'⟩

/-- A comment on a line of its own. -/
theorem written_remark {t : Text} (plain : ∀ g ∈ glyphs t, g.char ≠ '\n' ∧ ∀ o, Reader.glyphFault? o g = none) :
    Written (47 :: 47 :: 32 :: t ++ [10]) [] := by
  refine ⟨fun {post} _ => fine_byte (by decide) (by decide) _, fun file size {post k s} fine stands start => ?_⟩
  rw [List.append_assoc, List.singleton_append] at stands
  obtain ⟨s', leads, stands', same⟩ := leads_remark file size stands plain
  obtain ⟨s'', leads', stands'', start'⟩ := leads_line file size stands' fine
  rw [same, start] at leads'
  refine ⟨s'', leads.trans leads', ?_, start'⟩
  rwa [List.length_append, ← Nat.add_assoc]

namespace Written

variable {t u : Text} {xs ys : List Symbol}

theorem append (h : Written t xs) (h' : Written u ys) : Written (t ++ u) (xs ++ ys) := by
  refine ⟨fun fine => by simpa using h.fine (h'.fine fine), fun file size {post k s} fine stands start => ?_⟩
  rw [List.append_assoc] at stands
  obtain ⟨s', leads, stands', start'⟩ := h.leads file size (h'.fine fine) stands start
  obtain ⟨s'', leads', stands'', start''⟩ := h'.leads file size fine stands' start'
  refine ⟨s'', leads.trans leads', ?_, start''⟩
  rwa [List.length_append, ← Nat.add_assoc]

/-- **Lines are read as their symbols**, without faults. -/
theorem symbols_lex (h : Written t xs) {b : UInt8} (first : t.head? = some b) (ascii : b < 0x80) (file : Text) :
    symbols (lex file t).1 = xs ++ [(Token.eof, [])] ∧ ∀ l ∈ (lex file t).1, l.faults = [] := by
  have none : Fine [] := by simp [Fine, glyphs]
  have fine : Fine t := by simpa using h.fine none
  obtain ⟨r, split⟩ : ∃ r, t = b :: r := by
    cases t with
    | nil => simp at first
    | cons c r => exact ⟨r, by rw [Option.some.inj first]⟩
  have other : b ≠ 0xFF ∧ b ≠ 0xFE := by
    constructor <;> rintro rfl <;> exact absurd ascii (by decide)
  have narrow : Reader.isWideText t = false := by
    simp [split, Reader.isWideText, Text.startsWith, List.isPrefixOf_cons_cons, other.1.symm, other.2.symm]
  have glyphs_eq := Text.glyphs_ascii ascii r
  rw [← split] at glyphs_eq
  have start := start_of_fine narrow glyphs_eq (fine _ (by simp [glyphs_eq]))
  have stands : LexState.Stands 0 (t ++ []) (LexState.ofText t) := by
    rw [LexState.ofText, start, List.append_nil]
    exact ⟨rfl, rfl, Nat.le_refl 0, rfl, rfl⟩
  obtain ⟨s', ⟨ls, found, seen, clean⟩, stands', ended⟩ := h.leads file t.length none stands rfl
  obtain ⟨last, clean'⟩ := stands'.ending file t.length
  rw [lex_eq_lexemes, found, symbols_append, seen, last, ended]
  exact ⟨rfl, fun l hl => (List.mem_append.1 hl).elim (clean l) (clean' l)⟩

end Written

end DocAccessors.Source
