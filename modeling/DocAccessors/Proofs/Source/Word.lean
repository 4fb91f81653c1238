import DocAccessors.Proofs.Source.WholeTokens

/-!
# Words

Identifiers and keywords stand in a text as they are spelled, whatever is wrong with the text elsewhere. Other tokens
are spelled otherwise than they are written, or not at all.

* `Token.isWord`: identifiers and keywords;
* `Reader.Stands`: a reader is at a place of a text;
* `readLexeme_stands`: what a lexeme that is a word is, and where the next one is read from;
* `words_apart`: the words of a text are spelled, stand in it, and lie side by side.
-/

namespace DocAccessors.Source

open DocAccessors.Text (Glyph glyphs)
open Reader (Reaches)

/-- Whether a token is an identifier or a keyword. -/
def Token.isWord (t : Token) : Bool := t == .ident || t.isKeyword

/-! ## Readers in a text -/

/-- A reader is at a place of a text, and what is left of the text is left to read. -/
structure Reader.Stands (t : Text) (r : Reader) : Prop where
  rest : Text.ofGlyphs r.rest = t.drop r.offset
  inside : r.offset ≤ t.length
  solid : ∀ g ∈ r.rest, 0 < g.width

namespace Reader

variable {t : Text} {r r' : Reader}

theorem stands_start (t : Text) : Stands t (start t) := by
  obtain ⟨gs, rest, offset⟩ := (reaches_start t).path
  dsimp only at rest offset
  have whole : Text.ofGlyphs (if isWideText t then [⟨Text.replacement, t⟩] else glyphs t) = t := by
    split
    · simp [Text.ofGlyphs]
    · exact Text.ofGlyphs_glyphs t
  have split : t = Text.ofGlyphs gs ++ Text.ofGlyphs (start t).rest :=
    calc t = Text.ofGlyphs (gs ++ (start t).rest) := by rw [← rest, whole]
      _ = Text.ofGlyphs gs ++ Text.ofGlyphs (start t).rest := List.flatMap_append
  have length := congrArg List.length split
  rw [List.length_append] at length
  rw [Nat.zero_add] at offset
  refine ⟨?_, ?_, solid_start t⟩
  · calc Text.ofGlyphs (start t).rest
        = (Text.ofGlyphs gs ++ Text.ofGlyphs (start t).rest).drop (start t).offset := by rw [offset, width, List.drop_left]
      _ = t.drop (start t).offset := by rw [← split]
  · rw [offset, width]
    omega

/-- The places behind a place of a text are places of the text, and the text in between is read there. -/
theorem Stands.reaches (h : Stands t r) (reaches : Reaches r r') :
    Stands t r' ∧ between r r' <+: t.drop r.offset ∧ r.offset + (between r r').length = r'.offset := by
  obtain ⟨gs, rest, offset⟩ := reaches.path
  have split : t.drop r.offset = Text.ofGlyphs gs ++ Text.ofGlyphs r'.rest := by
    rw [← h.rest, rest]
    exact List.flatMap_append
  have length := congrArg List.length split
  rw [List.length_drop, List.length_append] at length
  rw [between_eq rest offset]
  refine ⟨⟨?_, ?_, fun g hg => h.solid g (by simp [rest, hg])⟩, ⟨_, split.symm⟩, offset.symm⟩
  · rw [offset, ← List.drop_drop, split, width, List.drop_left]
  · have inside := h.inside
    rw [offset, width]
    omega

theorem Stands.forget (h : Stands t r) : Stands t r.forget := ⟨h.rest, h.inside, h.solid⟩

end Reader

/-! ## One lexeme -/

theorem isWord_readNumber (start : Reader) : (readNumber start).1.isWord = false := by
  rw [readNumber_eq]
  dsimp only
  unfold numberEnd
  split
  · rfl
  · dsimp only
    split <;> rfl

/-- A lexeme that is a word is the run of letters and digits at its place. -/
theorem lexemeAt_word {file : Text} {size : Nat} {start : Reader} {breakEnds : Bool} {c : Char}
    (word : (lexemeAt file size start breakEnds c).1.token.isWord = true) :
    Text.isIdentStart c = true ∧ (lexemeAt file size start breakEnds c).1.lit =
        Reader.between start (start.skipWhile Text.isIdentPart) ∧
      (lexemeAt file size start breakEnds c).2.reader = (start.skipWhile Text.isIdentPart).forget := by
  unfold lexemeAt at word ⊢
  split at word
  · next first =>
    rw [if_pos first]
    exact ⟨first, rfl, rfl⟩
  · exfalso
    split at word
    · simp [emit, isWord_readNumber] at word
    · split at word
      · cases word
      · cases word
      · cases word
      · cases word
      · split at word
        · cases word
        · split at word
          · next cs token operator =>
            have plain : ∀ p ∈ operators, p.2.isWord = false := by decide
            have other := plain _ (operatorAt?_eq_some operator).1
            simp only [emit] at word
            simp [other] at word
          · cases word

variable {file t : Text} {size : Nat} {s s' : LexState} {ls : List Lexeme}

/-- **A lexeme that is a word is spelled as it stands in the text**, behind the place that is read from and before the
place that is reached. -/
theorem readLexeme_stands (file : Text) (size : Nat) (h : s.reader.Stands t) :
    (readLexeme file size s).2.reader.Stands t ∧ s.reader.offset ≤ (readLexeme file size s).2.reader.offset ∧
      ((readLexeme file size s).1.token.isWord = true →
        (readLexeme file size s).1.lit ≠ [] ∧
        (readLexeme file size s).1.lit <+: t.drop (readLexeme file size s).1.offset ∧
        s.reader.offset ≤ (readLexeme file size s).1.offset ∧
        (readLexeme file size s).1.offset + (readLexeme file size s).1.lit.length =
          (readLexeme file size s).2.reader.offset) := by
  have blank : Reaches s.reader s.begin := Reader.reaches_skipWhile _ s.reader
  have begins := (h.reaches blank).1
  cases pending : s.pending with
  | some o =>
    rw [readLexeme_pending pending]
    exact ⟨h, Nat.le_refl _, by simp [Token.isWord, Token.isKeyword, Token.keywords]⟩
  | none =>
    by_cases ended : s.begin.rest = []
    · rw [readLexeme_end pending ended]
      have plain : Token.isWord .semicolon = false ∧ Token.isWord .eof = false := by decide
      split
      · exact ⟨begins.forget, blank.offset_le, by simp [emit, plain]⟩
      · exact ⟨begins.forget, blank.offset_le, by simp [emit, plain]⟩
    · obtain ⟨c, found, read, on⟩ := readLexeme_found file size pending ended
      obtain ⟨r, reaches, -, reader⟩ := on.path
      have behind := (Reader.reaches_next s.begin).trans reaches
      rw [reader]
      refine ⟨(begins.reaches behind).1.forget, (blank.trans behind).offset_le, fun word => ?_⟩
      rw [read] at word ⊢
      obtain ⟨first, lit, stop⟩ := lexemeAt_word word
      have run : Reaches s.begin.next (s.begin.skipWhile Text.isIdentPart) :=
        reaches_skipWhile_next found (by simp [Text.isIdentPart, first])
      obtain ⟨-, stands, length⟩ := begins.reaches (Reader.reaches_skipWhile Text.isIdentPart s.begin)
      have further := Nat.lt_of_lt_of_le (offset_lt_next ended begins.solid) run.offset_le
      have offset : r.offset = (s.begin.skipWhile Text.isIdentPart).offset := by
        have same := congrArg Reader.offset (reader.symm.trans (read ▸ stop))
        exact same
      rw [lit, ← read, on.offset, Reader.forget, offset]
      exact ⟨List.length_pos_iff.1 (by omega), stands, blank.offset_le, length⟩

/-! ## All lexemes -/

/-- Words lie side by side, between the place that is read from and the place that is reached. -/
theorem Lexes.words_apart (h : Lexes file size s ls s') (stands : s.reader.Stands t) :
    (ls.filter (·.token.isWord)).Pairwise (fun a b => a.offset + a.lit.length ≤ b.offset) ∧
      (∀ l ∈ ls.filter (·.token.isWord), s.reader.offset ≤ l.offset ∧ l.lit ≠ [] ∧ l.lit <+: t.drop l.offset) ∧
      s'.reader.Stands t := by
  induction h with
  | nil => exact ⟨.nil, by simp, stands⟩
  | @cons s _ ls _ rest ih =>
    obtain ⟨stands', further, word⟩ := readLexeme_stands file size stands
    obtain ⟨apart, all, reached⟩ := ih stands'
    have later : ∀ l ∈ ls.filter (·.token.isWord), s.reader.offset ≤ l.offset ∧ l.lit ≠ [] ∧ l.lit <+: t.drop l.offset :=
      fun l hl => ⟨Nat.le_trans further (all l hl).1, (all l hl).2⟩
    rw [List.filter_cons]
    split
    · next isWord =>
      obtain ⟨spelled, there, behind, stop⟩ := word isWord
      refine ⟨List.pairwise_cons.2 ⟨fun l hl => ?_, apart⟩, List.forall_mem_cons.2 ⟨⟨behind, spelled, there⟩, later⟩,
        reached⟩
      rw [stop]
      exact (all l hl).1
    · exact ⟨apart, later, reached⟩

/-- **The words of a text** are spelled, stand in the text, and lie side by side. -/
theorem words_apart (file t : Text) :
    ((lex file t).1.filter (·.token.isWord)).Pairwise (fun a b => a.offset + a.lit.length ≤ b.offset) ∧
      ∀ l ∈ (lex file t).1, l.token.isWord = true → l.lit ≠ [] ∧ l.lit <+: t.drop l.offset := by
  obtain ⟨ls, s, read, eof, lexemes⟩ := lexFrom_spec file t.length (left_ofText t)
  obtain ⟨apart, all, -⟩ := read.words_apart (Reader.stands_start t)
  have last : [(readLexeme file t.length s).1].filter (·.token.isWord) = [] := by
    simp [eof, Token.isWord, Token.isKeyword, Token.keywords]
  rw [lex_eq, lexemes, List.filter_append, last, List.append_nil]
  refine ⟨apart, fun l hl word => ?_⟩
  rcases List.mem_append.1 hl with hl | hl
  · exact (all l (List.mem_filter.2 ⟨hl, word⟩)).2
  · rw [List.mem_singleton.1 hl, eof] at word
    cases word

end DocAccessors.Source
