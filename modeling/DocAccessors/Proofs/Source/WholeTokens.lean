import DocAccessors.Proofs.Source.Pieces

/-!
# Texts of whole tokens

A text that starts and ends with a token is read the same way wherever it stands, if a delimiter follows.

* `tokensOf_spec`: a text without faults is read up to its end, and its tokens are among the lexemes read;
* `WholeTokens t`: the text `t` on its own is read without faults, and starts and ends with a token;
* `Reads t ts`: wherever `t` stands before a delimiter, its tokens are `ts`, as far as comments and line breaks are
  left out;
* `WholeTokens.reads`: a text of whole tokens reads as its tokens;
* `Reads.append` and `Reads.blank` put such texts together, and `Reads.lex` is what a text is read as in the end;
* `Lexes.apart`, `tokensOf_apart`: the tokens of a text without faults lie side by side in it.
-/

namespace DocAccessors.Source

open DocAccessors.Text (Glyph glyphs)
open OptionList (isSignificant tokenLength)
open Reader (Reaches reaches_next)

/-! ## Glyphs of a text -/

theorem width_pos_of_mem {t : Text} {g : Glyph} (h : g ∈ glyphs t) : 0 < g.width := by
  rcases Text.spelled_or_invalid t g h with spelled | ⟨b, rfl⟩
  · have bytes := Text.Spells.ofChar g.char
    rw [Glyph.width, spelled]
    generalize Text.ofChar g.char = bs, g.char.toNat = n at bytes
    cases bytes <;> simp
  · simp [Glyph.width, Glyph.invalid]

theorem width_glyphs (t : Text) : width (glyphs t) = t.length := by rw [width, Text.ofGlyphs_glyphs]

/-- A text that follows another one and starts with a delimiter, if there is anything. -/
def Ended (post : Text) : Prop := ∀ b ∈ post.head?, b < 0x80 ∧ Char.ofNat b.toNat ∈ delimiters

theorem Ended.nil : Ended [] := by simp [Ended]

theorem Ended.append {p q : Text} (h : Ended p) (some_byte : p ≠ []) : Ended (p ++ q) := by
  obtain ⟨b, p, rfl⟩ := List.exists_cons_of_ne_nil some_byte
  exact h

theorem Ended.glyphs_append {post : Text} (h : Ended post) (t : Text) : glyphs (t ++ post) = glyphs t ++ glyphs post := by
  cases post with
  | nil => rw [List.append_nil]; exact (List.append_nil _).symm
  | cons b post => exact Text.glyphs_append_ascii (h b rfl).1 t post

theorem Ended.closed {post : Text} (h : Ended post) : Closed (glyphs post) := by
  cases post with
  | nil => simp [Closed, glyphs]
  | cons b post =>
    obtain ⟨ascii, delimiter⟩ := h b rfl
    rw [Closed, Text.glyphs_ascii ascii]
    simpa using delimiter

/-! ## The start of a text -/

/-- A text whose start has no fault: it has another encoding than two-byte ones, and nothing is wrong with its first
glyph. A byte order mark is passed over. -/
theorem fine_start {t : Text} (clean : (Reader.start t).faults = []) :
    Reader.isWideText t = false ∧ Reader.Fine ⟨glyphs t, 0, 0, [], []⟩ ∧
      Reader.start t = if Reader.at' ⟨glyphs t, 0, 0, [], []⟩ Text.byteOrderMark then
        Reader.next ⟨glyphs t, 0, 0, [], []⟩ else ⟨glyphs t, 0, 0, [], []⟩ := by
  unfold Reader.start at clean ⊢
  split at clean
  · next wide =>
    -- the two bytes of another encoding are a fault
    have found : Reader.glyphFault? 0 ⟨Text.replacement, t⟩ ≠ none := by
      have plain : Text.replacement ≠ '\x00' := by decide
      simp only [Reader.glyphFault?, wide, beq_iff_eq, plain, if_false]
      split <;> simp
    have bad : (Reader.inspect ⟨[⟨Text.replacement, t⟩], 0, 0, [], []⟩).faults ≠ [] :=
      fun clean => found ((Reader.inspect_clean clean).2 _ rfl)
    have stays := reaches_next (Reader.inspect ⟨[⟨Text.replacement, t⟩], 0, 0, [], []⟩)
    dsimp only at clean
    split at clean
    · exact absurd (stays.clean clean) bad
    · exact absurd clean bad
  · next narrow =>
    have inspected : (Reader.inspect ⟨glyphs t, 0, 0, [], []⟩).faults = [] := by
      dsimp only at clean
      split at clean
      · exact (reaches_next _).clean clean
      · exact clean
    obtain ⟨same, fine⟩ := Reader.inspect_clean inspected
    refine ⟨Bool.eq_false_iff.2 narrow, fine, ?_⟩
    rw [if_neg narrow]
    dsimp only
    rw [same]

/-- Nothing is wrong anywhere with a glyph that nothing is wrong with at one place, unless it is a byte order mark. -/
theorem glyphFault?_anywhere {g : Glyph} {o : Nat} (fine : Reader.glyphFault? o g = none)
    (unmarked : g.char ≠ Text.byteOrderMark) : ∀ o, Reader.glyphFault? o g = none := by
  intro o'
  have same : Reader.glyphFault? o' g = Reader.glyphFault? o g := by simp [Reader.glyphFault?, unmarked]
  rw [same, fine]

theorem unmarked_of_fine {g : Glyph} (fine : ∀ o, Reader.glyphFault? o g = none) : g.char ≠ Text.byteOrderMark := by
  intro mark
  have fault := fine 1
  have plain : Text.byteOrderMark ≠ '\x00' ∧ Text.byteOrderMark ≠ Text.replacement := by decide
  simp [Reader.glyphFault?, Glyph.isInvalid, mark, plain] at fault

theorem start_eq {t : Text} (clean : (Reader.start t).faults = []) (first : (Reader.start t).offset = 0) :
    Reader.start t = ⟨glyphs t, 0, 0, [], []⟩ ∧ ∀ g ∈ (glyphs t).head?, ∀ o, Reader.glyphFault? o g = none := by
  obtain ⟨-, fine, start⟩ := fine_start clean
  split at start
  · next mark =>
    have later := offset_lt_next (ne_nil_of_at' mark) fun g hg => width_pos_of_mem hg
    rw [start] at first
    omega
  · next plain =>
    refine ⟨start, fun g hg => glyphFault?_anywhere (fine g hg) fun mark => plain (beq_iff_eq.2 ?_)⟩
    rw [Reader.peek, Option.mem_def.1 hg, ← mark]
    rfl

theorem reaches_start (t : Text) :
    Reaches ⟨if Reader.isWideText t then [⟨Text.replacement, t⟩] else glyphs t, 0, 0, [], []⟩ (Reader.start t) := by
  unfold Reader.start
  generalize (if Reader.isWideText t then [⟨Text.replacement, t⟩] else glyphs t : List Glyph) = gs
  dsimp only
  split
  · exact (Reader.reaches_inspect _).trans (reaches_next _)
  · exact Reader.reaches_inspect _

theorem solid_start (t : Text) : ∀ g ∈ (Reader.start t).rest, 0 < g.width := by
  refine (reaches_start t).subset (P := fun g => 0 < g.width) fun g hg => ?_
  dsimp only at hg
  split at hg
  · next wide =>
    rw [List.mem_singleton.1 hg]
    exact List.length_pos_iff.2 (by rintro rfl; cases wide)
  · exact width_pos_of_mem hg

/-! ## The first lexeme -/

/-- The characters that may be passed over between lexemes. -/
def isBlank (c : Char) : Bool := c == ' ' || c == '\t' || c == '\r' || c == '\n'

/-- Where no blank stands, the next lexeme starts. -/
theorem begin_eq {s : LexState} {g : Glyph} {gs : List Glyph} (rest : s.reader.rest = g :: gs)
    (solid : isBlank g.char = false) : s.begin = s.reader := by
  simp only [isBlank, Bool.or_eq_false_iff] at solid
  unfold LexState.begin Reader.skipWhile
  rw [rest, List.takeWhile_cons]
  simp [LexState.skips, solid, Reader.advance]

/-- Where a blank stands, the next lexeme starts behind it. -/
theorem begin_eq_next {s : LexState} {g : Glyph} {gs : List Glyph} (rest : s.reader.rest = g :: gs)
    (blank : s.skips g.char = true) : s.begin = (LexState.mk s.reader.next s.breakEnds s.pending).begin := by
  unfold LexState.begin Reader.skipWhile
  rw [rest, List.takeWhile_cons, if_pos blank, List.length_cons, Reader.advance, Reader.rest_next, rest]
  rfl

theorem offset_lt_begin {s : LexState} {g : Glyph} {gs : List Glyph} (rest : s.reader.rest = g :: gs)
    (blank : s.skips g.char = true) (solid : ∀ g ∈ s.reader.rest, 0 < g.width) : s.reader.offset < s.begin.offset := by
  have reaches : Reaches s.reader.next s.begin := by
    rw [begin_eq_next rest blank]
    exact Reader.reaches_skipWhile _ _
  exact Nat.lt_of_lt_of_le (offset_lt_next (by simp [rest]) solid) reaches.offset_le

/-- Where a glyph is left behind blanks, reading goes on behind it. -/
theorem offset_lt_readLexeme (file : Text) (size : Nat) {s : LexState} (pending : s.pending = none)
    (more : s.begin.rest ≠ []) (solid : ∀ g ∈ s.reader.rest, 0 < g.width) :
    s.begin.offset < (readLexeme file size s).2.reader.offset := by
  obtain ⟨c, -, -, on⟩ := readLexeme_found file size pending more
  obtain ⟨r, reaches, -, reader⟩ := on.path
  have blank : Reaches s.reader s.begin := Reader.reaches_skipWhile _ s.reader
  rw [reader]
  exact Nat.lt_of_lt_of_le (offset_lt_next more (blank.subset solid)) reaches.offset_le

/-- Tokens that are neither the end nor a comment, and can be read. -/
def Token.isProper (t : Token) : Bool := t != .eof && t != .comment && t != .illegal

theorem isProper_ofWord (w : Text) : (Token.ofWord w).isProper = true := by
  unfold Token.ofWord
  cases found : Token.keywords.lookup w with
  | none => rfl
  | some t =>
    have words : ∀ p ∈ Token.keywords, p.2.isProper = true := by decide
    rw [List.lookup_eq_some_iff] at found
    obtain ⟨before, after, split, -⟩ := found
    exact words (w, t) (by simp [split])

theorem token_readNumber (start : Reader) :
    (readNumber start).1.isProper = true ∧ (readNumber start).1.endsStatement = true := by
  rw [readNumber_eq]
  dsimp only
  unfold numberEnd
  split
  · exact ⟨rfl, rfl⟩
  · dsimp only
    split <;> exact ⟨rfl, rfl⟩

/-- At a place there is a proper token, which does not depend on what a line break before it means and tells what one
behind it means, or a comment, or a character that cannot be read. -/
theorem lexemeAt_cases (file : Text) (size : Nat) (start : Reader) (c : Char) :
    (∃ token lit r, token.isProper = true ∧ ∀ b, lexemeAt file size start b c = emit start token lit r token.endsStatement) ∨
      (∀ b, lexemeAt file size start b c = emitComment file size start b) ∨
        ∀ b, lexemeAt file size start b c = emitIllegal start c b := by
  unfold lexemeAt
  split
  · exact .inl ⟨_, _, _, isProper_ofWord _, fun _ => rfl⟩
  · split
    · obtain ⟨proper, ends⟩ := token_readNumber start
      exact .inl ⟨_, _, _, proper, fun _ => by rw [ends]⟩
    · split
      · exact .inl ⟨.semicolon, _, _, rfl, fun _ => rfl⟩
      · exact .inl ⟨.string, _, _, rfl, fun _ => rfl⟩
      · exact .inl ⟨.char, _, _, rfl, fun _ => rfl⟩
      · exact .inl ⟨.string, _, _, rfl, fun _ => rfl⟩
      · split
        · exact .inr (.inl fun _ => rfl)
        · split
          · next cs token operator =>
            have proper : ∀ p ∈ operators, p.2.isProper = true := by decide
            exact .inl ⟨_, _, _, proper _ (operatorAt?_eq_some operator).1, fun _ => rfl⟩
          · exact .inr (.inr fun _ => rfl)

/-- What a line break before a token would mean does not change the token. -/
theorem lexemeAt_breakEnds {file : Text} {size : Nat} {start : Reader} {b : Bool} {c : Char}
    (significant : isSignificant (lexemeAt file size start b c).1 = true)
    (clean : (lexemeAt file size start b c).1.faults = []) (unmarked : c ≠ Text.byteOrderMark) (b' : Bool) :
    lexemeAt file size start b' c = lexemeAt file size start b c := by
  rcases lexemeAt_cases file size start c with ⟨token, lit, r, -, eq⟩ | comment | illegal
  · rw [eq, eq]
  · rw [comment] at significant
    cases significant
  · -- the one such character that is no fault is a byte order mark
    rw [illegal] at clean
    exact absurd (emitIllegal_clean clean).1 unmarked

theorem pending_lexemeAt {file : Text} {size : Nat} {start : Reader} {b : Bool} {c : Char}
    (notComment : (lexemeAt file size start b c).1.token ≠ .comment) :
    (lexemeAt file size start b c).2.pending = none := by
  rcases lexemeAt_cases file size start c with ⟨token, lit, r, -, eq⟩ | comment | illegal
  · rw [eq]
    rfl
  · rw [comment] at notComment
    exact absurd rfl notComment
  · rw [illegal]
    rfl

/-- Behind a token, a line break is a semicolon if the token can end a statement. -/
theorem breakEnds_lexemeAt {file : Text} {size : Nat} {start : Reader} {b : Bool} {c : Char}
    (significant : isSignificant (lexemeAt file size start b c).1 = true)
    (clean : (lexemeAt file size start b c).1.faults = []) (unmarked : c ≠ Text.byteOrderMark) :
    (lexemeAt file size start b c).2.breakEnds = (lexemeAt file size start b c).1.token.endsStatement := by
  rcases lexemeAt_cases file size start c with ⟨token, lit, r, -, eq⟩ | comment | illegal
  · rw [eq]
    rfl
  · rw [comment] at significant
    cases significant
  · rw [illegal] at clean
    exact absurd (emitIllegal_clean clean).1 unmarked

/-! ## Texts of whole tokens -/

/-- The tokens of a text, without comments and line breaks. -/
def tokensOf (t : Text) : List Lexeme := (lex [] t).1.filter isSignificant

/-- At the end of a text nothing but blanks is left, and the faults there are those of the end. -/
theorem ended_of_eof {file : Text} {size : Nat} {s : LexState} (eof : (readLexeme file size s).1.token = .eof) :
    s.begin.rest = [] ∧ ((readLexeme file size s).1.faults = [] → s.begin.faults = []) := by
  have pending : s.pending = none := by
    cases due : s.pending with
    | none => rfl
    | some o =>
      rw [readLexeme_pending due] at eof
      cases eof
  have ended : s.begin.rest = [] := by
    refine Classical.byContradiction fun more => ?_
    obtain ⟨c, -, -, on⟩ := readLexeme_found file size pending more
    exact on.more eof
  refine ⟨ended, fun clean => ?_⟩
  rw [readLexeme_end pending ended] at clean
  split at clean <;> simpa [emit] using clean

/-- A text without faults is read up to its end, and its tokens are among the lexemes read. -/
theorem tokensOf_spec {t : Text} (clean : ∀ l ∈ (lex [] t).1, l.faults = []) :
    ∃ ls s, Lexes [] t.length (LexState.ofText t) ls s ∧ tokensOf t = ls.filter isSignificant ∧
      (∀ l ∈ ls, l.faults = []) ∧ (Reader.start t).faults = [] ∧ s.begin.rest = [] ∧ s.begin.faults = [] := by
  obtain ⟨ls, s, read, eof, all⟩ := lexFrom_spec [] t.length (left_ofText t)
  rw [← lex_eq] at all
  rw [all] at clean
  obtain ⟨ended, stop⟩ := ended_of_eof eof
  have fresh : (LexState.ofText t).reader.faults = [] := by
    have first : (readLexeme [] t.length (LexState.ofText t)).1 ∈ ls ++ [(readLexeme [] t.length s).1] := by
      cases read <;> simp
    exact faults_of_readLexeme rfl (clean _ first)
  obtain ⟨clean, clean_last⟩ := List.forall_mem_append.1 clean
  refine ⟨ls, s, read, ?_, clean, fresh, ended, stop (clean_last _ (List.mem_singleton_self _))⟩
  rw [tokensOf, all, List.filter_append]
  simp [isSignificant, eof]

/-- Members of a list that stand side by side among those with a property: they are the ones of a part of the list that
starts and ends with them. -/
theorem exists_part {α : Type} {p : α → Bool} {l before rest after : List α} {first : α}
    (split : l.filter p = before ++ (first :: rest) ++ after) :
    ∃ l₀ part last l₁, l = l₀ ++ (part ++ [last]) ++ l₁ ∧ (part ++ [last]).head? = some first ∧ p last = true ∧
      (part ++ [last]).filter p = first :: rest ∧ l₀.filter p = before ∧ l₁.filter p = after := by
  obtain ⟨l', l₁, rfl, split', split_after⟩ := List.filter_eq_append_iff.1 split
  obtain ⟨l₀, l'', rfl, split_before, split''⟩ := List.filter_eq_append_iff.1 split'
  obtain ⟨skipped, tail, rfl, skipped_none, holds, tail_eq⟩ := List.filter_eq_cons_iff.1 split''
  have kept : (first :: tail).filter p = first :: rest := by rw [List.filter_cons_of_pos holds, tail_eq]
  obtain ⟨init, last, ends⟩ := (List.eq_nil_or_concat (first :: rest)).resolve_left (List.cons_ne_nil _ _)
  rw [List.concat_eq_append] at ends
  obtain ⟨part, end_part, parts, -, end_eq⟩ := List.filter_eq_append_iff.1 (kept.trans ends)
  obtain ⟨between, beyond, rfl, -, holds_last, none⟩ := List.filter_eq_cons_iff.1 end_eq
  have shape : first :: tail = (part ++ between ++ [last]) ++ beyond := by simp [parts]
  refine ⟨l₀ ++ skipped, part ++ between, last, beyond ++ l₁, by simp [shape], ?_, holds_last, ?_, ?_, ?_⟩
  · have head := congrArg List.head? shape
    rw [List.head?_append] at head
    cases found : (part ++ between ++ [last]).head? with
    | none => simp at found
    | some a =>
      rw [found] at head
      exact head.symm
  · rw [shape, List.filter_append, none, List.append_nil] at kept
    exact kept
  · rw [List.filter_append, split_before, List.filter_eq_nil_iff.2 skipped_none, List.append_nil]
  · rw [List.filter_append, none, split_after, List.nil_append]

theorem Lexes.head?_eq {file : Text} {size : Nat} {s s' : LexState} {ls : List Lexeme} (h : Lexes file size s ls s')
    {l : Lexeme} (head : ls.head? = some l) : (readLexeme file size s).1 = l := by
  cases h with
  | nil => cases head
  | cons => exact Option.some.inj head

/-- The text is read without faults, it starts with its first token, and it ends with its last one. -/
structure WholeTokens (t : Text) : Prop where
  clean : ∀ l ∈ (lex [] t).1, l.faults = []
  first : (tokensOf t).head?.map (·.offset) = some 0
  last : (tokensOf t).getLast?.map (fun l => l.offset + tokenLength l) = some t.length

instance (t : Text) : Decidable (WholeTokens t) :=
  decidable_of_iff ((∀ l ∈ (lex [] t).1, l.faults = []) ∧ (tokensOf t).head?.map (·.offset) = some 0 ∧
      (tokensOf t).getLast?.map (fun l => l.offset + tokenLength l) = some t.length)
    ⟨fun ⟨clean, first, last⟩ => ⟨clean, first, last⟩, fun ⟨clean, first, last⟩ => ⟨clean, first, last⟩⟩

namespace WholeTokens

variable {t : Text}

theorem exists_lexes (h : WholeTokens t) :
    ∃ ls s, Lexes [] t.length (LexState.ofText t) ls s ∧ isSignificant (readLexeme [] t.length s).1 = true ∧
      (ls ++ [(readLexeme [] t.length s).1]).filter isSignificant = tokensOf t ∧
      ∀ l ∈ ls ++ [(readLexeme [] t.length s).1], l.faults = [] := by
  obtain ⟨all, stop, read, tokens, clean, -⟩ := tokensOf_spec h.clean
  obtain ⟨first, rest, split⟩ : ∃ first rest, tokensOf t = first :: rest := by
    refine List.exists_cons_of_ne_nil fun none => ?_
    have first := h.first
    simp [none] at first
  have parted : all.filter isSignificant = [] ++ (first :: rest) ++ [] := by
    rw [← tokens, split, List.nil_append, List.append_nil]
  obtain ⟨before, part, last, after, rfl, -, significant, filtered, none, -⟩ := exists_part parted
  rw [← List.append_assoc] at read clean
  obtain ⟨_, upto, -⟩ := read.of_append
  obtain ⟨s, before_last, last_one⟩ := upto.of_append
  obtain rfl := last_one.head?_eq rfl
  refine ⟨before ++ part, s, before_last, significant, ?_, (List.forall_mem_append.1 clean).1⟩
  rw [List.append_assoc, List.filter_append, none, filtered, List.nil_append, split]

theorem first_lexeme (h : WholeTokens t) :
    (LexState.ofText t).begin.offset = 0 ∧ (Reader.start t).faults = [] ∧
      isSignificant (readLexeme [] t.length (LexState.ofText t)).1 = true ∧
      (readLexeme [] t.length (LexState.ofText t)).1.faults = [] ∧ (LexState.ofText t).begin.rest ≠ [] := by
  obtain ⟨ls, s, before, significant, tokens, clean⟩ := h.exists_lexes
  have more : (readLexeme [] t.length s).1.token ≠ .eof := by
    intro eof
    simp [isSignificant, eof] at significant
  have read := before.append (.cons more (.nil _))
  have some_more := read.rest_ne_nil (by simp) (by simpa using significant)
  generalize (readLexeme [] t.length s).2 = s', (readLexeme [] t.length s).1 = l at read tokens clean significant
  have first := h.first
  rw [← tokens, Option.map_eq_some_iff] at first
  obtain ⟨f, found, zero⟩ := first
  obtain ⟨mem, f_significant⟩ := List.mem_filter.1 (List.mem_of_mem_head? found)
  generalize all_eq : ls ++ [l] = all at read clean mem
  cases read with
  | nil => simp at mem
  | @cons _ _ tail _ rest =>
    obtain ⟨c, peek, -, on⟩ := readLexeme_found [] t.length (s := LexState.ofText t) rfl some_more
    have blank : Reaches (Reader.start t) (LexState.ofText t).begin := Reader.reaches_skipWhile _ (Reader.start t)
    have clean_first := clean _ (List.mem_cons_self ..)
    have fresh := blank.clean (on.clean clean_first)
    -- whatever comes later lies behind the first glyph that is no blank
    have behind := offset_lt_readLexeme [] t.length rfl some_more (solid_start t)
    have later := rest.offset_le (reaches_readLexeme _ _ fresh clean_first).2 fun l hl => clean l (List.mem_cons_of_mem _ hl)
    rcases List.mem_cons.1 mem with rfl | mem
    · have origin : (LexState.ofText t).begin.offset = 0 := on.offset.symm.trans zero
      exact ⟨origin, fresh, f_significant, clean_first, some_more⟩
    · have := later f mem (.inl f_significant)
      omega

/-- The text starts with a glyph that is neither a blank nor a fault. -/
theorem start (h : WholeTokens t) :
    Reader.start t = ⟨glyphs t, 0, 0, [], []⟩ ∧
      ∃ g gs, glyphs t = g :: gs ∧ isBlank g.char = false ∧ ∀ o, Reader.glyphFault? o g = none := by
  obtain ⟨origin, fresh, -, -, more⟩ := h.first_lexeme
  have blank : Reaches (Reader.start t) (LexState.ofText t).begin := Reader.reaches_skipWhile _ (Reader.start t)
  obtain ⟨start, fine⟩ := start_eq fresh (Nat.le_zero.1 (origin ▸ blank.offset_le))
  have some_glyph : glyphs t ≠ [] := by
    intro none
    exact more (begin_of_rest (by rw [LexState.ofText, start, none]))
  obtain ⟨g, gs, glyphs_eq⟩ := List.exists_cons_of_ne_nil some_glyph
  have rest : (LexState.ofText t).reader.rest = g :: gs := by rw [LexState.ofText, start, ← glyphs_eq]
  refine ⟨start, g, gs, glyphs_eq, ?_, fine g (by rw [glyphs_eq]; rfl)⟩
  rw [← Bool.not_eq_true]
  intro blank
  have behind := offset_lt_begin rest (by simpa [LexState.skips, isBlank, LexState.ofText] using blank) (solid_start t)
  omega

theorem stop (h : WholeTokens t) {ls : List Lexeme} {s : LexState}
    (read : Lexes [] t.length (LexState.ofText t) ls s)
    (significant : isSignificant (readLexeme [] t.length s).1 = true)
    (tokens : (ls ++ [(readLexeme [] t.length s).1]).filter isSignificant = tokensOf t)
    (clean : ∀ l ∈ ls ++ [(readLexeme [] t.length s).1], l.faults = []) :
    (readLexeme [] t.length s).2.reader.rest = [] ∧ (readLexeme [] t.length s).2.pending = none := by
  obtain ⟨start, -⟩ := h.start
  obtain ⟨clean, clean_last⟩ := List.forall_mem_append.1 clean
  have clean_last := clean_last _ (List.mem_singleton_self _)
  have fresh : (LexState.ofText t).reader.faults = [] := by rw [LexState.ofText, start]
  obtain ⟨reaches, fresh'⟩ := read.reaches fresh clean
  obtain ⟨reaches', -⟩ := reaches_readLexeme [] t.length fresh' clean_last
  have glyphs_rest : (LexState.ofText t).reader.rest = glyphs t := by rw [LexState.ofText, start]
  have inside : ∀ g ∈ s.reader.rest, g ∈ glyphs t := reaches.subset fun g hg => glyphs_rest ▸ hg
  -- the last token ends at the end of the text
  have last := h.last
  rw [← tokens, List.filter_append, List.filter_cons_of_pos significant] at last
  simp only [List.filter_nil, List.getLast?_append, List.getLast?_singleton, Option.some_or, Option.map_some,
    Option.some.injEq] at last
  have ends := end_le_of_significant (fun g hg => spelled_of_mem (inside g hg)) (fun g hg => width_pos_of_mem (inside g hg))
    significant clean_last
  have total := (reaches.trans reaches').offset_add
  rw [glyphs_rest, width_glyphs, show (LexState.ofText t).reader.offset = 0 by rw [LexState.ofText, start]] at total
  have solid : ∀ g ∈ (readLexeme [] t.length s).2.reader.rest, 0 < g.width :=
    (reaches.trans reaches').subset fun g hg => width_pos_of_mem (glyphs_rest ▸ hg)
  constructor
  · cases rest : (readLexeme [] t.length s).2.reader.rest with
    | nil => rfl
    | cons g gs =>
      have wide := solid g (by simp [rest])
      rw [rest, width_cons] at total
      omega
  · obtain ⟨pending, more⟩ := found_of_significant significant
    obtain ⟨c, -, eq, -⟩ := readLexeme_found [] t.length pending more
    have notComment := notComment_of_significant significant
    rw [eq] at notComment ⊢
    exact pending_lexemeAt notComment

end WholeTokens

/-! ## Texts within a text -/

@[simp]
theorem Lexeme.shift_shift (j k : Nat) (l : Lexeme) : (l.shift j).shift k = l.shift (j + k) := by
  simp [Lexeme.shift, Nat.add_assoc]

@[simp]
theorem isSignificant_shift (k : Nat) (l : Lexeme) : isSignificant (l.shift k) = isSignificant l := rfl

theorem filter_map_shift (k : Nat) (ls : List Lexeme) :
    (ls.map (·.shift k)).filter isSignificant = (ls.filter isSignificant).map (·.shift k) := by
  rw [List.filter_map]
  rfl

/-- The state stands at an offset of a text, before the rest `t` of it. -/
structure LexState.Stands (k : Nat) (t : Text) (s : LexState) : Prop where
  rest : s.reader.rest = glyphs t
  offset : s.reader.offset = k
  line : s.reader.lineStart ≤ k
  clean : s.reader.faults = []
  pending : s.pending = none

/-- Wherever the text stands before a delimiter, it is read without faults, and its tokens are the given ones. -/
structure Reads (p : Text) (ts : List Lexeme) : Prop where
  head : ∃ g gs, glyphs p = g :: gs ∧ ∀ o, Reader.glyphFault? o g = none
  some_token : ts ≠ []
  lexes : ∀ (file : Text) (size : Nat) {post : Text} {k : Nat} {s : LexState}, Ended post → s.Stands k (p ++ post) →
    ∃ ls s', Lexes file size s ls s' ∧ ls.filter isSignificant = ts.map (·.shift k) ∧ (∀ l ∈ ls, l.faults = []) ∧
      s'.Stands (k + p.length) post

/-- The first lexeme read decides from which state the others are. -/
theorem Lexes.of_readLexeme_eq {file : Text} {size : Nat} {s t s' : LexState} {ls : List Lexeme}
    (h : Lexes file size s ls s') (some_lexeme : ls ≠ []) (same : readLexeme file size t = readLexeme file size s) :
    Lexes file size t ls s' := by
  cases h with
  | nil => exact absurd rfl some_lexeme
  | cons more rest =>
    rw [← same] at more rest ⊢
    exact .cons more rest

theorem Lexes.comment_behind {file : Text} {size : Nat} {s s' : LexState} {ls : List Lexeme}
    (read : Lexes file size s ls s') (fresh : s.reader.faults = []) (clean : ∀ l ∈ ls, l.faults = [])
    (solid : ∀ g ∈ s.reader.rest, 0 < g.width) (first : isSignificant (readLexeme file size s).1 = true) :
    ∀ l ∈ ls, l.token = .comment → s.reader.offset < l.offset := by
  obtain ⟨pending, more⟩ := found_of_significant first
  have blank : Reaches s.reader s.begin := Reader.reaches_skipWhile _ s.reader
  cases read with
  | nil => simp
  | cons _ rest =>
    obtain ⟨clean_first, clean_rest⟩ := List.forall_mem_cons.1 clean
    have behind := Nat.lt_of_le_of_lt blank.offset_le (offset_lt_readLexeme file size pending more solid)
    have later := rest.offset_le (reaches_readLexeme _ _ fresh clean_first).2 clean_rest
    refine List.forall_mem_cons.2 ⟨fun comment => absurd comment (notComment_of_significant first), fun l hl comment => ?_⟩
    exact Nat.lt_of_lt_of_le behind (later l hl (.inr comment))

/-- The first token is read the same way whatever a line break before it would mean. -/
theorem WholeTokens.readLexeme_breakEnds {p : Text} (h : WholeTokens p) {file : Text} {size k : Nat} {post : List Glyph}
    {s : LexState} (closed : Closed post)
    (place : LexState.Within k post (LexState.ofText p) ⟨s.reader, false, s.pending⟩) :
    readLexeme file size s = readLexeme file size ⟨s.reader, false, s.pending⟩ := by
  obtain ⟨start, g, gs, glyphs_eq, unblank, fine⟩ := h.start
  obtain ⟨-, -, significant, clean, more⟩ := h.first_lexeme
  obtain ⟨first, -⟩ := within_readLexeme file size place (fun _ => more)
    (fun comment _ => absurd comment (notComment_of_significant significant)) (.inl ⟨closed, clean⟩)
  have pending : s.pending = none := place.pending
  have rest : s.reader.rest = g :: (gs ++ post) := place.reader.exists_cons (by rw [LexState.ofText, start, ← glyphs_eq])
  have found : s.begin.peek = some g.char := by
    rw [begin_eq rest unblank, Reader.peek, rest]
    rfl
  have same : (LexState.mk s.reader false s.pending).begin = s.begin := by
    rw [begin_eq rest unblank, begin_eq (s := ⟨s.reader, false, s.pending⟩) rest unblank]
  have read : readLexeme file size s = lexemeAt file size s.begin s.breakEnds g.char := readLexeme_eq pending found
  have read' : readLexeme file size ⟨s.reader, false, s.pending⟩ = lexemeAt file size s.begin false g.char := by
    rw [← same]
    exact readLexeme_eq (s := ⟨s.reader, false, s.pending⟩) pending (by rw [same, found])
  rw [read'] at first
  rw [read, read']
  refine lexemeAt_breakEnds ?_ ?_ (unmarked_of_fine fine) _
  · rwa [first]
  · rwa [first]

/-- Where a text that starts with a fine glyph is read without faults, there is no byte order mark. -/
theorem unmarked_of_reaches {p : Text} {g : Glyph} {gs : List Glyph} (glyphs_eq : glyphs p = g :: gs)
    (fine : ∀ o, Reader.glyphFault? o g = none) {r : Reader} (reaches : Reaches ⟨glyphs p, 0, 0, [], []⟩ r)
    (clean : r.faults = []) {c : Char} (found : r.peek = some c) : c ≠ Text.byteOrderMark := by
  obtain ⟨passed, path, offset⟩ := reaches.path
  have start_fine : Reader.Fine ⟨glyphs p, 0, 0, [], []⟩ := fun g' hg' => by
    rw [glyphs_eq] at hg'
    exact Option.some.inj hg' ▸ fine 0
  have here := reaches.fine clean start_fine
  obtain ⟨g', head, same⟩ := Option.map_eq_some_iff.1 found
  rcases passed with _ | ⟨first, passed⟩
  · -- this is the first glyph
    rw [List.nil_append, glyphs_eq] at path
    rw [← path] at head
    exact same ▸ Option.some.inj head ▸ unmarked_of_fine fine
  · rintro rfl
    have wide : 0 < first.width := by
      refine width_pos_of_mem (t := p) ?_
      dsimp only at path
      simp [path]
    have fault := here g' head
    rw [width_cons] at offset
    have behind : 0 < r.offset := by omega
    have plain : Text.byteOrderMark ≠ '\x00' ∧ Text.byteOrderMark ≠ Text.replacement := by decide
    simp [Reader.glyphFault?, Glyph.isInvalid, same, plain, behind] at fault

/-- On its own, a text is read as these lexemes up to its end, and elsewhere as well. -/
structure Part (p : Text) (part : List Lexeme) : Prop where
  first : ∃ l ls, part = l :: ls ∧ isSignificant l = true
  last : ∀ l ∈ part.getLast?, isSignificant l = true
  tokens : part.filter isSignificant = tokensOf p
  clean : ∀ l ∈ part, l.faults = []
  alone : ∃ s, Lexes [] p.length (LexState.ofText p) part s ∧ s.Stands p.length [] ∧
    s.breakEnds = part.getLast?.any (·.token.endsStatement)
  within : ∀ (file : Text) (size : Nat) {post : Text} {k : Nat} {s : LexState}, Ended post → s.Stands k (p ++ post) →
    ∃ s', Lexes file size s (part.map (·.shift k)) s' ∧ s'.Stands (k + p.length) post ∧
      s'.breakEnds = part.getLast?.any (·.token.endsStatement)

/-- **A text of whole tokens is read the same way on its own and elsewhere.** -/
theorem WholeTokens.exists_part {p : Text} (h : WholeTokens p) : ∃ part, Part p part := by
  obtain ⟨start, g, gs, glyphs_eq, unblank, fine⟩ := h.start
  obtain ⟨ls, stop, before, significant, tokens, clean⟩ := h.exists_lexes
  have more : (readLexeme [] p.length stop).1.token ≠ .eof := by
    intro eof
    simp [isSignificant, eof] at significant
  obtain ⟨at_end, settled⟩ := h.stop before significant tokens clean
  have read := before.append (.cons more (.nil _))
  have reader : (LexState.ofText p).reader = ⟨glyphs p, 0, 0, [], []⟩ := start
  -- the last token tells what a line break behind the text means
  have breakEnds : (readLexeme [] p.length stop).2.breakEnds =
      (ls ++ [(readLexeme [] p.length stop).1]).getLast?.any (·.token.endsStatement) := by
    rw [List.getLast?_concat, Option.any_some]
    obtain ⟨pending, some_more⟩ := found_of_significant significant
    obtain ⟨c, found, lexeme, on⟩ := readLexeme_found [] p.length pending some_more
    obtain ⟨clean_before, clean_last⟩ := List.forall_mem_append.1 clean
    have clean_last := clean_last _ (List.mem_singleton_self _)
    obtain ⟨reaches, -⟩ := before.reaches (by rw [reader]) clean_before
    have blank : Reaches stop.reader stop.begin := Reader.reaches_skipWhile _ stop.reader
    have unmarked := unmarked_of_reaches glyphs_eq fine (reader ▸ reaches.trans blank) (on.clean clean_last) found
    rw [lexeme] at significant clean_last ⊢
    exact breakEnds_lexemeAt significant clean_last unmarked
  obtain ⟨reaches, fresh⟩ := read.reaches (by rw [reader]) clean
  have lines := reaches.line (Nat.le_of_eq (by rw [reader]))
  have offset : (readLexeme [] p.length stop).2.reader.offset = p.length := by
    have total := reaches.offset_add
    rwa [at_end, reader, width_glyphs, Nat.zero_add] at total
  have last : ∀ l ∈ (ls ++ [(readLexeme [] p.length stop).1]).getLast?, isSignificant l = true := by
    simpa using significant
  obtain ⟨-, fresh', first, -⟩ := h.first_lexeme
  refine ⟨_, ?_, last, tokens, clean, ⟨_, read, ⟨?_, offset, ?_, fresh, settled⟩, breakEnds⟩,
    fun file size {post k s} ended stands => ?_⟩
  · obtain ⟨l, ls', split⟩ := List.exists_cons_of_ne_nil (List.concat_ne_nil (readLexeme [] p.length stop).1 ls)
    refine ⟨l, ls', split, ?_⟩
    rw [← read.head?_eq (l := l) (by simp [split])]
    exact first
  · exact at_end
  · omega
  -- the same place in the longer text
  have glyphs_post : glyphs (p ++ post) = glyphs p ++ glyphs post := ended.glyphs_append p
  have place : LexState.Within k (glyphs post) (LexState.ofText p) ⟨s.reader, false, s.pending⟩ := by
    refine ⟨⟨?_, ?_, .inr ⟨?_, stands.line⟩, ?_, stands.clean, ?_⟩, rfl, stands.pending⟩
    · rw [stands.rest, glyphs_post, reader]
    · rw [stands.offset, reader, Nat.zero_add]
    · rw [reader]
    · rw [reader]
    · exact solid_start p
  have comments := read.comment_behind fresh' clean (solid_start p) first
  rw [reader] at comments
  obtain ⟨t, lexes, place'⟩ := read.within file size ended.closed place clean comments last
  refine ⟨t, lexes.of_readLexeme_eq (by simp) (h.readLexeme_breakEnds ended.closed place), ?_, place'.breakEnds.trans breakEnds⟩
  -- the piece ends here, so that the rest of the text is what follows it
  have offset' := place'.reader.offset
  refine ⟨by rw [place'.reader.rest, at_end, List.nil_append], by omega, ?_, place'.reader.clean, ?_⟩
  · rcases place'.reader.line with line | ⟨-, line⟩ <;> omega
  · rw [place'.pending, settled]
    rfl

/-- **A text of whole tokens reads as its tokens wherever it stands.** -/
theorem WholeTokens.reads {p : Text} (h : WholeTokens p) : Reads p (tokensOf p) := by
  obtain ⟨part, whole⟩ := h.exists_part
  obtain ⟨-, g, gs, glyphs_eq, -, fine⟩ := h.start
  refine ⟨⟨g, gs, glyphs_eq, fine⟩, ?_, fun file size {post k s} ended stands => ?_⟩
  · intro none
    have first := h.first
    simp [none] at first
  · obtain ⟨t, lexes, stands', -⟩ := whole.within file size ended stands
    refine ⟨_, t, lexes, by rw [filter_map_shift, whole.tokens], fun l hl => ?_, stands'⟩
    obtain ⟨l', hl', rfl⟩ := List.mem_map.1 hl
    exact whole.clean l' hl'

theorem start_of_fine {t : Text} {g : Glyph} {gs : List Glyph} (narrow : Reader.isWideText t = false)
    (glyphs_eq : glyphs t = g :: gs) (fine : ∀ o, Reader.glyphFault? o g = none) :
    Reader.start t = ⟨glyphs t, 0, 0, [], []⟩ := by
  have unmarked := unmarked_of_fine fine
  unfold Reader.start
  simp [narrow, Reader.inspect, glyphs_eq, fine, Reader.at', Reader.peek, unmarked]

theorem readLexeme_stopped (file : Text) (size : Nat) {s : LexState} (ended : s.reader.rest = [])
    (fresh : s.reader.faults = []) :
    (readLexeme file size s).1.faults = [] ∧ (readLexeme file size s).2.reader.rest = [] ∧
      (readLexeme file size s).2.reader.faults = [] := by
  cases pending : s.pending with
  | some o =>
    rw [readLexeme_pending pending]
    exact ⟨rfl, ended, fresh⟩
  | none =>
    have begin : s.begin = s.reader := by
      unfold LexState.begin Reader.skipWhile
      rw [ended]
      rfl
    rw [readLexeme_end pending (begin_of_rest ended), begin]
    split <;> exact ⟨by simp [emit, fresh], ended, rfl⟩

theorem Lexes.stopped {file : Text} {size : Nat} {s s' : LexState} {ls : List Lexeme} (h : Lexes file size s ls s')
    (ended : s.reader.rest = []) (fresh : s.reader.faults = []) :
    (∀ l ∈ ls, l.faults = []) ∧ s'.reader.rest = [] ∧ s'.reader.faults = [] := by
  induction h with
  | nil => exact ⟨by simp, ended, fresh⟩
  | cons _ _ ih =>
    obtain ⟨first, ended', fresh'⟩ := readLexeme_stopped file size ended fresh
    obtain ⟨rest, stop⟩ := ih ended' fresh'
    exact ⟨List.forall_mem_cons.2 ⟨first, rest⟩, stop⟩

theorem lex_of_stopped {file p : Text} {s : LexState} {ls : List Lexeme}
    (read : Lexes file p.length (LexState.ofText p) ls s) (clean : ∀ l ∈ ls, l.faults = [])
    (ended : s.reader.rest = []) (fresh : s.reader.faults = []) :
    (lex file p).1.filter isSignificant = ls.filter isSignificant ∧ ∀ l ∈ (lex file p).1, l.faults = [] := by
  obtain ⟨fuel, enough, all⟩ := lexFrom_of_lexes (left_ofText p) read
  obtain ⟨ls', s', rest, eof, all'⟩ := lexFrom_spec file p.length enough
  obtain ⟨clean', ended', fresh'⟩ := rest.stopped ended fresh
  rw [lex_eq, all, all']
  constructor
  · have none : ls'.filter isSignificant = [] :=
      List.filter_eq_nil_iff.2 fun l hl => by simp [rest.not_significant (begin_of_rest ended) l hl]
    rw [List.filter_append, List.filter_append, none]
    simp [isSignificant, eof]
  · simp only [List.mem_append, List.mem_singleton]
    rintro l (hl | hl | rfl)
    · exact clean l hl
    · exact clean' l hl
    · exact (readLexeme_stopped _ _ ended' fresh').1

namespace Reads

variable {p q : Text} {ts us : List Lexeme}

theorem ne_nil (h : Reads p ts) : p ≠ [] := by
  obtain ⟨g, gs, glyphs_eq, -⟩ := h.head
  rintro rfl
  cases glyphs_eq

/-- Texts that stand side by side are read one after the other, if the second one starts with a delimiter. -/
theorem append (hp : Reads p ts) (hq : Reads q us) (delimited : Ended q) :
    Reads (p ++ q) (ts ++ us.map (·.shift p.length)) := by
  refine ⟨?_, by simp [hp.some_token], fun file size {post k s} ended stands => ?_⟩
  · obtain ⟨g, gs, glyphs_eq, fine⟩ := hp.head
    exact ⟨g, gs ++ glyphs q, by rw [delimited.glyphs_append, glyphs_eq, List.cons_append], fine⟩
  rw [List.append_assoc] at stands
  obtain ⟨ls, s', lexes, tokens, clean, stands'⟩ :=
    hp.lexes file size (delimited.append hq.ne_nil) stands
  obtain ⟨ls', s'', lexes', tokens', clean', stands''⟩ := hq.lexes file size ended stands'
  refine ⟨ls ++ ls', s'', lexes.append lexes', ?_, ?_, ?_⟩
  · rw [List.filter_append, tokens, tokens', List.map_append, List.map_map]
    simp [Function.comp_def, Nat.add_comm]
  · exact fun l hl => (List.mem_append.1 hl).elim (clean l) (clean' l)
  · rwa [List.length_append, ← Nat.add_assoc]

/-- A blank before a text does not count. -/
theorem blank (hq : Reads q us) : Reads (32 :: q) (us.map (·.shift 1)) := by
  have space (t : Text) : glyphs (32 :: t) = ⟨' ', [32]⟩ :: glyphs t := Text.glyphs_ascii (by decide) t
  refine ⟨⟨_, _, space q, Reader.Within.glyphFault?_of_mem (by decide)⟩, by simp [hq.some_token],
    fun file size {post k s} ended stands => ?_⟩
  have rest : s.reader.rest = ⟨' ', [32]⟩ :: glyphs (q ++ post) := by rw [stands.rest, List.cons_append, space]
  obtain ⟨g, gs, glyphs_eq, fine⟩ := hq.head
  have behind : s.reader.next = { s.reader with rest := glyphs (q ++ post), offset := k + 1 } := by
    unfold Reader.next
    rw [rest, stands.offset]
    have follows : glyphs (q ++ post) = g :: (gs ++ glyphs post) := by
      rw [ended.glyphs_append, glyphs_eq, List.cons_append]
    simp [Reader.inspect, follows, fine, Glyph.width]
  have stands' : LexState.Stands (k + 1) (q ++ post) ⟨s.reader.next, s.breakEnds, s.pending⟩ := by
    rw [behind]
    exact ⟨rfl, rfl, Nat.le_succ_of_le stands.line, stands.clean, stands.pending⟩
  obtain ⟨ls, s', lexes, tokens, clean, stands''⟩ := hq.lexes file size ended stands'
  have some_lexeme : ls ≠ [] := by
    rintro rfl
    exact hq.some_token (List.map_eq_nil_iff.1 tokens.symm)
  have same : readLexeme file size s = readLexeme file size ⟨s.reader.next, s.breakEnds, s.pending⟩ := by
    have begin := begin_eq_next rest (s := s) rfl
    by_cases ended : s.begin.rest = []
    · rw [readLexeme_end stands.pending ended, readLexeme_end stands'.pending (begin ▸ ended), begin]
    · obtain ⟨c, found, read, -⟩ := readLexeme_found file size stands.pending ended
      rw [read, readLexeme_eq stands'.pending (begin ▸ found), begin]
  refine ⟨ls, s', lexes.of_readLexeme_eq some_lexeme same, ?_, clean, ?_⟩
  · simpa [Function.comp_def, Nat.add_comm] using tokens
  · rwa [List.length_cons, Nat.add_comm q.length, ← Nat.add_assoc]

/-- **What a text is read as**: its tokens, without faults. -/
theorem lex_eq (h : Reads p ts) {b : UInt8} (first : p.head? = some b) (ascii : b < 0x80) (file : Text) :
    (lex file p).1.filter isSignificant = ts ∧ ∀ l ∈ (lex file p).1, l.faults = [] := by
  obtain ⟨g, gs, glyphs_eq, fine⟩ := h.head
  have narrow : Reader.isWideText p = false := by
    obtain ⟨r, rfl⟩ : ∃ r, p = b :: r := by
      cases p with
      | nil => cases first
      | cons c r => exact ⟨r, by rw [Option.some.inj first]⟩
    have other : b ≠ 0xFF ∧ b ≠ 0xFE := by
      constructor <;> rintro rfl <;> exact absurd ascii (by decide)
    simp [Reader.isWideText, Text.startsWith, List.isPrefixOf_cons_cons, other.1.symm, other.2.symm]
  have start := start_of_fine narrow glyphs_eq fine
  have stands : LexState.Stands 0 (p ++ []) (LexState.ofText p) := by
    rw [List.append_nil, LexState.ofText, start]
    exact ⟨rfl, rfl, Nat.le_refl 0, rfl, rfl⟩
  obtain ⟨ls, s, lexes, tokens, clean, at_end⟩ := h.lexes file p.length .nil stands
  obtain ⟨all, clean'⟩ := lex_of_stopped lexes clean at_end.rest at_end.clean
  refine ⟨?_, clean'⟩
  rw [all, tokens]
  simp [Lexeme.shift]

end Reads

/-! ## Where tokens lie -/

variable {file : Text} {size : Nat} {s s' : LexState} {ls : List Lexeme}

/-- Tokens without faults lie side by side, before the place that is reached. -/
theorem Lexes.apart (h : Lexes file size s ls s') (fresh : s.reader.faults = []) (clean : ∀ l ∈ ls, l.faults = [])
    (spelled : ∀ g ∈ s.reader.rest, Spelled g) (solid : ∀ g ∈ s.reader.rest, 0 < g.width) :
    (ls.filter isSignificant).Pairwise (fun a b => a.offset + tokenLength a ≤ b.offset) ∧
      ∀ a ∈ ls.filter isSignificant, a.offset + tokenLength a ≤ s'.reader.offset := by
  induction h with
  | nil => simp
  | cons _ rest ih =>
    obtain ⟨clean_first, clean_rest⟩ := List.forall_mem_cons.1 clean
    obtain ⟨reaches, fresh'⟩ := reaches_readLexeme file size fresh clean_first
    obtain ⟨apart, inside⟩ := ih fresh' clean_rest (reaches.subset spelled) (reaches.subset solid)
    rw [List.filter_cons]
    split
    · next significant =>
      have ends := end_le_of_significant spelled solid significant clean_first
      refine ⟨List.pairwise_cons.2 ⟨fun b hb => ?_, apart⟩, List.forall_mem_cons.2 ⟨?_, inside⟩⟩
      · obtain ⟨mem, significant'⟩ := List.mem_filter.1 hb
        exact Nat.le_trans ends (rest.offset_le fresh' clean_rest b mem (.inl significant'))
      · exact Nat.le_trans ends (rest.reaches fresh' clean_rest).1.offset_le
    · exact ⟨apart, inside⟩

theorem spelled_start (t : Text) : ∀ g ∈ (Reader.start t).rest, Spelled g := by
  refine (reaches_start t).subset fun g hg => ?_
  dsimp only at hg
  split at hg
  · rw [List.mem_singleton.1 hg]
    exact fun decoded => absurd rfl decoded
  · exact spelled_of_mem hg

theorem offset_add_start (t : Text) : (Reader.start t).offset + width (Reader.start t).rest = t.length := by
  rw [(reaches_start t).offset_add]
  dsimp only
  rw [Nat.zero_add]
  split
  · simp [width, Text.ofGlyphs]
  · exact width_glyphs t

/-- **The tokens of a text lie side by side in the text.** -/
theorem tokensOf_apart {t : Text} (clean : ∀ l ∈ (lex [] t).1, l.faults = []) :
    (tokensOf t).Pairwise (fun a b => a.offset + tokenLength a ≤ b.offset) ∧
      ∀ l ∈ tokensOf t, l.offset + tokenLength l ≤ t.length := by
  obtain ⟨ls, s, read, tokens, clean, fresh, -⟩ := tokensOf_spec clean
  obtain ⟨apart, inside⟩ := read.apart fresh clean (spelled_start t) (solid_start t)
  rw [tokens]
  refine ⟨apart, fun l hl => Nat.le_trans (inside l hl) ?_⟩
  have total := (read.reaches fresh clean).1.offset_add
  rw [show (LexState.ofText t).reader = Reader.start t from rfl, offset_add_start] at total
  omega

end DocAccessors.Source
