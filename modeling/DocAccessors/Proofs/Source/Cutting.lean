import DocAccessors.Proofs.Source.WholeTokens

/-!
# Tokens cut out of a text

The text from the first to the last one of some neighbouring tokens reads as these tokens on its own.

* `Lexes.cut`: lexemes that lie in a piece of a text are read from the piece on its own;
* `glyphs_valid`: in a text without faults every glyph can be decoded, so that a piece of it has the glyphs it has there;
* `Run`: neighbouring tokens of a text, and the states in which reading them starts and stops;
* `Run.whole_of_plain`, `Run.whole_of_clean`: the text of a run is a text of whole tokens, and its tokens are those of
  the run, if the last one is as long as its text, or if the text is read without faults. Raw strings that have lost
  carriage returns are shorter than their text.
-/

namespace DocAccessors.Source

open DocAccessors.Text (Glyph glyphs)
open OptionList (isSignificant tokenLength)
open Reader (Reaches Kept reaches_next)

variable {file file' : Text} {size size' k : Nat} {post : List Glyph} {s s' t t' : LexState} {ls : List Lexeme}

/-! ## Lexemes of a piece -/

theorem LexState.length_begin (s : LexState) : s.begin.rest.length ≤ s.reader.rest.length :=
  (Reader.reaches_skipWhile _ s.reader).length_le

/-- What stands behind blanks is left before a lexeme, but not behind it. -/
theorem length_readLexeme (file : Text) (size : Nat) (pending : s.pending = none) (more : s.begin.rest ≠ []) :
    (readLexeme file size s).2.reader.rest.length < s.begin.rest.length := by
  obtain ⟨c, -, -, on⟩ := readLexeme_found file size pending more
  obtain ⟨r, reaches, -, reader⟩ := on.path
  rw [reader]
  change r.rest.length < _
  exact length_rest_next more reaches

theorem length_begin_readLexeme (file : Text) (size : Nat) (s : LexState) :
    (readLexeme file size s).2.begin.rest.length ≤ s.begin.rest.length := by
  cases pending : s.pending with
  | some o =>
    rw [readLexeme_pending pending]
    exact Nat.le_refl _
  | none =>
    by_cases ended : s.begin.rest = []
    · rw [(readLexeme_ended file size ended).2]
      exact Nat.zero_le _
    · exact Nat.le_trans (LexState.length_begin _) (Nat.le_of_lt (length_readLexeme file size pending ended))

theorem Lexes.length_begin (h : Lexes file size s ls s') : s'.begin.rest.length ≤ s.begin.rest.length := by
  induction h with
  | nil => exact Nat.le_refl _
  | cons _ _ ih => exact Nat.le_trans ih (length_begin_readLexeme file size _)

/-- Where a glyph of the piece is left behind blanks in the longer text, one is left in the piece. -/
theorem LexState.Within.begin_ne_nil (h : LexState.Within k post s t) (room : post.length < t.begin.rest.length) :
    s.begin.rest ≠ [] := by
  intro ended
  unfold LexState.begin at ended room
  rw [Reader.rest_skipWhile] at ended room
  rw [h.skips_eq, h.reader.rest, List.dropWhile_append, ended, List.isEmpty_nil, if_pos rfl] at room
  have shorter := (List.dropWhile_suffix (l := post) fun g => s.skips g.char).length_le
  omega

/-- **Lexemes of a text are read from a piece of it on its own**, up to a place from which a glyph of the piece is read
next. -/
theorem Lexes.cut (file : Text) (size : Nat) (h : Lexes file' size' t ls t') (place : LexState.Within k post s t)
    (clean : ∀ l ∈ ls, l.faults = []) (comments : ∀ l ∈ ls, l.token = .comment → k < l.offset)
    (room : post.length < t'.begin.rest.length) :
    ∃ ls' s', Lexes file size s ls' s' ∧ ls = ls'.map (·.shift k) ∧ LexState.Within k post s' t' := by
  induction h generalizing s with
  | nil => exact ⟨[], s, .nil s, rfl, place⟩
  | @cons t t' ls more rest ih =>
    obtain ⟨clean_first, clean_rest⟩ := List.forall_mem_cons.1 clean
    obtain ⟨comment_first, comments_rest⟩ := List.forall_mem_cons.1 comments
    have room' : post.length < (readLexeme file' size' t).2.begin.rest.length := Nat.lt_of_lt_of_le room rest.length_begin
    have left : post.length ≤ (readLexeme file' size' t).2.reader.rest.length :=
      Nat.le_trans (Nat.le_of_lt room') (LexState.length_begin _)
    have some_glyph := place.begin_ne_nil (Nat.lt_of_lt_of_le room' (length_begin_readLexeme _ _ _))
    obtain ⟨first, place'⟩ : (readLexeme file' size' t).1 = (readLexeme file size s).1.shift k ∧
        LexState.Within k post (readLexeme file size s).2 (readLexeme file' size' t).2 :=
      within_readLexeme file' size' place (fun _ => some_glyph)
        (fun _ token => ⟨.inr (comment_first token), .inr (.inr left)⟩) (.inr ⟨clean_first, left⟩)
    obtain ⟨ls', s', read, rfl, within⟩ := ih place' clean_rest comments_rest room
    refine ⟨(readLexeme file size s).1 :: ls', s', .cons ?_ read, by rw [List.map_cons, first], within⟩
    rw [first] at more
    exact more

/-- A raw string that is over in a piece is not read further in the longer text. -/
theorem room_of_raw {start start' : Reader} (h : Reader.Within k post start start') (more : start.rest ≠ [])
    (clean : (skipRawString start.offset start.next).faults = [])
    (clean' : (skipRawString start'.offset start'.next).faults = []) :
    post.length ≤ (skipRawString start'.offset start'.next).rest.length := by
  obtain ⟨quoted, -⟩ := quoted_of_skipRawString clean
  obtain ⟨-, closing⟩ := quoted_of_skipRawString clean'
  have quote := ne_nil_of_at' quoted
  rw [Reader.rest_skipWhile, Reader.rest_next] at quote
  rw [closing, Reader.rest_next, List.length_tail, Reader.rest_skipWhile, Reader.rest_next, h.rest,
    List.tail_append_of_ne_nil more, List.dropWhile_append, if_neg (by simpa using quote), List.length_append]
  have some_glyph := List.length_pos_iff.2 quote
  omega

theorem Lexes.next_mem_lex {p : Text} (read : Lexes file p.length (LexState.ofText p) ls s) :
    (readLexeme file p.length s).1 ∈ (lex file p).1 := by
  obtain ⟨fuel, enough, all⟩ := lexFrom_of_lexes (left_ofText p) read
  obtain ⟨fuel, rfl⟩ := Nat.exists_eq_succ_of_ne_zero (Nat.ne_zero_of_lt enough)
  rw [lex_eq, all]
  refine List.mem_append_right _ ?_
  unfold lexFrom
  dsimp only
  split <;> simp

/-! ## Glyphs of a piece -/

/-- The first place of a text lies behind its first glyph. -/
theorem reaches_start_glyphs {t : Text} (fresh : (Reader.start t).faults = []) :
    Reaches ⟨glyphs t, 0, 0, [], []⟩ (Reader.start t) := by
  have reaches := reaches_start t
  rwa [(fine_start fresh).1] at reaches

/-- In a text that is read without faults, every glyph can be decoded. -/
theorem glyphs_valid {t : Text} (clean : ∀ l ∈ (lex [] t).1, l.faults = []) : ∀ g ∈ glyphs t, g.isInvalid = false := by
  obtain ⟨ls, s, read, -, clean, fresh, ended, stop⟩ := tokensOf_spec clean
  have path : Reaches ⟨glyphs t, 0, 0, [], []⟩ s.begin :=
    ((reaches_start_glyphs fresh).trans (read.reaches fresh clean).1).trans (Reader.reaches_skipWhile _ s.reader)
  refine path.sound stop (fine_start fresh).2.1 ?_
  rw [Reader.Sound, ended]
  simp

/-- A text whose glyphs can all be decoded starts with no mark of a two-byte encoding. -/
theorem narrow_of_valid {t : Text} (valid : ∀ g ∈ glyphs t, g.isInvalid = false) : Reader.isWideText t = false := by
  refine Bool.eq_false_iff.2 fun wide => ?_
  simp only [Reader.isWideText, Text.startsWith, Bool.or_eq_true, List.isPrefixOf_iff_prefix] at wide
  rcases wide with ⟨r, rfl⟩ | ⟨r, rfl⟩
  · rw [List.cons_append, Text.glyphs_cons_invalid (by decide)] at valid
    cases valid _ (List.mem_cons_self ..)
  · rw [List.cons_append, Text.glyphs_cons_invalid (by decide)] at valid
    cases valid _ (List.mem_cons_self ..)

/-- Behind the start of a text whose glyphs can all be decoded, the glyphs left are those of the bytes left. -/
theorem Reader.Reaches.rest_eq {t : Text} {r : Reader} (h : Reaches ⟨glyphs t, 0, 0, [], []⟩ r)
    (valid : ∀ g ∈ glyphs t, g.isInvalid = false) : r.rest = glyphs (t.drop r.offset) := by
  obtain ⟨gs, rest, offset⟩ := h.path
  dsimp only at rest offset
  rw [Nat.zero_add] at offset
  have left : t.drop r.offset = Text.ofGlyphs r.rest := by
    have bytes : t = Text.ofGlyphs gs ++ Text.ofGlyphs r.rest := by
      rw [← Text.ofGlyphs_glyphs t, rest]
      exact List.flatMap_append
    rw [offset, width, bytes, List.drop_left]
  have spelled : ∀ g ∈ r.rest, g.bytes = Text.ofChar g.char := fun g hg =>
    have mem : g ∈ glyphs t := by simp [rest, hg]
    Text.spelled_of_valid mem (valid g mem)
  rw [left, Text.glyphs_ofGlyphs spelled]

theorem width_pos {gs : List Glyph} (solid : ∀ g ∈ gs, 0 < g.width) (some_glyph : gs ≠ []) : 0 < width gs := by
  obtain ⟨g, gs, rfl⟩ := List.exists_cons_of_ne_nil some_glyph
  rw [width_cons]
  exact Nat.add_pos_left (solid g (List.mem_cons_self ..)) _

/-- Of what is left of a text at two places, more glyphs are more bytes. -/
theorem length_le_iff_width_le {gs as bs : List Glyph} (ha : as <:+ gs) (hb : bs <:+ gs) (solid : ∀ g ∈ gs, 0 < g.width) :
    as.length ≤ bs.length ↔ width as ≤ width bs := by
  constructor
  · intro shorter
    obtain ⟨front, rfl⟩ := List.suffix_of_suffix_length_le ha hb shorter
    rw [width_append]
    exact Nat.le_add_left _ _
  · intro narrower
    refine Nat.not_lt.1 fun longer => ?_
    obtain ⟨front, rfl⟩ := List.suffix_of_suffix_length_le hb ha (Nat.le_of_lt longer)
    have some_glyph : front ≠ [] := by
      rintro rfl
      exact absurd longer (Nat.lt_irrefl _)
    have wide := width_pos (fun g hg => solid g (ha.subset (List.mem_append_left _ hg))) some_glyph
    rw [width_append] at narrower
    omega

/-- A piece is read up to its end where as much of the longer text is read as the piece is long. -/
theorem Lexes.ended_of_within {V : Text} (h : Lexes [] V.length (LexState.ofText V) ls s)
    (start : Reader.start V = ⟨glyphs V, 0, 0, [], []⟩) (clean : ∀ l ∈ ls, l.faults = [])
    (place : LexState.Within k post s t) (stop : k + V.length ≤ t.reader.offset) : s.reader.rest = [] := by
  have fresh : (LexState.ofText V).reader.faults = [] := by rw [LexState.ofText, start]
  have total := (h.reaches fresh clean).1.offset_add
  rw [LexState.ofText, start] at total
  dsimp only at total
  rw [width_glyphs, Nat.zero_add] at total
  have offset := place.reader.offset
  refine Classical.byContradiction fun some_glyph => ?_
  have wide := width_pos place.reader.solid some_glyph
  omega

/-! ## Where a token ends -/

/-- A text that ends with another byte than a carriage return has none, if there is none among as many bytes at its
start as it has other bytes. -/
theorem length_filter_returns {l : Text} {b : UInt8} (last : l.getLast? = some b) (other : b ≠ 13)
    (none : 13 ∉ l.take (l.filter (· != 13)).length) : (l.filter (· != 13)).length = l.length := by
  have shorter := List.length_filter_le (· != 13) l
  generalize length : (l.filter (· != 13)).length = n at none shorter ⊢
  have front : (l.take n).filter (· != 13) = l.take n :=
    List.filter_eq_self.2 fun c hc => by simpa using fun same : c = 13 => none (same ▸ hc)
  rw [← List.take_append_drop n l, List.filter_append, List.length_append, front, List.length_take_of_le shorter,
    Nat.add_eq_left, List.length_eq_zero_iff, List.filter_eq_nil_iff] at length
  -- otherwise the last byte is a carriage return
  refine Classical.byContradiction fun differ => ?_
  have last' : (l.drop n).getLast? = some b := by rw [List.getLast?_drop, if_neg (by omega), last]
  exact length b (List.mem_of_getLast? last') (by simpa using other)

theorem bytes_of_quote {g : Glyph} (spelled : Spelled g) (quote : g.char = '\x60') : g.bytes = [96] := by
  rw [spelled (by rw [quote]; decide), quote]
  decide

/-- A raw string that is over ends with a quote. -/
theorem getLast?_raw {start : Reader} (spelled : ∀ g ∈ start.rest, Spelled g)
    (clean : (skipRawString start.offset start.next).faults = []) :
    (Reader.between start (skipRawString start.offset start.next)).getLast? = some 96 := by
  obtain ⟨quoted, closing⟩ := quoted_of_skipRawString clean
  rw [closing]
  have reaches : Reaches start (start.next.skipWhile (· != '\x60')) :=
    (reaches_next _).trans (Reader.reaches_skipWhile _ _)
  generalize start.next.skipWhile (· != '\x60') = r at quoted reaches
  obtain ⟨gs, rest, offset⟩ := reaches.path
  obtain ⟨g, gs', rest'⟩ := List.exists_cons_of_ne_nil (ne_nil_of_at' quoted)
  have quote : g.char = '\x60' := by simpa [Reader.at', Reader.peek, rest'] using quoted
  have bytes := bytes_of_quote (spelled g (by simp [rest, rest'])) quote
  have between : Reader.between start r.next = Text.ofGlyphs (gs ++ [g]) := by
    refine Reader.between_eq (by simp [rest, rest']) ?_
    unfold Reader.next
    rw [rest']
    simp [offset, Nat.add_assoc]
  rw [between]
  simp [Text.ofGlyphs, bytes]

section Ends

variable (spelled : ∀ g ∈ s.reader.rest, Spelled g) (solid : ∀ g ∈ s.reader.rest, 0 < g.width)
  (significant : isSignificant (readLexeme file size s).1 = true) (clean : (readLexeme file size s).1.faults = [])
include spelled solid significant clean

theorem tokenLength_pos : 0 < tokenLength (readLexeme file size s).1 := by
  obtain ⟨pending, more⟩ := found_of_significant significant
  have notComment := notComment_of_significant significant
  have blank : Reaches s.reader s.begin := Reader.reaches_skipWhile _ s.reader
  obtain ⟨c, found, read, on⟩ := readLexeme_found file size pending more
  have behind := offset_lt_readLexeme file size pending more solid
  rw [read] at notComment clean behind ⊢
  by_cases raw : c = '\x60'
  · subst raw
    rw [tokenLength_raw found (blank.subset spelled) (blank.subset solid)]
    exact List.length_pos_iff.2 (raw_ne_nil found (blank.subset spelled) (blank.subset solid))
  · have ends := offset_add_tokenLength_eq found (blank.subset spelled) (blank.subset solid) ⟨notComment, clean⟩ raw
    omega

/-- A token ends where reading goes on, unless it is a raw string that has lost carriage returns. -/
theorem end_eq_of_significant (plain : s.begin.peek = some '\x60' →
      13 ∉ (Text.ofGlyphs s.begin.rest).take (tokenLength (readLexeme file size s).1)) :
    (readLexeme file size s).1.offset + tokenLength (readLexeme file size s).1 =
      (readLexeme file size s).2.reader.offset := by
  obtain ⟨pending, more⟩ := found_of_significant significant
  have notComment := notComment_of_significant significant
  have blank : Reaches s.reader s.begin := Reader.reaches_skipWhile _ s.reader
  obtain ⟨c, found, read, on⟩ := readLexeme_found file size pending more
  have spelled := blank.subset spelled
  have solid := blank.subset solid
  rw [on.offset]
  rw [read] at notComment clean plain ⊢
  by_cases raw : c = '\x60'
  · subst raw
    have none := plain found
    have ended : (skipRawString s.begin.offset s.begin.next).faults = [] := by
      rw [lexemeAt_raw] at clean
      simpa [emit] using clean
    have reaches := (reaches_next s.begin).trans (reaches_skipRawString s.begin.offset s.begin.next)
    have length := reaches.length_between
    have later := reaches.offset_le
    have last := getLast?_raw spelled ended
    rw [tokenLength_raw found spelled solid] at none ⊢
    rw [lexemeAt_raw]
    dsimp only [emit, Reader.forget]
    obtain ⟨gs, rest, offset⟩ := reaches.path
    have bytes : Text.ofGlyphs s.begin.rest = Reader.between s.begin (skipRawString s.begin.offset s.begin.next) ++
        Text.ofGlyphs (skipRawString s.begin.offset s.begin.next).rest := by
      rw [Reader.between_eq rest offset, rest]
      exact List.flatMap_append
    rw [bytes, List.take_append_of_le_length (List.length_filter_le _ _)] at none
    have exact_length := length_filter_returns last (by decide) none
    omega
  · exact offset_add_tokenLength_eq found spelled solid ⟨notComment, clean⟩ raw

end Ends

/-! ## Neighbouring tokens -/

theorem not_skips_of_begin {g : Glyph} {gs : List Glyph} (rest : s.begin.rest = g :: gs) : s.skips g.char = false := by
  have first := List.head?_dropWhile_not (fun g : Glyph => s.skips g.char) s.reader.rest
  rw [← Reader.rest_skipWhile, show (Reader.skipWhile s.skips s.reader).rest = g :: gs from rest] at first
  exact first

/-- A token is read the same way without what stands before it. -/
theorem readLexeme_begin (significant : isSignificant (readLexeme file size s).1 = true)
    (clean : (readLexeme file size s).1.faults = []) (unmarked : ∀ g ∈ s.begin.rest.head?, g.char ≠ Text.byteOrderMark) :
    readLexeme file size ⟨s.begin, false, none⟩ = readLexeme file size s := by
  obtain ⟨pending, more⟩ := found_of_significant significant
  obtain ⟨g, gs, rest⟩ := List.exists_cons_of_ne_nil more
  have found : s.begin.peek = some g.char := by simp [Reader.peek, rest]
  have read : readLexeme file size s = lexemeAt file size s.begin s.breakEnds g.char := readLexeme_eq pending found
  rw [read] at significant clean ⊢
  have notBreak : g.char ≠ '\n' := by
    intro isBreak
    rw [isBreak] at significant
    cases significant
  have solid : isBlank g.char = false := by
    have skips := not_skips_of_begin rest
    simp only [LexState.skips, Bool.or_eq_false_iff] at skips
    simp [isBlank, skips, notBreak]
  have begin : (LexState.mk s.begin false none).begin = s.begin := begin_eq (s := ⟨s.begin, false, none⟩) rest solid
  rw [readLexeme_eq (s := ⟨s.begin, false, none⟩) rfl (by rw [begin, found]), begin]
  exact lexemeAt_breakEnds significant clean (unmarked g (by rw [rest]; rfl)) false

/-- **Neighbouring tokens** `ts` of a text, the first one at the offset `k`: the state `t` stands before it, `lexemes`
are read from there before the last one, which is read from the state `t'`. -/
structure Run (src : Text) (k : Nat) (ts : List Lexeme) (t : LexState) (lexemes : List Lexeme) (t' : LexState) :
    Prop where
  stands : t.Stands k (src.drop k)
  valid : ∀ g ∈ t.reader.rest, g.isInvalid = false
  fresh : t.breakEnds = false
  fine : ∀ g ∈ t.reader.rest.head?, ∀ o, Reader.glyphFault? o g = none
  head : ts.head?.map (·.offset) = some k
  first : isSignificant (readLexeme [] src.length t).1 = true
  read : Lexes [] src.length t lexemes t'
  last : isSignificant (readLexeme [] src.length t').1 = true
  tokens : (lexemes ++ [(readLexeme [] src.length t').1]).filter isSignificant = ts
  clean : ∀ l ∈ lexemes ++ [(readLexeme [] src.length t').1], l.faults = []

/-- Neighbouring tokens behind the start of a text without faults are read one after another. -/
theorem exists_run {src : Text} (clean : ∀ l ∈ (lex [] src).1, l.faults = []) {before rest after : List Lexeme}
    {first : Lexeme} (split : tokensOf src = before ++ (first :: rest) ++ after) (behind : 0 < first.offset) :
    ∃ t lexemes t', Run src first.offset (first :: rest) t lexemes t' := by
  have valid := glyphs_valid clean
  obtain ⟨ls, stop, read, tokens, clean, fresh, -⟩ := tokensOf_spec clean
  obtain ⟨ls₀, part, last, ls₁, rfl, head, significant_last, filtered, -⟩ := exists_part (tokens.symm.trans split)
  -- the lexemes before the first token, then those up to the last one
  obtain ⟨_, upto, -⟩ := read.of_append
  obtain ⟨s, before_first, from_first⟩ := upto.of_append
  obtain ⟨clean, -⟩ := List.forall_mem_append.1 clean
  obtain ⟨clean_before, clean⟩ := List.forall_mem_append.1 clean
  obtain rfl := from_first.head?_eq head
  have more := (List.mem_filter.1 (filtered.symm ▸ List.mem_cons_self ..)).2
  have clean_first := clean _ (List.mem_of_mem_head? head)
  obtain ⟨pending, some_glyph⟩ := found_of_significant more
  obtain ⟨c, found, -, on⟩ := readLexeme_found [] src.length pending some_glyph
  have path : Reaches ⟨glyphs src, 0, 0, [], []⟩ s.begin :=
    ((reaches_start_glyphs fresh).trans (before_first.reaches fresh clean_before).1).trans
      (Reader.reaches_skipWhile _ s.reader)
  have stop : s.begin.faults = [] := on.clean clean_first
  have fine := path.fine stop (fine_start fresh).2.1
  rw [on.offset] at behind ⊢
  have unmarked : ∀ g ∈ s.begin.rest.head?, g.char ≠ Text.byteOrderMark := by
    intro g hg mark
    have fault := fine g hg
    have plain : Text.byteOrderMark ≠ '\x00' ∧ Text.byteOrderMark ≠ Text.replacement := by decide
    simp [Reader.glyphFault?, Glyph.isInvalid, mark, plain, behind] at fault
  -- what a line break before the first token means does not matter for it
  have same : readLexeme [] src.length ⟨s.begin, false, none⟩ = readLexeme [] src.length s :=
    readLexeme_begin more clean_first unmarked
  obtain ⟨t', before_last, last_one⟩ := (from_first.of_readLexeme_eq (by simp) same).of_append
  obtain rfl := last_one.head?_eq rfl
  refine ⟨⟨s.begin, false, none⟩, part, t', ⟨?_, rfl, ?_, stop, rfl⟩, ?_, rfl, ?_, congrArg some on.offset, same.symm ▸ more,
    before_last, significant_last, filtered, clean⟩
  · exact path.rest_eq valid
  · exact path.line (Nat.le_refl 0)
  · exact path.subset valid
  · exact fun g hg => glyphFault?_anywhere (fine g hg) (unmarked g hg)

namespace Run

variable {src : Text} {ts : List Lexeme} {t t' : LexState} {lexemes : List Lexeme}

theorem solid (run : Run src k ts t lexemes t') : ∀ g ∈ t.reader.rest, 0 < g.width := by
  rw [run.stands.rest]
  exact fun g hg => width_pos_of_mem hg

theorem spelled (run : Run src k ts t lexemes t') : ∀ g ∈ t.reader.rest, Spelled g := by
  rw [run.stands.rest]
  exact fun g hg => spelled_of_mem hg

/-- The last token is read from behind the first place of the run, and reading goes on behind it. -/
theorem reaches (run : Run src k ts t lexemes t') :
    Reaches t.reader t'.begin ∧ t'.begin.faults = [] ∧
      (readLexeme [] src.length t').1.offset = t'.begin.offset ∧
        Reaches t'.begin (readLexeme [] src.length t').2.reader := by
  obtain ⟨clean, clean_last⟩ := List.forall_mem_append.1 run.clean
  have clean_last := clean_last _ (List.mem_singleton_self _)
  obtain ⟨pending, more⟩ := found_of_significant run.last
  obtain ⟨c, -, -, on⟩ := readLexeme_found [] src.length pending more
  refine ⟨(run.read.reaches run.stands.clean clean).1.trans (Reader.reaches_skipWhile _ _), on.clean clean_last,
    on.offset, ?_⟩
  obtain ⟨r, reaches, faults, reader⟩ := on.path
  rw [reader, forget_eq (by simpa [faults] using clean_last)]
  exact (reaches_next _).trans reaches

theorem pending (run : Run src k ts t lexemes t') : t'.pending = none := (found_of_significant run.last).1

theorem last_eq {first : Lexeme} {rest : List Lexeme} (run : Run src k (first :: rest) t lexemes t') :
    rest.getLast?.getD first = (readLexeme [] src.length t').1 := by
  have tokens := congrArg List.getLast? run.tokens
  rw [List.filter_append, List.filter_cons_of_pos run.last, List.filter_nil, List.getLast?_concat, List.getLast?_cons] at tokens
  exact (Option.some.inj tokens).symm

/-- How many bytes are left behind the first place. -/
theorem width_rest (run : Run src k ts t lexemes t') : width t.reader.rest = src.length - k := by
  rw [run.stands.rest, width_glyphs, List.length_drop]

/-- The last token begins in a piece of the text that goes to its end. -/
theorem room (run : Run src k ts t lexemes t') {V : Text} {post : List Glyph}
    (glyphs_eq : glyphs (src.drop k) = glyphs V ++ post)
    (length : k + V.length = (readLexeme [] src.length t').1.offset + tokenLength (readLexeme [] src.length t').1) :
    post.length < t'.begin.rest.length := by
  obtain ⟨to_last, -, offset, -⟩ := run.reaches
  obtain ⟨clean, clean_last⟩ := List.forall_mem_append.1 run.clean
  have reaches := (run.read.reaches run.stands.clean clean).1
  have some_byte := tokenLength_pos (reaches.subset run.spelled) (reaches.subset run.solid) run.last
    (clean_last _ (List.mem_singleton_self _))
  have total := to_last.offset_add
  rw [run.stands.offset, run.stands.rest, glyphs_eq, width_append, width_glyphs] at total
  obtain ⟨gs, rest, -⟩ := to_last.path
  have solid := run.solid
  rw [run.stands.rest, glyphs_eq] at rest solid
  have suffix : t'.begin.rest <:+ glyphs V ++ post := ⟨gs, rest.symm⟩
  rw [← Nat.not_le, length_le_iff_width_le suffix (List.suffix_append _ _) solid]
  omega

/-- **A piece of the text that goes to the end of the last token** is read like the text up to that token. -/
theorem cut (run : Run src k ts t lexemes t') {V : Text} {post : List Glyph}
    (glyphs_eq : glyphs (src.drop k) = glyphs V ++ post) (valid : ∀ g ∈ glyphs V, g.isInvalid = false)
    (length : k + V.length = (readLexeme [] src.length t').1.offset + tokenLength (readLexeme [] src.length t').1) :
    ∃ ls s, Lexes [] V.length (LexState.ofText V) ls s ∧ lexemes = ls.map (·.shift k) ∧
      LexState.Within k post s t' ∧ Reader.start V = ⟨glyphs V, 0, 0, [], []⟩ := by
  have room := run.room glyphs_eq length
  obtain ⟨to_last, -⟩ := run.reaches
  obtain ⟨clean, clean_last⟩ := List.forall_mem_append.1 run.clean
  have rest : t.reader.rest = glyphs V ++ post := by rw [run.stands.rest, glyphs_eq]
  -- the piece starts with the glyph that the first token starts with
  obtain ⟨g, gs, first⟩ : ∃ g gs, glyphs V = g :: gs := by
    refine List.exists_cons_of_ne_nil fun none => ?_
    have shorter := to_last.length_le
    rw [rest, none, List.nil_append] at shorter
    omega
  have fine := run.fine g (by rw [rest, first]; rfl)
  have start := start_of_fine (narrow_of_valid valid) first fine
  have place : LexState.Within k post (LexState.ofText V) t := by
    rw [LexState.ofText, start]
    refine ⟨⟨rest, ?_, .inr ⟨rfl, run.stands.line⟩, rfl, run.stands.clean, fun g hg => width_pos_of_mem hg⟩,
      run.fresh, run.stands.pending⟩
    rw [run.stands.offset, Nat.zero_add]
  have comments := run.read.comment_behind run.stands.clean clean run.solid run.first
  rw [run.stands.offset] at comments
  obtain ⟨ls, s, read, eq, within⟩ := run.read.cut [] V.length place clean comments room
  exact ⟨ls, s, read, eq, within, start⟩

/-- **The piece of the text that goes to the end of the last token is a text of whole tokens**, and its tokens are
those of the run, if the last token is not read beyond the piece. -/
theorem whole_of_room (run : Run src k ts t lexemes t') {V : Text} {post : List Glyph}
    (glyphs_eq : glyphs (src.drop k) = glyphs V ++ post) (valid : ∀ g ∈ glyphs V, g.isInvalid = false)
    (length : k + V.length = (readLexeme [] src.length t').1.offset + tokenLength (readLexeme [] src.length t').1)
    (inside : post.length ≤ (readLexeme [] src.length t').2.reader.rest.length) :
    WholeTokens V ∧ (tokensOf V).map (·.shift k) = ts := by
  have room := run.room glyphs_eq length
  obtain ⟨clean, clean_last⟩ := List.forall_mem_append.1 run.clean
  have reaches := (run.read.reaches run.stands.clean clean).1
  obtain ⟨ls, s, read, rfl, place, start⟩ := run.cut glyphs_eq valid length
  have clean_last := clean_last _ (List.mem_singleton_self _)
  obtain ⟨last, place'⟩ : (readLexeme [] src.length t').1 = (readLexeme [] V.length s).1.shift k ∧
      LexState.Within k post (readLexeme [] V.length s).2 (readLexeme [] src.length t').2 :=
    within_readLexeme [] src.length place (fun _ => place.begin_ne_nil room)
      (fun _ comment => absurd comment (notComment_of_significant run.last)) (.inr ⟨clean_last, inside⟩)
  have significant : isSignificant (readLexeme [] V.length s).1 = true := by
    have significant := run.last
    rwa [last, isSignificant_shift] at significant
  have tokens := run.tokens
  have ends := end_le_of_significant (reaches.subset run.spelled) (reaches.subset run.solid) run.last clean_last
  rw [last] at tokens ends length clean_last
  have more : (readLexeme [] V.length s).1.token ≠ .eof := by
    intro eof
    simp [isSignificant, eof] at significant
  have all := read.append (.cons more (.nil _))
  have clean_all : ∀ l ∈ ls ++ [(readLexeme [] V.length s).1], l.faults = [] :=
    List.forall_mem_append.2 ⟨fun l hl => clean (l.shift k) (List.mem_map.2 ⟨l, hl, rfl⟩), List.forall_mem_singleton.2 clean_last⟩
  have ended := all.ended_of_within start clean_all place' (length ▸ ends)
  obtain ⟨tokens_eq, clean_lex⟩ := lex_of_stopped all clean_all ended place'.reader.fresh
  have shifted : (tokensOf V).map (·.shift k) = ts := by
    rw [tokensOf, tokens_eq, ← filter_map_shift, ← tokens, List.map_append, List.map_singleton]
  refine ⟨⟨clean_lex, ?_, ?_⟩, shifted⟩
  · have head := run.head
    rw [← shifted, List.head?_map, Option.map_map] at head
    cases found : (tokensOf V).head? with
    | none => simp [found] at head
    | some first => simpa [found, Lexeme.shift] using head
  · rw [tokensOf, tokens_eq, List.filter_append, List.filter_cons_of_pos significant, List.filter_nil,
      List.getLast?_concat, Option.map_some]
    change k + V.length = (readLexeme [] V.length s).1.offset + k + tokenLength (readLexeme [] V.length s).1 at length
    rw [Option.some_inj]
    omega

/-- What was read of the text up to a place behind the first one, and what is left. -/
theorem bytes (run : Run src k ts t lexemes t') {r : Reader} (h : Reaches t.reader r) :
    ∃ gs, glyphs (src.drop k) = gs ++ r.rest ∧ r.offset = k + width gs ∧ (src.drop k).take (width gs) = Text.ofGlyphs gs ∧
      src.drop r.offset = Text.ofGlyphs r.rest := by
  obtain ⟨gs, rest, offset⟩ := h.path
  rw [run.stands.offset] at offset
  rw [run.stands.rest] at rest
  have bytes : src.drop k = Text.ofGlyphs gs ++ Text.ofGlyphs r.rest := by
    rw [← Text.ofGlyphs_glyphs (src.drop k), rest]
    exact List.flatMap_append
  refine ⟨gs, rest, offset, ?_, ?_⟩
  · rw [bytes, width, List.take_left]
  · rw [offset, ← List.drop_drop, bytes, width, List.drop_left]

/-- The text of a run is a text of whole tokens, unless the last one is a raw string that has lost carriage returns. -/
theorem whole_of_plain (run : Run src k ts t lexemes t') {l : Lexeme} (last : l = (readLexeme [] src.length t').1)
    (plain : l.token = .string → (src.drop l.offset).head? = some 96 → 13 ∉ (src.drop l.offset).take (tokenLength l))
    {V : Text} (text : V = (src.drop k).take (l.offset + tokenLength l - k)) :
    WholeTokens V ∧ (tokensOf V).map (·.shift k) = ts := by
  obtain ⟨to_last, -, offset, beyond⟩ := run.reaches
  obtain ⟨clean, clean_last⟩ := List.forall_mem_append.1 run.clean
  have reaches := (run.read.reaches run.stands.clean clean).1
  obtain ⟨gs, glyphs_eq, stop, front, -⟩ := run.bytes (to_last.trans beyond)
  obtain ⟨-, -, -, -, behind⟩ := run.bytes to_last
  have exact_end : l.offset + tokenLength l = (readLexeme [] src.length t').2.reader.offset := by
    rw [last] at plain ⊢
    refine end_eq_of_significant (reaches.subset run.spelled) (reaches.subset run.solid) run.last
      (clean_last _ (List.mem_singleton_self _)) fun raw => ?_
    have string : (readLexeme [] src.length t').1.token = .string := by
      rw [readLexeme_eq run.pending raw, lexemeAt_raw]
      rfl
    replace plain := plain string
    rw [offset, behind] at plain
    obtain ⟨g, gs, rest⟩ := List.exists_cons_of_ne_nil (ne_nil_of_peek raw)
    have quote : g.char = '\x60' := by simpa [Reader.peek, rest] using raw
    refine plain ?_
    rw [rest, Text.ofGlyphs, List.flatMap_cons,
      bytes_of_quote (to_last.subset run.spelled g (by rw [rest]; exact List.mem_cons_self ..)) quote]
    rfl
  have valid : ∀ g ∈ gs, g.isInvalid = false := fun g hg =>
    run.valid g (by rw [run.stands.rest, glyphs_eq]; exact List.mem_append_left _ hg)
  have spelled : ∀ g ∈ gs, g.bytes = Text.ofChar g.char := fun g hg =>
    Text.spelled_of_valid (t := src.drop k) (by rw [glyphs_eq]; exact List.mem_append_left _ hg) (valid g hg)
  have piece : V = Text.ofGlyphs gs := by rw [text, exact_end, stop, Nat.add_sub_cancel_left, front]
  have pieces : glyphs V = gs := by rw [piece, Text.glyphs_ofGlyphs spelled]
  rw [← pieces] at glyphs_eq valid
  refine run.whole_of_room glyphs_eq valid ?_ (Nat.le_refl _)
  rw [← last, exact_end, stop, piece]
  rfl

theorem whole_of_clean (run : Run src k ts t lexemes t') {l : Lexeme} (last : l = (readLexeme [] src.length t').1)
    {V : Text} (text : V = (src.drop k).take (l.offset + tokenLength l - k)) (clean : ∀ l ∈ (lex [] V).1, l.faults = []) :
    WholeTokens V ∧ (tokensOf V).map (·.shift k) = ts := by
  subst last
  have valid := glyphs_valid clean
  obtain ⟨to_last, stop_clean, offset, beyond⟩ := run.reaches
  obtain ⟨clean_run, clean_last⟩ := List.forall_mem_append.1 run.clean
  have clean_last := clean_last _ (List.mem_singleton_self _)
  have reaches := (run.read.reaches run.stands.clean clean_run).1
  have spelled := reaches.subset run.spelled
  have solid := reaches.subset run.solid
  -- the piece is as long as the tokens say
  have ends := end_le_of_significant spelled solid run.last clean_last
  have total := (to_last.trans beyond).offset_add
  rw [run.stands.offset, run.width_rest] at total
  have before := to_last.offset_le
  rw [run.stands.offset, ← offset] at before
  have length : k + V.length = (readLexeme [] src.length t').1.offset + tokenLength (readLexeme [] src.length t').1 := by
    rw [text, List.length_take, List.length_drop]
    omega
  have glyphs_eq : glyphs (src.drop k) = glyphs V ++
      glyphs ((src.drop k).drop ((readLexeme [] src.length t').1.offset + tokenLength (readLexeme [] src.length t').1 - k)) := by
    rw [← Text.glyphs_ofGlyphs_append fun g hg => Text.spelled_of_valid hg (valid g hg), Text.ofGlyphs_glyphs, text,
      List.take_append_drop]
  refine run.whole_of_room glyphs_eq valid length ?_
  by_cases raw : t'.begin.peek = some '\x60'
  · obtain ⟨ls, s, read, -, place, -⟩ := run.cut glyphs_eq valid length
    have room := run.room glyphs_eq length
    have some_glyph := place.begin_ne_nil room
    have begin := place.begin some_glyph (.inr ⟨stop_clean, Nat.le_of_lt room⟩) (.refl _) (.refl _)
    have pending : s.pending = none := Option.map_eq_none_iff.1 (place.pending.symm.trans run.pending)
    have clean_here := clean _ read.next_mem_lex
    rw [readLexeme_eq pending ((begin.peek some_glyph).symm.trans raw), lexemeAt_raw] at clean_here
    have stop : (readLexeme [] src.length t').2.reader.rest = (skipRawString t'.begin.offset t'.begin.next).rest := by
      rw [readLexeme_eq run.pending raw, lexemeAt_raw]
      rfl
    rw [readLexeme_eq run.pending raw, lexemeAt_raw] at clean_last
    rw [stop]
    exact room_of_raw begin some_glyph (by simpa [emit] using clean_here) (by simpa [emit] using clean_last)
  · have exact_end := end_eq_of_significant spelled solid run.last clean_last fun quote => absurd quote raw
    obtain ⟨gs, rest, -⟩ := (to_last.trans beyond).path
    have all := run.width_rest
    have solid := run.solid
    rw [run.stands.rest, glyphs_eq] at rest all solid
    rw [width_append, width_glyphs] at all
    refine (length_le_iff_width_le (List.suffix_append _ _) ⟨gs, rest.symm⟩ solid).2 ?_
    omega

end Run

end DocAccessors.Source
