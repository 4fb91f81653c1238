import DocAccessors.Directive.OptionList
import DocAccessors.Proofs.Source.Lexing
import DocAccessors.Proofs.Text.Utf8

/-!
# Pieces of a text

A piece of a text whose lexemes have no faults reads as these lexemes within the text.

* `Reader.Reaches.offset_add`: what was read and what is left are all of the text;
* `offset_add_tokenLength_eq`: a lexeme is as long as what it was read from, unless it is a raw string, which may have
  lost carriage returns;
* `Lexes.within`: the lexemes of a piece are read within the text, with other offsets.
-/

namespace DocAccessors.Source

open DocAccessors.Text (Glyph)
open OptionList (isSignificant tokenLength)
open Reader (Reaches Kept reaches_next)

/-! ## Where a lexeme ends -/

/-- A glyph that is spelled as its code point, unless it cannot be decoded. -/
def Spelled (g : Glyph) : Prop := g.char ≠ Text.replacement → g.bytes = Text.ofChar g.char

theorem spelled_of_mem {t : Text} {g : Glyph} (h : g ∈ Text.glyphs t) : Spelled g := by
  intro decoded
  rcases Text.spelled_or_invalid t g h with spelled | ⟨b, rfl⟩
  · exact spelled
  · exact absurd rfl decoded

namespace Reader.Reaches

variable {r r' : Reader}

theorem offset_le (h : Reaches r r') : r.offset ≤ r'.offset := by
  obtain ⟨gs, -, offset⟩ := h.path
  omega

theorem subset (h : Reaches r r') {P : Glyph → Prop} (all : ∀ g ∈ r.rest, P g) : ∀ g ∈ r'.rest, P g := by
  obtain ⟨gs, rest, -⟩ := h.path
  intro g hg
  exact all g (by simp [rest, hg])

/-- The offset of a place and what is left there go together. -/
theorem offset_add (h : Reaches r r') : r'.offset + width r'.rest = r.offset + width r.rest := by
  obtain ⟨gs, rest, offset⟩ := h.path
  rw [offset, rest, width_append, Nat.add_assoc]

theorem length_between (h : Reaches r r') : (Reader.between r r').length = r'.offset - r.offset := by
  obtain ⟨gs, rest, offset⟩ := h.path
  rw [Reader.between_eq rest offset, offset, Nat.add_sub_cancel_left]
  rfl

end Reader.Reaches

theorem tokenLength_of_lit {l : Lexeme} (h : l.lit ≠ []) : tokenLength l = l.lit.length := by
  rw [tokenLength, if_neg (by simpa using h)]

/-- A lexeme whose text is the text up to the next place has the length of that text. -/
theorem tokenLength_between {start r : Reader} {token : Token} {fs : List LexFault}
    (reaches : Reaches start r) (behind : start.offset < r.offset) :
    start.offset + tokenLength ⟨start.offset, token, Reader.between start r, fs⟩ = r.offset := by
  have length := reaches.length_between
  have some_text : Reader.between start r ≠ [] := by
    intro empty
    rw [empty, List.length_nil] at length
    omega
  rw [tokenLength_of_lit some_text]
  dsimp only
  omega

theorem offset_noteInvalid (radix : Radix) (invalid : Option Nat) (start : Nat) (token : Token) (lit : Text)
    (r : Reader) : (noteInvalid radix invalid start token lit r).offset = r.offset := by
  unfold noteInvalid
  split
  · split <;> rfl
  · rfl

theorem offset_noteUnderscore (underscore : Bool) (start : Nat) (lit : Text) (r : Reader) :
    (noteUnderscore underscore start lit r).offset = r.offset := by
  unfold noteUnderscore
  split
  · split <;> rfl
  · rfl

/-- The text of a number is the text up to the place after it. -/
theorem between_readNumber (start : Reader) :
    ∃ r, Reaches start r ∧ (readNumber start).2.1 = Reader.between start r ∧ (readNumber start).2.2.offset = r.offset := by
  rw [readNumber_eq]
  refine ⟨_, ?_, rfl, by dsimp only; rw [offset_noteUnderscore, offset_noteInvalid]⟩
  exact (reaches_integerPart start).trans <| (reaches_wholePart _ _).trans <| (reaches_mantissaEnd _ _).trans <|
    (reaches_exponentPart _ _ _ _).trans (reaches_numberEnd _ _)

/-- The place after a character lies behind it. -/
theorem offset_lt_next {r : Reader} (more : r.rest ≠ []) (solid : ∀ g ∈ r.rest, 0 < g.width) :
    r.offset < r.next.offset := by
  obtain ⟨g, gs, rest⟩ := List.exists_cons_of_ne_nil more
  have wide := solid g (by simp [rest])
  unfold Reader.next
  rw [rest]
  simp only [Reader.offset_inspect]
  omega

/-- The text of a glyph is no longer than the glyph. -/
theorem offset_next {r : Reader} {c : Char} (found : r.peek = some c) (spelled : ∀ g ∈ r.rest, Spelled g)
    (decoded : c ≠ Text.replacement) : r.next.offset = r.offset + (Text.ofChar c).length := by
  obtain ⟨g, gs, rest⟩ := List.exists_cons_of_ne_nil (ne_nil_of_peek found)
  have first : g.char = c := by simpa [Reader.peek, rest] using found
  have bytes := spelled g (by simp [rest]) (by rw [first]; exact decoded)
  unfold Reader.next
  rw [rest]
  simp only [Reader.offset_inspect, Glyph.width, bytes, first]

theorem offset_advance {cs : List Char} {r : Reader} (spelled : ∀ g ∈ r.rest, Spelled g)
    (ahead : cs <+: r.rest.map (·.char)) (ascii : ∀ c ∈ cs, (Text.ofChar c).length = 1) :
    (r.advance cs.length).offset = r.offset + cs.length := by
  induction cs generalizing r with
  | nil => rfl
  | cons c cs ih =>
    obtain ⟨after, split⟩ := ahead
    have found : r.peek = some c := by
      rw [Reader.peek, ← List.head?_map, ← split]
      rfl
    have one := ascii c (by simp)
    have decoded : c ≠ Text.replacement := by
      rintro rfl
      exact absurd one (by decide)
    have tail : r.next.rest.map (·.char) = cs ++ after := by
      rw [Reader.rest_next, List.map_tail, ← split]
      rfl
    have spelled' : ∀ g ∈ r.next.rest, Spelled g := (reaches_next r).subset spelled
    rw [List.length_cons, Reader.advance, ih spelled' ⟨after, tail.symm⟩ fun d hd => ascii d (by simp [hd]),
      offset_next found spelled decoded, one]
    omega

/-- The text up to a place behind starts with the character at the place. -/
theorem mem_between {r r' : Reader} (reaches : Reaches r r') (behind : r.offset < r'.offset) {c : Char}
    (found : r.peek = some c) (spelled : ∀ g ∈ r.rest, Spelled g) :
    ∀ b ∈ Text.ofChar c, c ≠ Text.replacement → b ∈ Reader.between r r' := by
  intro b hb decoded
  obtain ⟨gs, rest, offset⟩ := reaches.path
  rw [Reader.between_eq rest offset]
  cases gs with
  | nil =>
    rw [offset, width_nil] at behind
    exact absurd behind (Nat.lt_irrefl _)
  | cons g gs =>
    have first : g.char = c := by simpa [Reader.peek, rest] using found
    have bytes := spelled g (by simp [rest]) (by rw [first]; exact decoded)
    rw [Text.ofGlyphs, List.flatMap_cons, bytes, first]
    exact List.mem_append_left _ hb

/-- The one character that cannot start a lexeme and is no fault is a byte order mark. -/
theorem emitIllegal_clean {start : Reader} {c : Char} {breakEnds : Bool}
    (clean : (emitIllegal start c breakEnds).1.faults = []) :
    c = Text.byteOrderMark ∧ (emitIllegal start c breakEnds).2.reader.offset = start.next.offset := by
  unfold emitIllegal at clean ⊢
  dsimp only at clean ⊢
  split at clean
  · next mark => exact ⟨beq_iff_eq.1 mark, by rw [if_pos mark]; rfl⟩
  · split at clean <;> simp [emit] at clean

theorem tokenLength_operator {cs : List Char} {token : Token} (mem : (cs, token) ∈ operators) {o : Nat}
    {fs : List LexFault} :
    tokenLength ⟨o, token, if token == .semicolon then text ";" else [], fs⟩ = cs.length ∧
      ∀ c ∈ cs, (Text.ofChar c).length = 1 := by
  have lengths : ∀ p ∈ operators, tokenLength ⟨0, p.2, if p.2 == .semicolon then text ";" else [], []⟩ = p.1.length ∧
      ∀ c ∈ p.1, (Text.ofChar c).length = 1 := by decide
  exact lengths _ mem

/-- A lexeme without faults that is no raw string ends where the next one can start. -/
theorem offset_add_tokenLength_eq {file : Text} {size : Nat} {start : Reader} {breakEnds : Bool} {c : Char}
    (found : start.peek = some c) (spelled : ∀ g ∈ start.rest, Spelled g) (solid : ∀ g ∈ start.rest, 0 < g.width)
    (read : (lexemeAt file size start breakEnds c).1.token ≠ .comment ∧
      (lexemeAt file size start breakEnds c).1.faults = []) (notRaw : c ≠ '\x60') :
    start.offset + tokenLength (lexemeAt file size start breakEnds c).1 =
      (lexemeAt file size start breakEnds c).2.reader.offset := by
  have behind {r : Reader} (h : Reaches start.next r) : start.offset < r.offset :=
    Nat.lt_of_lt_of_le (offset_lt_next (ne_nil_of_peek found) solid) h.offset_le
  unfold lexemeAt at read ⊢
  split
  · next word =>
    exact tokenLength_between (Reader.reaches_skipWhile _ _)
      (behind (reaches_skipWhile_next found (by simp [Text.isIdentPart, word])))
  · next notWord =>
    rw [if_neg notWord] at read
    split
    · next number =>
      rw [Bool.or_eq_true, Bool.and_eq_true, beq_iff_eq] at number
      obtain ⟨r, reaches, lit, offset⟩ := between_readNumber start
      have later := behind (reaches_next_readNumber found (number.imp_right And.left))
      rw [offset] at later
      unfold emit
      rw [lit]
      exact (tokenLength_between reaches later).trans offset.symm
    · next notNumber =>
      rw [if_neg notNumber] at read
      split at read
      · exact (offset_next found spelled (by decide)).symm
      · have reaches := reaches_skipString start.offset (start.rest.length + 1) start.next
        exact tokenLength_between ((reaches_next _).trans reaches) (behind reaches)
      · have reaches := reaches_skipRune start.offset (start.rest.length + 1) true 0 start.next
        exact tokenLength_between ((reaches_next _).trans reaches) (behind reaches)
      · exact absurd rfl notRaw
      · split at read
        · exact absurd rfl read.1
        · next notComment =>
          rw [if_neg notComment]
          split
          · next cs token operator =>
            obtain ⟨mem, -⟩ := operatorAt?_eq_some operator
            obtain ⟨length, ascii⟩ := tokenLength_operator mem
            have ahead : cs <+: start.rest.map (·.char) := by
              have begins : cs.isPrefixOf ((start.rest.take 3).map (·.char)) = true := by
                unfold operatorAt? at operator
                simpa using List.find?_some operator
              exact (List.isPrefixOf_iff_prefix.1 begins).trans ((List.take_prefix 3 _).map _)
            dsimp only [emit, Reader.forget]
            rw [length, offset_advance spelled ahead ascii]
          · next noOperator =>
            rw [noOperator] at read
            obtain ⟨rfl, next⟩ := emitIllegal_clean read.2
            have offset := offset_next found spelled (by decide)
            have length : tokenLength (emitIllegal start Text.byteOrderMark breakEnds).1 =
                (Text.ofChar Text.byteOrderMark).length := rfl
            rw [length, next, offset]

/-- The text of a raw string has lost its carriage returns. -/
theorem lexemeAt_raw (file : Text) (size : Nat) (start : Reader) (breakEnds : Bool) :
    lexemeAt file size start breakEnds '\x60' =
      emit start .string ((Reader.between start (skipRawString start.offset start.next)).filter (· != 13))
        (skipRawString start.offset start.next) true := rfl

theorem raw_ne_nil {start : Reader} (found : start.peek = some '\x60') (spelled : ∀ g ∈ start.rest, Spelled g)
    (solid : ∀ g ∈ start.rest, 0 < g.width) :
    (Reader.between start (skipRawString start.offset start.next)).filter (· != 13) ≠ [] := by
  have reaches := reaches_skipRawString start.offset start.next
  have later := Nat.lt_of_lt_of_le (offset_lt_next (ne_nil_of_peek found) solid) reaches.offset_le
  have quote := mem_between ((reaches_next start).trans reaches) later found spelled
  exact List.ne_nil_of_mem (List.mem_filter.2 ⟨quote 96 (by decide) (by decide), by decide⟩)

theorem tokenLength_raw {file : Text} {size : Nat} {start : Reader} {breakEnds : Bool}
    (found : start.peek = some '\x60') (spelled : ∀ g ∈ start.rest, Spelled g)
    (solid : ∀ g ∈ start.rest, 0 < g.width) :
    tokenLength (lexemeAt file size start breakEnds '\x60').1 =
      ((Reader.between start (skipRawString start.offset start.next)).filter (· != 13)).length := by
  rw [lexemeAt_raw]
  exact tokenLength_of_lit (raw_ne_nil found spelled solid)

/-- A lexeme without faults ends where the next one can start, or before. -/
theorem offset_add_tokenLength {file : Text} {size : Nat} {start : Reader} {breakEnds : Bool} {c : Char}
    (found : start.peek = some c) (spelled : ∀ g ∈ start.rest, Spelled g) (solid : ∀ g ∈ start.rest, 0 < g.width)
    (read : (lexemeAt file size start breakEnds c).1.token ≠ .comment ∧
      (lexemeAt file size start breakEnds c).1.faults = []) :
    start.offset + tokenLength (lexemeAt file size start breakEnds c).1 ≤
      (lexemeAt file size start breakEnds c).2.reader.offset := by
  by_cases raw : c = '\x60'
  · subst raw
    have reaches := (reaches_next start).trans (reaches_skipRawString start.offset start.next)
    have shorter := List.length_filter_le (· != 13) (Reader.between start (skipRawString start.offset start.next))
    have length := reaches.length_between
    have later := reaches.offset_le
    rw [tokenLength_raw found spelled solid, lexemeAt_raw]
    dsimp only [emit, Reader.forget]
    omega
  · exact Nat.le_of_eq (offset_add_tokenLength_eq found spelled solid read raw)

/-! ## Reading on in a longer text -/

variable {file file' : Text} {size size' : Nat} {k : Nat} {post : List Glyph} {s s' t : LexState} {ls : List Lexeme}

theorem readLexeme_pending {o : Nat} (pending : s.pending = some o) :
    readLexeme file size s = (⟨o, .semicolon, "\n", []⟩, { s with pending := none }) := by
  simp [readLexeme, pending]

theorem begin_of_rest (ended : s.reader.rest = []) : s.begin.rest = [] := by
  unfold LexState.begin
  rw [Reader.rest_skipWhile, ended]
  rfl

theorem notComment_of_significant {l : Lexeme} (significant : isSignificant l = true) : l.token ≠ .comment := by
  intro comment
  simp [isSignificant, comment] at significant

/-- Where no more glyph but blanks is left, nothing more is read that stands in the text. -/
theorem readLexeme_ended (file : Text) (size : Nat) (ended : s.begin.rest = []) :
    isSignificant (readLexeme file size s).1 = false ∧ (readLexeme file size s).2.begin.rest = [] := by
  cases pending : s.pending with
  | some o =>
    rw [readLexeme_pending pending]
    exact ⟨rfl, ended⟩
  | none =>
    have rest : (LexState.mk s.begin.forget false none).begin.rest = [] := begin_of_rest ended
    rw [readLexeme_end pending ended]
    split
    · exact ⟨rfl, rest⟩
    · exact ⟨rfl, rest⟩

theorem Lexes.not_significant (h : Lexes file size s ls s') (ended : s.begin.rest = []) :
    ∀ l ∈ ls, isSignificant l = false := by
  induction h with
  | nil => simp
  | cons more _ ih =>
    obtain ⟨first, rest⟩ := readLexeme_ended file size ended
    exact List.forall_mem_cons.2 ⟨first, ih rest⟩

theorem Lexes.rest_ne_nil (h : Lexes file size s ls s') (some_lexeme : ls ≠ [])
    (last : ∀ l ∈ ls.getLast?, isSignificant l = true) : s.begin.rest ≠ [] := by
  intro ended
  obtain ⟨l, found⟩ := Option.isSome_iff_exists.1 (List.getLast?_isSome.2 some_lexeme)
  have none := h.not_significant ended l (List.mem_of_getLast? found)
  exact absurd (last l found) (by simp [none])

/-- Where a glyph is left behind blanks, the lexeme starts there, and its faults include those found before. -/
theorem readLexeme_found (file : Text) (size : Nat) (pending : s.pending = none) (more : s.begin.rest ≠ []) :
    ∃ c, s.begin.peek = some c ∧ readLexeme file size s = lexemeAt file size s.begin s.breakEnds c ∧
      ReadsOn s.begin (readLexeme file size s).1 (readLexeme file size s).2 := by
  obtain ⟨g, gs, rest⟩ := List.exists_cons_of_ne_nil more
  have found : s.begin.peek = some g.char := by simp [Reader.peek, rest]
  have read : readLexeme file size s = lexemeAt file size s.begin s.breakEnds g.char := readLexeme_eq pending found
  exact ⟨g.char, found, read, read ▸ readsOn_lexemeAt found⟩

theorem ReadsOn.clean {start : Reader} {l : Lexeme} (h : ReadsOn start l s) (clean : l.faults = []) :
    start.faults = [] := by
  obtain ⟨r, reaches, faults, -⟩ := h.path
  exact (reaches_next start).clean (reaches.clean (by simpa [faults] using clean))

theorem LexState.Within.skips_eq (h : LexState.Within k post s t) : t.skips = s.skips := by
  unfold LexState.skips
  rw [h.breakEnds]

theorem LexState.Within.begin (h : LexState.Within k post s t) (more : s.begin.rest ≠ []) {r' t' : Reader}
    (kept : Kept post r' t') (hr : Reaches s.begin r') (ht : Reaches t.begin t') :
    Reader.Within k post s.begin t.begin := by
  unfold LexState.begin at more hr ht ⊢
  rw [h.skips_eq] at ht ⊢
  exact h.reader.skipWhile kept (fun _ _ => .inr more) hr ht

/-- Where a glyph is left behind blanks in the piece, one is left in the longer text. -/
theorem LexState.Within.more (h : LexState.Within k post s t) (more : s.begin.rest ≠ []) : t.begin.rest ≠ [] := by
  unfold LexState.begin at more ⊢
  rw [Reader.rest_skipWhile] at more ⊢
  rw [h.skips_eq, h.reader.rest, List.dropWhile_append, if_neg (by simpa using more)]
  simp [more]

theorem KeptLexeme.back {p q : Lexeme × LexState} {start start' : Reader} (kept : KeptLexeme post p q)
    (hp : ReadsOn start p.1 p.2) (hq : ReadsOn start' q.1 q.2) :
    ∃ r t, Kept post r t ∧ Reaches start.next r ∧ Reaches start'.next t := by
  obtain ⟨r, reaches, faults, -⟩ := hp.path
  obtain ⟨t, reaches', faults', reader'⟩ := hq.path
  refine ⟨r, t, ?_, reaches, reaches'⟩
  unfold KeptLexeme at kept
  rw [faults, faults', reader'] at kept
  simpa [Kept, Reader.forget] using kept

theorem within_readLexeme (file' : Text) (size' : Nat) (h : LexState.Within k post s t)
    (more : s.pending = none → s.begin.rest ≠ [])
    (comment : (readLexeme file size s).1.token = .comment → (readLexeme file' size' t).1.token = .comment →
      (0 < (readLexeme file size s).1.offset ∨ k < (readLexeme file' size' t).1.offset) ∧
        Broken post (readLexeme file size s).2.reader (readLexeme file' size' t).2.reader)
    (kept : KeptLexeme post (readLexeme file size s) (readLexeme file' size' t)) :
    (readLexeme file' size' t).1 = (readLexeme file size s).1.shift k ∧
      LexState.Within k post (readLexeme file size s).2 (readLexeme file' size' t).2 := by
  cases pending : s.pending with
  | some o =>
    have pending' : t.pending = some (o + k) := by rw [h.pending, pending]; rfl
    rw [readLexeme_pending pending, readLexeme_pending pending']
    exact ⟨rfl, h.reader, h.breakEnds, rfl⟩
  | none =>
    have pending' : t.pending = none := by rw [h.pending, pending]; rfl
    have more := more pending
    obtain ⟨c, found, read, on⟩ := readLexeme_found file size pending more
    obtain ⟨c', found', read', on'⟩ := readLexeme_found file' size' pending' (h.more more)
    obtain ⟨r', t', places, hr, ht⟩ := kept.back on on'
    have begin := h.begin more places ((reaches_next _).trans hr) ((reaches_next _).trans ht)
    obtain rfl : c' = c := Option.some.inj (found'.symm.trans ((begin.peek more).trans found))
    have behind : (0 < (readLexeme file size s).1.offset ∨ k < (readLexeme file' size' t).1.offset) →
        0 < s.begin.offset := by
      rw [on.offset, on'.offset, begin.offset]
      omega
    replace comment := fun token token' => (comment token token').imp_left behind
    rw [read, read'] at comment kept ⊢
    rw [h.breakEnds] at comment kept ⊢
    exact within_lexemeAt begin found comment kept

/-- A comment is not the last lexeme, so that there is more behind it. -/
theorem Lexes.broken (h : Lexes file size s ls s') (some_lexeme : ls ≠ [])
    (last : ∀ l ∈ ls.getLast?, isSignificant l = true) (t : Reader) : Broken post s.reader t :=
  .inr (.inl fun ended => h.rest_ne_nil some_lexeme last (begin_of_rest ended))

theorem last_of_cons {l : Lexeme} (last : ∀ l' ∈ (l :: ls).getLast?, isSignificant l' = true) :
    (ls = [] → isSignificant l = true) ∧ ∀ l' ∈ ls.getLast?, isSignificant l' = true := by
  cases ls with
  | nil => simpa using last
  | cons l' ls => exact ⟨by simp, by rwa [List.getLast?_cons_cons] at last⟩

/-- **Lexemes without faults are read the same way within a longer text**, up to one that stands in the text. -/
theorem Lexes.within (file' : Text) (size' : Nat) (closed : Closed post) (h : Lexes file size s ls s') (place : LexState.Within k post s t)
    (clean : ∀ l ∈ ls, l.faults = []) (comments : ∀ l ∈ ls, l.token = .comment → 0 < l.offset)
    (last : ∀ l ∈ ls.getLast?, isSignificant l = true) :
    ∃ t', Lexes file' size' t (ls.map (·.shift k)) t' ∧ LexState.Within k post s' t' := by
  induction h generalizing t with
  | nil => exact ⟨t, .nil t, place⟩
  | @cons s s' ls more rest ih =>
    have some_more := Lexes.rest_ne_nil (.cons more rest) (List.cons_ne_nil _ _) last
    obtain ⟨only, last⟩ := last_of_cons last
    obtain ⟨clean_first, clean_rest⟩ := List.forall_mem_cons.1 clean
    obtain ⟨comment_first, comments_rest⟩ := List.forall_mem_cons.1 comments
    obtain ⟨first, place'⟩ := within_readLexeme file' size' place (fun _ => some_more)
      (fun token _ => ⟨.inl (comment_first token), rest.broken
        (fun none => notComment_of_significant (only none) token) last _⟩) (.inl ⟨closed, clean_first⟩)
    obtain ⟨t', lexes, within⟩ := ih place' clean_rest comments_rest last
    have more' : (readLexeme file' size' t).1.token ≠ .eof := by
      rw [first]
      exact more
    refine ⟨t', ?_, within⟩
    rw [List.map_cons, ← first]
    exact .cons more' lexes

/-! ## How far lexemes lead -/

/-- The first lexeme shows the faults of the start. -/
theorem faults_of_readLexeme (pending : s.pending = none) (clean : (readLexeme file size s).1.faults = []) :
    s.reader.faults = [] := by
  have blank : Reaches s.reader s.begin := Reader.reaches_skipWhile _ s.reader
  refine blank.clean ?_
  by_cases ended : s.begin.rest = []
  · rw [readLexeme_end pending ended] at clean
    split at clean <;> simpa [emit] using clean
  · obtain ⟨c, -, -, on⟩ := readLexeme_found file size pending ended
    exact on.clean clean

/-- A token stands in the text. -/
theorem found_of_significant (significant : isSignificant (readLexeme file size s).1 = true) :
    s.pending = none ∧ s.begin.rest ≠ [] := by
  constructor
  · cases due : s.pending with
    | none => rfl
    | some o =>
      rw [readLexeme_pending due] at significant
      simp [isSignificant] at significant
  · intro ended
    rw [(readLexeme_ended file size ended).1] at significant
    cases significant

theorem end_le_of_significant (spelled : ∀ g ∈ s.reader.rest, Spelled g) (solid : ∀ g ∈ s.reader.rest, 0 < g.width)
    (significant : isSignificant (readLexeme file size s).1 = true) (clean : (readLexeme file size s).1.faults = []) :
    (readLexeme file size s).1.offset + tokenLength (readLexeme file size s).1 ≤
      (readLexeme file size s).2.reader.offset := by
  obtain ⟨pending, more⟩ := found_of_significant significant
  have notComment := notComment_of_significant significant
  have blank : Reaches s.reader s.begin := Reader.reaches_skipWhile _ s.reader
  obtain ⟨c, found, read, on⟩ := readLexeme_found file size pending more
  rw [on.offset]
  rw [read] at notComment clean ⊢
  exact offset_add_tokenLength found (blank.subset spelled) (blank.subset solid) ⟨notComment, clean⟩

theorem forget_eq {r : Reader} (clean : r.faults = []) : r.forget = r := by
  unfold Reader.forget
  rw [← clean]

theorem reaches_readLexeme (file : Text) (size : Nat) (fresh : s.reader.faults = [])
    (clean : (readLexeme file size s).1.faults = []) :
    Reaches s.reader (readLexeme file size s).2.reader ∧ (readLexeme file size s).2.reader.faults = [] := by
  have blank : Reaches s.reader s.begin := Reader.reaches_skipWhile _ s.reader
  cases pending : s.pending with
  | some o =>
    rw [readLexeme_pending pending]
    exact ⟨.refl _, fresh⟩
  | none =>
    by_cases ended : s.begin.rest = []
    · rw [readLexeme_end pending ended] at clean ⊢
      have clean : s.begin.faults = [] := by
        split at clean <;> simpa [emit] using clean
      split <;> exact ⟨by rwa [emit, forget_eq clean], rfl⟩
    · obtain ⟨c, -, -, on⟩ := readLexeme_found file size pending ended
      obtain ⟨r, reaches, faults, reader⟩ := on.path
      rw [reader]
      have clean : r.faults = [] := by simpa [faults] using clean
      exact ⟨by rw [forget_eq clean]; exact blank.trans ((reaches_next _).trans reaches), rfl⟩

theorem Lexes.reaches (h : Lexes file size s ls s') (fresh : s.reader.faults = []) (clean : ∀ l ∈ ls, l.faults = []) :
    Reaches s.reader s'.reader ∧ s'.reader.faults = [] := by
  induction h with
  | nil => exact ⟨.refl _, fresh⟩
  | cons _ _ ih =>
    obtain ⟨clean_first, clean_rest⟩ := List.forall_mem_cons.1 clean
    obtain ⟨first, fresh'⟩ := reaches_readLexeme file size fresh clean_first
    obtain ⟨rest, fresh''⟩ := ih fresh' clean_rest
    exact ⟨first.trans rest, fresh''⟩

/-- Lexemes do not lie before the place they are read from, apart from the semicolons of line breaks. -/
theorem Lexes.offset_le (h : Lexes file size s ls s') (fresh : s.reader.faults = []) (clean : ∀ l ∈ ls, l.faults = []) :
    ∀ l ∈ ls, isSignificant l = true ∨ l.token = .comment → s.reader.offset ≤ l.offset := by
  induction h with
  | nil => simp
  | @cons s _ _ _ _ ih =>
    obtain ⟨clean_first, clean_rest⟩ := List.forall_mem_cons.1 clean
    obtain ⟨reaches, fresh'⟩ := reaches_readLexeme file size fresh clean_first
    refine List.forall_mem_cons.2
      ⟨fun kind => ?_, fun l hl kind => Nat.le_trans reaches.offset_le (ih fresh' clean_rest l hl kind)⟩
    cases pending : s.pending with
    | some o =>
      rw [readLexeme_pending pending] at kind
      simp [isSignificant] at kind
    | none =>
      by_cases ended : s.begin.rest = []
      · rw [readLexeme_end pending ended] at kind
        split at kind <;> simp [emit, isSignificant] at kind
      · obtain ⟨c, -, -, on⟩ := readLexeme_found file size pending ended
        rw [on.offset]
        exact (Reader.reaches_skipWhile _ s.reader).offset_le

end DocAccessors.Source
