import DocAccessors.Proofs.Source.Scan

/-!
# Lexemes in a longer text

A lexeme is read the same way within a longer text, and the lexemes of a text are read one after the other.

* `lexemeAt`: the lexeme that starts at a place, whatever comes before it;
* `Lexes file size s ls s'`: from the state `s`, the lexemes `ls` are read, and the state `s'` is reached;
* `lexFrom_spec`: with enough fuel, all lexemes of a state are read;
* `within_lexemeAt`: a lexeme that is kept is read the same way within a longer text, and the other way round.
-/

namespace DocAccessors.Source

open DocAccessors.Text (Glyph)
open Reader (Reaches Within Kept reaches_next)

/-! ## The next lexeme -/

/-- The blanks before a lexeme; a line break is one unless it ends a statement. -/
def LexState.skips (s : LexState) (c : Char) : Bool :=
  c == ' ' || c == '\t' || c == '\r' || (c == '\n' && !s.breakEnds)

/-- The first place from a state on that is not blank. -/
def LexState.begin (s : LexState) : Reader := s.reader.skipWhile s.skips

/-- A lexeme from a place to another, and the state after it. -/
def emit (start : Reader) (token : Token) (lit : Text) (r : Reader) (breakEnds : Bool) : Lexeme × LexState :=
  (⟨start.offset, token, lit, r.faults.reverse⟩, ⟨r.forget, breakEnds, none⟩)

/-- The comment at a place, and the state after it. -/
def emitComment (file : Text) (size : Nat) (start : Reader) (breakEnds : Bool) : Lexeme × LexState :=
  let (lit, r, lineBreak) := readComment file size start start.next
  (⟨start.offset, .comment, lit, r.faults.reverse⟩,
    match breakEnds, lineBreak with
    | true, some offset => ⟨r.forget, false, some offset⟩
    | breakEnds, _ => ⟨r.forget, breakEnds, none⟩)

/-- The lexeme at a place where none can start. -/
def emitIllegal (start : Reader) (c : Char) (breakEnds : Bool) : Lexeme × LexState :=
  let r := start.next
  emit start .illegal (Text.ofChar c)
    (if c == Text.byteOrderMark then r
    else if c == '“' || c == '”' then
      r.fault start.offset (text "curly quotation mark " ++ Text.quoteChar c ++
        text " (use neutral " ++ Text.quoteChar '"' ++ text ")")
    else r.fault start.offset (text "illegal character " ++ Text.describeChar c)) breakEnds

/-- The lexeme at a place where a character stands. -/
def lexemeAt (file : Text) (size : Nat) (start : Reader) (breakEnds : Bool) (c : Char) : Lexeme × LexState :=
  if Text.isIdentStart c then
    let r := start.skipWhile Text.isIdentPart
    let token := Token.ofWord (Reader.between start r)
    emit start token (Reader.between start r) r token.endsStatement
  else if c.isDigit || (c == '.' && start.peek2.any (·.isDigit)) then
    emit start (readNumber start).1 (readNumber start).2.1 (readNumber start).2.2 true
  else match c with
    | '\n' => emit start .semicolon "\n" start.next false
    | '"' =>
      let r := skipString start.offset (start.rest.length + 1) start.next
      emit start .string (Reader.between start r) r true
    | '\'' =>
      let r := skipRune start.offset (start.rest.length + 1) true 0 start.next
      emit start .char (Reader.between start r) r true
    | '\x60' =>
      let r := skipRawString start.offset start.next
      emit start .string ((Reader.between start r).filter (· != 13)) r true
    | _ =>
      if c == '/' && (start.peek2 == some '/' || start.peek2 == some '*') then
        emitComment file size start breakEnds
      else match operatorAt? start with
        | some (cs, token) =>
          emit start token (if token == .semicolon then text ";" else []) (start.advance cs.length) token.endsStatement
        | none => emitIllegal start c breakEnds

theorem readLexeme_eq {file : Text} {size : Nat} {s : LexState} (none : s.pending = none) {c : Char}
    (found : s.begin.peek = some c) : readLexeme file size s = lexemeAt file size s.begin s.breakEnds c := by
  unfold readLexeme
  unfold LexState.begin LexState.skips at found ⊢
  simp only [none, found]
  unfold lexemeAt emitComment
  split
  · rfl
  · split
    · rfl
    · split
      · rfl
      · rfl
      · rfl
      · rfl
      · simp only
        split
        · generalize readComment file size _ _ = read
          obtain ⟨lit, r, lineBreak⟩ := read
          cases s.breakEnds <;> cases lineBreak <;> rfl
        · rfl

/-! ## What a lexeme is -/

/-- At a place where a character stands, the lexeme starts there, it is not the end, and its faults come up on the way
to the place after it, which lies behind the character. -/
structure ReadsOn (start : Reader) (l : Lexeme) (s : LexState) : Prop where
  offset : l.offset = start.offset
  more : l.token ≠ .eof
  path : ∃ r, Reaches start.next r ∧ l.faults = r.faults.reverse ∧ s.reader = r.forget
  settled : s.pending.isSome = true → s.breakEnds = false

theorem readsOn_emit {start r : Reader} {token : Token} {lit : Text} {breakEnds : Bool} (reaches : Reaches start.next r)
    (more : token ≠ .eof) :
    ReadsOn start (emit start token lit r breakEnds).1 (emit start token lit r breakEnds).2 :=
  ⟨rfl, more, ⟨r, reaches, rfl, rfl⟩, by simp [emit]⟩

/-- A run that the first glyph belongs to goes on behind it. -/
theorem reaches_skipWhile_next {p : Char → Bool} {r : Reader} {c : Char} (found : r.peek = some c) (holds : p c = true) :
    Reaches r.next (r.skipWhile p) := by
  obtain ⟨g, gs, rest⟩ := List.exists_cons_of_ne_nil (ne_nil_of_peek found)
  have first : g.char = c := by simpa [Reader.peek, rest] using found
  have run : (r.rest.takeWhile fun g => p g.char) = g :: gs.takeWhile fun g => p g.char := by
    rw [rest, List.takeWhile_cons, first, holds]
    rfl
  rw [Reader.skipWhile, run]
  exact Reader.reaches_advance _ r.next

theorem ofWord_ne_eof (w : Text) : Token.ofWord w ≠ .eof := by
  unfold Token.ofWord
  cases found : Token.keywords.lookup w with
  | none => simp
  | some t =>
    have words : ∀ p ∈ Token.keywords, p.2 ≠ .eof := by decide
    rw [List.lookup_eq_some_iff] at found
    obtain ⟨before, after, split, -⟩ := found
    exact words (w, t) (by simp [split])

theorem readNumber_ne_eof (start : Reader) : (readNumber start).1 ≠ .eof := by
  rw [readNumber_eq]
  dsimp only
  unfold numberEnd
  split
  · simp
  · dsimp only
    split <;> simp

theorem reaches_next_readDigits {base : Nat} {r : Reader} {c : Char} (found : r.peek = some c)
    (digit : c.isDigit = true) : Reaches r.next (readDigits base r).stop := by
  have holds : ((if base ≤ 10 then c.isDigit else isHexDigit c) || c == '_') = true := by
    split <;> simp [isHexDigit, digit]
  exact reaches_skipWhile_next (p := fun c => (if base ≤ 10 then c.isDigit else isHexDigit c) || c == '_') found holds

/-- A number has a first digit, or a first point. -/
theorem reaches_next_wholePart {start : Reader} {c : Char} (found : start.peek = some c)
    (starts : c.isDigit = true ∨ c = '.') :
    Reaches start.next (wholePart (integerPart start).1 (integerPart start).2).stop := by
  by_cases point : start.at' '.' = true
  · have integer : integerPart start = (.decimal, ⟨start, false, false, none⟩) := by
      unfold integerPart
      rw [if_pos point]
    rw [integer]
    unfold wholePart
    rw [if_pos point]
    exact reaches_readDigits _ _
  · refine Reaches.trans ?_ (reaches_wholePart _ _)
    unfold integerPart
    rw [if_neg point]
    split
    · split
      · exact reaches_readDigits 8 _
      · exact (reaches_next _).trans (reaches_readDigits _ _)
    · refine reaches_next_readDigits found (starts.resolve_right ?_)
      rintro rfl
      exact point (beq_iff_eq.2 found)

theorem reaches_next_readNumber {start : Reader} {c : Char} (found : start.peek = some c)
    (starts : c.isDigit = true ∨ c = '.') : Reaches start.next (readNumber start).2.2 := by
  rw [readNumber_eq]
  exact (reaches_next_wholePart found starts).trans <| (reaches_mantissaEnd _ _).trans <|
    (reaches_exponentPart _ _ _ _).trans <| (reaches_numberEnd _ _).trans <| (reaches_noteInvalid _ _ _ _ _ _).trans <|
      reaches_noteUnderscore _ _ _ _

theorem operatorAt?_eq_some {r : Reader} {cs : List Char} {token : Token} (h : operatorAt? r = some (cs, token)) :
    (cs, token) ∈ operators ∧ cs.length ≤ r.rest.length := by
  unfold operatorAt? at h
  refine ⟨List.mem_of_find?_eq_some h, ?_⟩
  have begins : cs.isPrefixOf ((r.rest.take 3).map (·.char)) = true := by simpa using List.find?_some h
  have ahead := (List.isPrefixOf_iff_prefix.1 begins).length_le
  rw [List.length_map, List.length_take] at ahead
  exact Nat.le_trans ahead (Nat.min_le_right _ _)

theorem readsOn_lexemeAt {file : Text} {size : Nat} {start : Reader} {breakEnds : Bool} {c : Char}
    (found : start.peek = some c) :
    ReadsOn start (lexemeAt file size start breakEnds c).1 (lexemeAt file size start breakEnds c).2 := by
  unfold lexemeAt
  split
  · next word =>
    exact readsOn_emit (reaches_skipWhile_next found (by simp [Text.isIdentPart, word])) (ofWord_ne_eof _)
  · split
    · next number =>
      rw [Bool.or_eq_true, Bool.and_eq_true, beq_iff_eq] at number
      exact readsOn_emit (reaches_next_readNumber found (number.imp_right And.left)) (readNumber_ne_eof start)
    · split
      · exact readsOn_emit (.refl _) (by simp)
      · exact readsOn_emit (reaches_skipString _ _ _) (by simp)
      · exact readsOn_emit (reaches_skipRune _ _ _ _ _) (by simp)
      · exact readsOn_emit (reaches_skipRawString _ _) (by simp)
      · split
        · unfold emitComment
          dsimp only
          refine ⟨rfl, by simp, ⟨_, reaches_readComment file size start start.next, rfl, ?_⟩, ?_⟩ <;> split <;> simp
        · split
          · next cs token operator =>
            have known : ∀ p ∈ operators, p.1 ≠ [] ∧ p.2 ≠ .eof := by decide
            obtain ⟨mem, -⟩ := operatorAt?_eq_some operator
            obtain ⟨some_char, more⟩ := known _ mem
            obtain ⟨first, rest, rfl⟩ := List.exists_cons_of_ne_nil some_char
            exact readsOn_emit (Reader.reaches_advance _ start.next) more
          · refine readsOn_emit ?_ (by simp)
            split
            · exact .refl _
            · split <;> exact Reader.reaches_fault _ _ _

/-! ## Runs of lexemes -/

/-- How much is left to do in a state: a bound for the lexemes to come before the end. -/
def LexState.left (s : LexState) : Nat :=
  2 * s.reader.rest.length + (if s.breakEnds then 1 else 0) + if s.pending.isSome then 1 else 0

theorem readLexeme_end {file : Text} {size : Nat} {s : LexState} (none : s.pending = none)
    (ended : s.begin.rest = []) :
    readLexeme file size s =
      if s.breakEnds then emit s.begin .semicolon "\n" s.begin false else emit s.begin .eof [] s.begin false := by
  have found := peek_of_nil ended
  unfold readLexeme
  unfold LexState.begin LexState.skips at found ⊢
  simp only [none, found]
  rfl

/-- Every lexeme but the end leaves less to do. -/
theorem left_readLexeme {file : Text} {size : Nat} {s : LexState} (more : (readLexeme file size s).1.token ≠ .eof) :
    (readLexeme file size s).2.left < s.left := by
  have shorter : s.begin.rest.length ≤ s.reader.rest.length := (Reader.reaches_skipWhile _ s.reader).length_le
  cases pending : s.pending with
  | some o =>
    simp [readLexeme, pending, LexState.left]
  | none =>
    by_cases ended : s.begin.rest = []
    · rw [readLexeme_end pending ended] at more ⊢
      cases breakEnds : s.breakEnds with
      | false => simp [breakEnds, emit] at more
      | true =>
        have nothing : s.begin.rest.length = 0 := by simp [ended]
        simp only [LexState.left, emit, Reader.forget, breakEnds, pending, Option.isSome_none, Bool.false_eq_true,
          if_false, if_true]
        omega
    · obtain ⟨g, gs, rest⟩ := List.exists_cons_of_ne_nil ended
      have found : s.begin.peek = some g.char := by simp [Reader.peek, rest]
      rw [readLexeme_eq pending found]
      have read : ReadsOn s.begin (lexemeAt file size s.begin s.breakEnds g.char).1
          (lexemeAt file size s.begin s.breakEnds g.char).2 := readsOn_lexemeAt found
      obtain ⟨-, -, ⟨r, reaches, -, reader⟩, settled⟩ := read
      have less := length_rest_next ended reaches
      have one : (if (lexemeAt file size s.begin s.breakEnds g.char).2.breakEnds then 1 else 0) +
          (if (lexemeAt file size s.begin s.breakEnds g.char).2.pending.isSome then 1 else 0) ≤ 1 := by
        by_cases due : (lexemeAt file size s.begin s.breakEnds g.char).2.pending.isSome = true
        · simp [due, settled due]
        · simp only [if_neg due]
          split <;> simp
      unfold LexState.left
      rw [reader]
      simp only [Reader.forget]
      omega

/-- From a state, some lexemes are read, and another state is reached. -/
inductive Lexes (file : Text) (size : Nat) : LexState → List Lexeme → LexState → Prop
  | nil (s : LexState) : Lexes file size s [] s
  | cons {s s' : LexState} {ls : List Lexeme} (more : (readLexeme file size s).1.token ≠ .eof)
      (rest : Lexes file size (readLexeme file size s).2 ls s') :
      Lexes file size s ((readLexeme file size s).1 :: ls) s'

variable {file : Text} {size : Nat}

namespace Lexes

theorem append {s s' s'' : LexState} {ls ls' : List Lexeme} (h : Lexes file size s ls s')
    (h' : Lexes file size s' ls' s'') : Lexes file size s (ls ++ ls') s'' := by
  induction h with
  | nil => exact h'
  | cons more _ ih => exact .cons more (ih h')

theorem of_append {s s'' : LexState} {ls ls' : List Lexeme} (h : Lexes file size s (ls ++ ls') s'') :
    ∃ s', Lexes file size s ls s' ∧ Lexes file size s' ls' s'' := by
  induction ls generalizing s with
  | nil => exact ⟨s, .nil s, h⟩
  | cons l ls ih =>
    cases h with
    | cons more rest =>
      obtain ⟨s', first, last⟩ := ih rest
      exact ⟨s', .cons more first, last⟩

end Lexes

/-- **With enough fuel, the lexemes of a state are read up to the end.** -/
theorem lexFrom_spec (file : Text) (size : Nat) {fuel : Nat} {s : LexState} (enough : s.left < fuel) :
    ∃ ls s', Lexes file size s ls s' ∧ (readLexeme file size s').1.token = .eof ∧
      (lexFrom file size fuel s).1 = ls ++ [(readLexeme file size s').1] := by
  induction fuel generalizing s with
  | zero => exact absurd enough (Nat.not_lt_zero _)
  | succ fuel ih =>
    by_cases ended : (readLexeme file size s).1.token = .eof
    · exact ⟨[], s, .nil s, ended, by simp [lexFrom, ended]⟩
    · have less := left_readLexeme ended
      obtain ⟨ls, s', rest, eof, read⟩ := ih (Nat.lt_of_lt_of_le less (Nat.le_of_lt_succ enough))
      exact ⟨_ :: ls, s', .cons ended rest, eof, by simp [lexFrom, ended, read]⟩

/-- The lexemes of a state go on with those of any state that is reached. -/
theorem lexFrom_of_lexes {fuel : Nat} {s s' : LexState} {ls : List Lexeme} (enough : s.left < fuel)
    (h : Lexes file size s ls s') :
    ∃ fuel', s'.left < fuel' ∧ (lexFrom file size fuel s).1 = ls ++ (lexFrom file size fuel' s').1 := by
  induction h generalizing fuel with
  | nil => exact ⟨fuel, enough, rfl⟩
  | cons more _ ih =>
    obtain ⟨fuel, rfl⟩ := Nat.exists_eq_succ_of_ne_zero (Nat.ne_zero_of_lt enough)
    obtain ⟨fuel', enough', read⟩ := ih (Nat.lt_of_lt_of_le (left_readLexeme more) (Nat.le_of_lt_succ enough))
    exact ⟨fuel', enough', by simp [lexFrom, more, read]⟩

/-- The state at the start of a text. -/
def LexState.ofText (t : Text) : LexState := ⟨Reader.start t, false, none⟩

theorem left_ofText (t : Text) : (LexState.ofText t).left < 2 * (Reader.start t).rest.length + 3 := by
  simp [LexState.left, LexState.ofText]

theorem lex_eq (file t : Text) : (lex file t).1 = (lexFrom file t.length (2 * (Reader.start t).rest.length + 3)
    (LexState.ofText t)).1 := rfl

/-! ## Lexemes in a longer text -/

/-- The lexeme at an offset further on. -/
def Lexeme.shift (k : Nat) (l : Lexeme) : Lexeme := { l with offset := l.offset + k }

/-- The same state within a longer text. -/
structure LexState.Within (k : Nat) (post : List Glyph) (s t : LexState) : Prop where
  reader : Reader.Within k post s.reader t.reader
  breakEnds : t.breakEnds = s.breakEnds
  pending : t.pending = s.pending.map (· + k)

section Within

variable {k : Nat} {post : List Glyph} {start start' : Reader}

/-- A lexeme of a piece and one of the longer text that lead to places that are kept. -/
def KeptLexeme (post : List Glyph) (p q : Lexeme × LexState) : Prop :=
  (Closed post ∧ p.1.faults = []) ∨ (q.1.faults = [] ∧ post.length ≤ q.2.reader.rest.length)

theorem within_forget {r t : Reader} (h : Within k post r t) : Within k post r.forget t.forget :=
  ⟨h.rest, h.offset, h.line, rfl, rfl, h.solid⟩

theorem kept_of_emit {token token' : Token} {lit lit' : Text} {r t : Reader} {breakEnds breakEnds' : Bool}
    (kept : KeptLexeme post (emit start token lit r breakEnds) (emit start' token' lit' t breakEnds')) : Kept post r t := by
  simpa [KeptLexeme, Kept, emit, Reader.forget] using kept

theorem within_emit {token : Token} {lit : Text} {r t : Reader} {breakEnds : Bool} (hs : Within k post start start')
    (h : Within k post r t) :
    (emit start' token lit t breakEnds).1 = (emit start token lit r breakEnds).1.shift k ∧
      LexState.Within k post (emit start token lit r breakEnds).2 (emit start' token lit t breakEnds).2 := by
  refine ⟨?_, within_forget h, rfl, rfl⟩
  simp [emit, Lexeme.shift, hs.offset, h.fresh, h.clean]

/-- A question about the second character has the same answer, unless the answer changes with a delimiter or leads on
behind the piece. -/
theorem peek2_congr {α : Type} (h : Within k post start start') (more : start.rest ≠ []) (f : Option Char → α) {room : Nat}
    (kept : Closed post ∨ post.length ≤ room) (same : ∀ c ∈ delimiters, f (some c) = f none)
    (onward : f start'.peek2 ≠ f none → room + 1 < start'.rest.length) : f start'.peek2 = f start.peek2 := by
  obtain ⟨g, gs, rest⟩ := List.exists_cons_of_ne_nil more
  have rest' := h.exists_cons rest
  cases gs with
  | cons g' gs =>
    rw [Reader.peek2, Reader.peek2, rest, rest']
    rfl
  | nil =>
    have none : start.peek2 = none := by rw [Reader.peek2, rest]; rfl
    have second : start'.peek2 = post.head?.map (·.char) := by
      rw [Reader.peek2, rest']
      cases post <;> rfl
    rw [none]
    rcases kept with closed | enough
    · rw [second]
      cases found : post.head? with
      | none => rfl
      | some d => exact same d.char (closed d found)
    · refine Classical.byContradiction fun differ => ?_
      have further := onward differ
      rw [rest', List.nil_append, List.length_cons] at further
      omega

/-- Characters that are no delimiters start a text within a longer one when they start the text. -/
theorem isPrefixOf_append (closed : Closed post) (cs : List Char) (plain : ∀ c ∈ cs, c ∉ delimiters) (gs : List Glyph)
    (n : Nat) : cs.isPrefixOf (((gs ++ post).take n).map (·.char)) = cs.isPrefixOf ((gs.take n).map (·.char)) := by
  induction cs generalizing gs n with
  | nil => rfl
  | cons c cs ih =>
    cases n with
    | zero => rfl
    | succ n =>
      cases gs with
      | cons g gs =>
        simp only [List.cons_append, List.take_succ_cons, List.map_cons, List.isPrefixOf_cons_cons]
        rw [ih (fun c' hc' => plain c' (by simp [hc'])) gs n]
      | nil =>
        cases post with
        | nil => rfl
        | cons d ds =>
          have other : c ≠ d.char := fun same => plain c (by simp) (same ▸ closed d rfl)
          simp [List.isPrefixOf_cons_cons, other]

/-- An operator that ends in the piece starts there. -/
theorem isPrefixOf_of_length {cs : List Char} {gs : List Glyph} {n : Nat}
    (begins : cs.isPrefixOf (((gs ++ post).take n).map (·.char)) = true) (fits : cs.length ≤ gs.length) :
    cs.isPrefixOf ((gs.take n).map (·.char)) = true := by
  rw [List.isPrefixOf_iff_prefix] at begins ⊢
  have short : cs.length ≤ n := by
    have length := begins.length_le
    rw [List.length_map, List.length_take] at length
    omega
  refine List.prefix_of_prefix_length_le begins ?_ (by rw [List.length_map, List.length_take]; omega)
  rw [List.take_append]
  simp

theorem isPrefixOf_mono {cs : List Char} {gs : List Glyph} {n : Nat}
    (begins : cs.isPrefixOf ((gs.take n).map (·.char)) = true) :
    cs.isPrefixOf (((gs ++ post).take n).map (·.char)) = true := by
  rw [List.isPrefixOf_iff_prefix] at begins ⊢
  refine begins.trans ?_
  rw [List.take_append]
  simp

/-- The same operator stands at the place, if it does not lead on behind the piece. -/
theorem operatorAt?_eq (h : Within k post start start') (more : start.rest ≠ [])
    (kept : Closed post ∨ ∀ cs token, operatorAt? start' = some (cs, token) → cs.length ≤ start.rest.length) :
    operatorAt? start' = operatorAt? start := by
  rcases kept with closed | fits
  · have tails : ∀ p ∈ operators, p.1 ≠ [] ∧ ∀ c ∈ p.1.tail, c ∉ delimiters := by decide
    obtain ⟨g, gs, rest⟩ := List.exists_cons_of_ne_nil more
    have rest' := h.exists_cons rest
    unfold operatorAt?
    rw [rest, rest']
    dsimp only
    rw [← List.head?_filter, ← List.head?_filter]
    refine congrArg List.head? (List.filter_congr fun p hp => ?_)
    obtain ⟨some_char, plain⟩ := tails p hp
    obtain ⟨c, cs, shape⟩ := List.exists_cons_of_ne_nil some_char
    rw [shape, List.tail_cons] at plain
    rw [shape]
    simp only [List.take_succ_cons, List.map_cons, List.isPrefixOf_cons_cons]
    rw [isPrefixOf_append closed cs plain gs 2]
  · cases found : operatorAt? start' with
    | none =>
      unfold operatorAt? at found ⊢
      rw [h.rest, List.find?_eq_none] at found
      exact (List.find?_eq_none.2 fun p hp begins => found p hp (isPrefixOf_mono begins)).symm
    | some p =>
      have fits := fits p.1 p.2 found
      unfold operatorAt? at found ⊢
      rw [h.rest, List.find?_eq_some_iff_append] at found
      obtain ⟨begins, before, after, split, first⟩ := found
      symm
      rw [List.find?_eq_some_iff_append]
      refine ⟨isPrefixOf_of_length begins fits, before, after, split, fun q hq => ?_⟩
      have other := first q hq
      rw [Bool.not_eq_true'] at other ⊢
      rw [← Bool.not_eq_true] at other ⊢
      exact fun begins => other (isPrefixOf_mono begins)

theorem peek_next (r : Reader) : r.next.peek = r.peek2 := by
  rw [Reader.peek, Reader.peek2, Reader.rest_next, ← List.head?_drop, List.drop_one]

/-- A comment goes on behind its second character. -/
theorem reaches_next_readComment (file : Text) (size : Nat) (start : Reader) {r : Reader}
    (second : r.peek = some '/' ∨ r.peek = some '*') : Reaches r.next (readComment file size start r).2.1 := by
  rw [readComment_eq]
  refine Reaches.trans ?_ (reaches_noteDirective _ _ _ _ _ _ _ _)
  refine Reaches.trans ?_ (reaches_checkClosed _ _)
  unfold commentEnd
  split
  · exact reaches_skipBlock _ _
  · next line =>
    rcases second with slash | star
    · exact reaches_skipWhile_next (p := (· != '\n')) slash (by decide)
    · exact absurd (beq_iff_eq.2 star) line

theorem reader_emitComment (file : Text) (size : Nat) (start : Reader) (breakEnds : Bool) :
    (emitComment file size start breakEnds).2.reader = (readComment file size start start.next).2.1.forget := by
  unfold emitComment
  dsimp only
  split <;> rfl

theorem within_emitComment (h : Within k post start start') (more : start.rest ≠ []) {file file' : Text}
    {size size' : Nat} {breakEnds : Bool} (behind : 0 < start.offset)
    (broken : Broken post (emitComment file size start breakEnds).2.reader
      (emitComment file' size' start' breakEnds).2.reader)
    (kept : KeptLexeme post (emitComment file size start breakEnds) (emitComment file' size' start' breakEnds)) :
    (emitComment file' size' start' breakEnds).1 = (emitComment file size start breakEnds).1.shift k ∧
      LexState.Within k post (emitComment file size start breakEnds).2 (emitComment file' size' start' breakEnds).2 := by
  have kept' : Kept post (readComment file size start start.next).2.1 (readComment file' size' start' start'.next).2.1 := by
    unfold KeptLexeme at kept
    rw [reader_emitComment] at kept
    simpa [emitComment, Kept, Reader.forget] using kept
  have second := h.next more (kept'.back (reaches_readComment _ _ _ _) (reaches_readComment _ _ _ _))
  rw [reader_emitComment, reader_emitComment] at broken
  obtain ⟨lit, stop, lineBreak⟩ := within_readComment h (.inl behind) (reaches_next _) second broken kept'
  unfold emitComment
  dsimp only
  rw [lit, lineBreak]
  refine ⟨by simp [Lexeme.shift, h.offset, stop.fresh, stop.clean], ?_⟩
  generalize (readComment file size start start.next).2.2 = due
  cases due <;> cases breakEnds <;> exact ⟨within_forget stop, rfl, rfl⟩

theorem within_emitIllegal (h : Within k post start start') (more : start.rest ≠ []) {c : Char} {breakEnds : Bool}
    (kept : KeptLexeme post (emitIllegal start c breakEnds) (emitIllegal start' c breakEnds)) :
    (emitIllegal start' c breakEnds).1 = (emitIllegal start c breakEnds).1.shift k ∧
      LexState.Within k post (emitIllegal start c breakEnds).2 (emitIllegal start' c breakEnds).2 := by
  unfold emitIllegal at kept ⊢
  dsimp only at kept ⊢
  replace kept := kept_of_emit kept
  split at kept
  · next mark =>
    rw [if_pos mark, if_pos mark]
    exact within_emit h (h.next more kept)
  · -- any other character is a fault
    split at kept <;> exact absurd kept Kept.not_fault

/-- The operator at a place, or the character there that cannot be read. -/
def operatorLexeme (start : Reader) (breakEnds : Bool) (c : Char) : Lexeme × LexState :=
  match operatorAt? start with
  | some (cs, token) =>
    emit start token (if token == .semicolon then text ";" else []) (start.advance cs.length) token.endsStatement
  | none => emitIllegal start c breakEnds

theorem within_operatorLexeme (h : Within k post start start') (more : start.rest ≠ []) {c : Char} {breakEnds : Bool}
    (kept : KeptLexeme post (operatorLexeme start breakEnds c) (operatorLexeme start' breakEnds c)) :
    (operatorLexeme start' breakEnds c).1 = (operatorLexeme start breakEnds c).1.shift k ∧
      LexState.Within k post (operatorLexeme start breakEnds c).2 (operatorLexeme start' breakEnds c).2 := by
  have same : operatorAt? start' = operatorAt? start := by
    refine operatorAt?_eq h more (kept.imp And.left fun ⟨_, room⟩ cs token found => ?_)
    have inside := (operatorAt?_eq_some found).2
    rw [operatorLexeme, found] at room
    dsimp only [emit, Reader.forget] at room
    rw [Reader.rest_advance, List.length_drop] at room
    rw [h.rest, List.length_append] at room inside
    omega
  unfold operatorLexeme at kept ⊢
  rw [same] at kept ⊢
  cases operator : operatorAt? start with
  | none =>
    rw [operator] at kept
    exact within_emitIllegal h more kept
  | some p =>
    rw [operator] at kept
    exact within_emit h (h.advance (operatorAt?_eq_some operator).2 (kept_of_emit kept))

theorem reaches_readNumber_of_point {start : Reader} (point : start.peek = some '.')
    (digit : start.peek2.any (·.isDigit) = true) : Reaches start.next.next (readNumber start).2.2 := by
  obtain ⟨c, second, digit⟩ := (Option.any_eq_true _ _).1 digit
  have at_point : start.at' '.' = true := beq_iff_eq.2 point
  have integer : integerPart start = (.decimal, ⟨start, false, false, none⟩) := by rw [integerPart, if_pos at_point]
  have whole : Reaches start.next.next (wholePart (integerPart start).1 (integerPart start).2).stop := by
    rw [integer, wholePart, if_pos at_point]
    exact reaches_next_readDigits ((peek_next start).trans second) digit
  rw [readNumber_eq]
  exact whole.trans <| (reaches_mantissaEnd _ _).trans <| (reaches_exponentPart _ _ _ _).trans <|
    (reaches_numberEnd _ _).trans <| (reaches_noteInvalid _ _ _ _ _ _).trans <| reaches_noteUnderscore _ _ _ _

/-- **A lexeme is read the same way within a longer text**, if it leads to places that are kept. A comment must not go on
there, and must not start the piece. -/
theorem within_lexemeAt (h : Within k post start start') {c : Char} (found : start.peek = some c) {file file' : Text}
    {size size' : Nat} {breakEnds : Bool}
    (comment : (lexemeAt file size start breakEnds c).1.token = .comment →
      (lexemeAt file' size' start' breakEnds c).1.token = .comment →
        0 < start.offset ∧ Broken post (lexemeAt file size start breakEnds c).2.reader
          (lexemeAt file' size' start' breakEnds c).2.reader)
    (kept : KeptLexeme post (lexemeAt file size start breakEnds c) (lexemeAt file' size' start' breakEnds c)) :
    (lexemeAt file' size' start' breakEnds c).1 = (lexemeAt file size start breakEnds c).1.shift k ∧
      LexState.Within k post (lexemeAt file size start breakEnds c).2 (lexemeAt file' size' start' breakEnds c).2 := by
  have more := ne_nil_of_peek found
  have more' : start'.rest ≠ [] := by simp [h.rest, more]
  have found' : start'.peek = some c := (h.peek more).trans found
  have longer (r : Reader) (more : r.rest ≠ []) : r.next.rest.length < r.rest.length + 1 :=
    Nat.lt_succ_of_lt (length_rest_next more (.refl _))
  have two {r : Reader} (reaches : Reaches start'.next.next r) (second : start'.next.rest ≠ []) :
      r.rest.length + 1 < start'.rest.length :=
    Nat.lt_of_le_of_lt (Nat.succ_le_of_lt (length_rest_next second reaches)) (length_rest_next more' (.refl _))
  unfold lexemeAt at comment kept ⊢
  split at kept
  · next word =>
    rw [if_pos word, if_pos word]
    dsimp only at kept ⊢
    have stop := h.skipWhile (kept_of_emit kept) (fun closed _ => .inl (closed.head? (by decide))) (.refl _) (.refl _)
    rw [h.between stop (Reader.reaches_skipWhile _ _)]
    exact within_emit h stop
  · next notWord =>
    rw [if_neg notWord, if_neg notWord] at comment ⊢
    have digit : (c.isDigit || (c == '.' && start'.peek2.any (·.isDigit))) =
        (c.isDigit || (c == '.' && start.peek2.any (·.isDigit))) := by
      by_cases point : c = '.'
      · subst point
        rw [peek2_congr h more (fun c => c.any (·.isDigit)) (kept.imp And.left And.right) (by decide) fun digit => ?_]
        have digit : start'.peek2.any (·.isDigit) = true := by simpa using digit
        rw [if_pos (by simp [digit])]
        refine two (r := (readNumber start').2.2) (reaches_readNumber_of_point found' digit) fun ended => ?_
        rw [← peek_next, peek_of_nil ended] at digit
        cases digit
      · rw [beq_false_of_ne point, Bool.false_and, Bool.false_and]
    rw [digit] at comment kept ⊢
    split at kept
    · next number =>
      rw [if_pos number, if_pos number]
      obtain ⟨token, lit, stop⟩ := within_readNumber h more (kept_of_emit kept)
      rw [token, lit]
      exact within_emit h stop
    · next notNumber =>
      rw [if_neg notNumber, if_neg notNumber] at comment ⊢
      split at kept
      · exact within_emit h (h.next more (kept_of_emit kept))
      · replace kept := kept_of_emit kept
        have stop := within_skipString _ _
          (h.next more (kept.back (reaches_skipString _ _ _) (reaches_skipString _ _ _)))
          (longer start more) (longer start' more') kept
        dsimp only
        rw [h.between stop ((reaches_next _).trans (reaches_skipString _ _ _))]
        exact within_emit h stop
      · replace kept := kept_of_emit kept
        have stop := within_skipRune _ _
          (h.next more (kept.back (reaches_skipRune _ _ _ _ _) (reaches_skipRune _ _ _ _ _)))
          (longer start more) (longer start' more') 0 kept
        dsimp only
        rw [h.between stop ((reaches_next _).trans (reaches_skipRune _ _ _ _ _))]
        exact within_emit h stop
      · replace kept := kept_of_emit kept
        have stop := within_skipRawString
          (h.next more (kept.back (reaches_skipRawString _ _) (reaches_skipRawString _ _))) kept
        dsimp only
        rw [h.between stop ((reaches_next _).trans (reaches_skipRawString _ _))]
        exact within_emit h stop
      · by_cases first : c = '/'
        · subst first
          dsimp only at comment ⊢
          have slash : (start'.peek2 == some '/' || start'.peek2 == some '*') =
              (start.peek2 == some '/' || start.peek2 == some '*') := by
            refine peek2_congr h more (fun c => c == some '/' || c == some '*') (kept.imp And.left And.right) (by decide)
              fun second => ?_
            have marked : (start'.peek2 == some '/' || start'.peek2 == some '*') = true := Bool.of_not_eq_false second
            have second : start'.next.peek = some '/' ∨ start'.next.peek = some '*' := by
              rw [peek_next]
              simpa using marked
            rw [if_pos (by rw [marked]; rfl), reader_emitComment]
            exact two (r := (readComment file' size' start' start'.next).2.1) (reaches_next_readComment _ _ _ second)
              (second.elim ne_nil_of_peek ne_nil_of_peek)
          rw [slash] at comment kept ⊢
          split at kept
          · next commented =>
            rw [if_pos commented, if_pos commented] at comment ⊢
            obtain ⟨behind, broken⟩ := comment rfl rfl
            exact within_emitComment h more behind broken kept
          · next notComment =>
            rw [if_neg notComment, if_neg notComment]
            exact within_operatorLexeme h more kept
        · have other {second : Bool} : ¬(c == '/' && second) = true := by simp [first]
          rw [if_neg other, if_neg other] at kept ⊢
          exact within_operatorLexeme h more kept

end Within

end DocAccessors.Source
