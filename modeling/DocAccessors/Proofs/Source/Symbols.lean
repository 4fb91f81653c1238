import DocAccessors.Proofs.Source.StringLiteral

/-!
# Texts as sequences of symbols

What the grammar sees of a text: its tokens with their spellings, and the semicolons that line breaks stand for.

* `symbols ls`: the symbols of the lexemes `ls`;
* `Leads file size s xs s'`: behind the state `s` the symbols `xs` are read, and then whatever is read from the state `s'`;
* `Spells p xs`: wherever `p` stands before a delimiter, it is read as the symbols `xs`;
* `WholeTokens.spells`: a text of whole tokens is read as the symbols that it is read as on its own;
* `Item.ofLexemes_spec`: the items of a file are its lexemes without the comments;
* `Item.ofLexemes_symbols`, `Item.dropComments_symbols`: the items of a text are its symbols, whatever comments stand
  between them.
-/

namespace DocAccessors.Source

open DocAccessors.Text (Glyph glyphs)
open OptionList (isSignificant tokenLength)
open Reader (Reaches reaches_next)

/-! ## Symbols -/

/-- What the grammar sees of a lexeme. -/
abbrev Symbol := Token × Text

/-- A lexeme as the grammar sees it. -/
def Lexeme.symbol (l : Lexeme) : Symbol := (l.token, l.lit)

/-- The lexemes as the grammar sees them. -/
def symbols (ls : List Lexeme) : List Symbol := (ls.filter (·.token != .comment)).map Lexeme.symbol

@[simp]
theorem symbols_nil : symbols [] = [] := rfl

@[simp]
theorem symbols_append (ls ms : List Lexeme) : symbols (ls ++ ms) = symbols ls ++ symbols ms := by simp [symbols]

theorem symbols_cons {l : Lexeme} (token : l.token ≠ .comment) (ls : List Lexeme) :
    symbols (l :: ls) = l.symbol :: symbols ls := by simp [symbols, token]

@[simp]
theorem symbols_shift (k : Nat) (ls : List Lexeme) : symbols (ls.map (·.shift k)) = symbols ls := by
  simp only [symbols, List.filter_map, List.map_map]
  rfl

/-- Whether a line break behind the symbols is a semicolon. -/
def endsStatement (xs : List Symbol) : Bool := xs.getLast?.any (·.1.endsStatement)

/-! ## All lexemes from a state on -/

variable {file : Text} {size : Nat} {s s' s'' : LexState}

/-- How much there is to do does not matter, if it is enough. -/
theorem lexFrom_congr {n m : Nat} (enough : s.left < n) (enough' : s.left < m) :
    (lexFrom file size n s).1 = (lexFrom file size m s).1 := by
  induction n generalizing m s with
  | zero => exact absurd enough (Nat.not_lt_zero _)
  | succ n ih =>
    obtain ⟨m, rfl⟩ := Nat.exists_eq_succ_of_ne_zero (Nat.ne_zero_of_lt enough')
    by_cases ended : (readLexeme file size s).1.token = .eof
    · simp [lexFrom, ended]
    · have less := left_readLexeme ended
      simp [lexFrom, ended, ih (s := (readLexeme file size s).2) (m := m) (by omega) (by omega)]

/-- The lexemes from a state on, up to the end. -/
def LexState.lexemes (file : Text) (size : Nat) (s : LexState) : List Lexeme := (lexFrom file size (s.left + 1) s).1

theorem lex_eq_lexemes (file t : Text) : (lex file t).1 = (LexState.ofText t).lexemes file t.length :=
  lexFrom_congr (left_ofText t) (Nat.lt_succ_self _)

theorem lexemes_of_eof (ended : (readLexeme file size s).1.token = .eof) :
    s.lexemes file size = [(readLexeme file size s).1] := by
  simp [LexState.lexemes, lexFrom, ended]

theorem lexemes_of_more (more : (readLexeme file size s).1.token ≠ .eof) :
    s.lexemes file size = (readLexeme file size s).1 :: (readLexeme file size s).2.lexemes file size := by
  have less := left_readLexeme more
  have rest : (lexFrom file size s.left (readLexeme file size s).2).1 = _ := lexFrom_congr less (Nat.lt_succ_self _)
  simp [LexState.lexemes, lexFrom, more, rest]

theorem Lexes.lexemes_eq {ls : List Lexeme} (h : Lexes file size s ls s') :
    s.lexemes file size = ls ++ s'.lexemes file size := by
  induction h with
  | nil => rfl
  | cons more _ ih => rw [lexemes_of_more more, ih, List.cons_append]

theorem Lexes.more {ls : List Lexeme} (h : Lexes file size s ls s') : ∀ l ∈ ls, l.token ≠ .eof := by
  induction h with
  | nil => simp
  | cons more _ ih => exact List.forall_mem_cons.2 ⟨more, ih⟩

/-- The first lexeme decides what is read. -/
theorem lexemes_congr (same : readLexeme file size s = readLexeme file size s') :
    s.lexemes file size = s'.lexemes file size := by
  by_cases ended : (readLexeme file size s').1.token = .eof
  · rw [lexemes_of_eof ended, lexemes_of_eof (same ▸ ended), same]
  · rw [lexemes_of_more ended, lexemes_of_more (s := s) (same ▸ ended), same]

/-- Behind the state `s`, the symbols `xs` are read without faults, and then whatever is read from the state `s'`. -/
def Leads (file : Text) (size : Nat) (s : LexState) (xs : List Symbol) (s' : LexState) : Prop :=
  ∃ ls, s.lexemes file size = ls ++ s'.lexemes file size ∧ symbols ls = xs ∧ ∀ l ∈ ls, l.faults = []

namespace Leads

theorem of_lexes {ls : List Lexeme} (h : Lexes file size s ls s') (clean : ∀ l ∈ ls, l.faults = []) :
    Leads file size s (symbols ls) s' := ⟨ls, h.lexemes_eq, rfl, clean⟩

theorem of_readLexeme {l : Lexeme} (read : readLexeme file size s = (l, s')) (more : l.token ≠ .eof) (clean : l.faults = []) :
    Leads file size s (symbols [l]) s' := by
  refine ⟨[l], ?_, rfl, by simp [clean]⟩
  rw [lexemes_of_more (by rw [read]; exact more), read]
  rfl

theorem of_same (same : readLexeme file size s = readLexeme file size s') : Leads file size s [] s' :=
  ⟨[], by rw [lexemes_congr same, List.nil_append], rfl, by simp⟩

theorem trans {xs ys : List Symbol} (h : Leads file size s xs s') (h' : Leads file size s' ys s'') :
    Leads file size s (xs ++ ys) s'' := by
  obtain ⟨ls, split, rfl, clean⟩ := h
  obtain ⟨ms, split', rfl, clean'⟩ := h'
  refine ⟨ls ++ ms, by rw [split, split', List.append_assoc], symbols_append ls ms, ?_⟩
  exact fun l hl => (List.mem_append.1 hl).elim (clean l) (clean' l)

end Leads

/-! ## Texts of whole tokens -/

/-- Wherever the text stands before a delimiter, it is read as the given symbols. -/
structure Spells (p : Text) (xs : List Symbol) : Prop where
  head : ∃ g gs, glyphs p = g :: gs ∧ ∀ o, Reader.glyphFault? o g = none
  some_symbol : xs ≠ []
  leads : ∀ (file : Text) (size : Nat) {post : Text} {k : Nat} {s : LexState}, Ended post → s.Stands k (p ++ post) →
    ∃ s', Leads file size s xs s' ∧ s'.Stands (k + p.length) post ∧ s'.breakEnds = endsStatement xs

/-- What a line break is read as. -/
def lineEnd : Symbol := (Token.semicolon, text "\n")

/-- What the end of a text is read as, which may be a semicolon before it. -/
def ending (breakEnds : Bool) : List Symbol := (if breakEnds then [lineEnd] else []) ++ [(Token.eof, [])]

variable (file size) in
/-- At the end of a text there is nothing more to read than the end. -/
theorem LexState.Stands.ending {k : Nat} (h : s.Stands k []) :
    symbols (s.lexemes file size) = ending s.breakEnds ∧ ∀ l ∈ s.lexemes file size, l.faults = [] := by
  have at_end {t : LexState} (rest : t.reader.rest = []) : t.begin.rest = [] := begin_of_rest rest
  have begin {t : LexState} (rest : t.reader.rest = []) : t.begin = t.reader := by
    unfold LexState.begin Reader.skipWhile
    rw [rest]
    rfl
  have rest : s.reader.rest = [] := h.rest
  have read : readLexeme file size s = _ := readLexeme_end h.pending (at_end rest)
  rw [begin rest] at read
  cases breakEnds : s.breakEnds with
  | false =>
    rw [breakEnds, if_neg (by simp)] at read
    rw [lexemes_of_eof (by rw [read]; rfl), read]
    exact ⟨rfl, by simp [emit, h.clean]⟩
  | true =>
    rw [breakEnds, if_pos rfl] at read
    have rest' : (LexState.mk s.reader.forget false none).reader.rest = [] := rest
    have last : readLexeme file size (LexState.mk s.reader.forget false none) = _ := readLexeme_end rfl (at_end rest')
    rw [begin rest', if_neg (by simp)] at last
    rw [lexemes_of_more (by rw [read]; simp [emit]), read]
    have next : (emit s.reader .semicolon (text "\n") s.reader false).2 = ⟨s.reader.forget, false, none⟩ := rfl
    rw [next, lexemes_of_eof (by rw [last]; rfl), last]
    exact ⟨rfl, by simp [emit, h.clean, Reader.forget]⟩

/-- The symbols that a text is read as on its own, up to its end. -/
def symbolsOf (t : Text) : List Symbol :=
  let xs := (symbols (lex [] t).1).dropLast
  if xs.getLast? = some lineEnd then xs.dropLast else xs

namespace Part

variable {p : Text} {part : List Lexeme}

/-- The last symbol is that of a token. -/
theorem exists_last (h : Part p part) :
    ∃ xs l, symbols part = xs ++ [l.symbol] ∧ part.getLast? = some l ∧ l.symbol ≠ lineEnd := by
  obtain ⟨first, rest, split, -⟩ := h.first
  obtain ⟨ls, l, rfl⟩ := (List.eq_nil_or_concat' part).resolve_left (by simp [split])
  have significant := h.last l (by simp)
  refine ⟨symbols ls, l, ?_, by simp, fun same => ?_⟩
  · rw [symbols_append, symbols_cons (notComment_of_significant significant), symbols_nil]
  · obtain ⟨token, lit⟩ : l.token = .semicolon ∧ l.lit = text "\n" := Prod.mk.inj same
    simp [isSignificant, token, lit] at significant

theorem endsStatement_eq (h : Part p part) : part.getLast?.any (·.token.endsStatement) = endsStatement (symbols part) := by
  obtain ⟨xs, l, split, last, -⟩ := h.exists_last
  rw [split, last, endsStatement, List.getLast?_concat]
  rfl

theorem symbols_lex (h : Part p part) :
    symbols (lex [] p).1 = symbols part ++ ending (endsStatement (symbols part)) ∧ symbols part = symbolsOf p ∧
      ∀ l ∈ (lex [] p).1, l.faults = [] := by
  obtain ⟨s, read, stands, breakEnds⟩ := h.alone
  obtain ⟨ended, clean⟩ := stands.ending [] p.length
  have all : symbols (lex [] p).1 = symbols part ++ ending (endsStatement (symbols part)) := by
    rw [lex_eq_lexemes, read.lexemes_eq, symbols_append, ended, breakEnds, h.endsStatement_eq]
  refine ⟨all, ?_, ?_⟩
  · unfold symbolsOf
    rw [all]
    cases ends : endsStatement (symbols part) with
    | false =>
      obtain ⟨xs, l, split, -, other⟩ := h.exists_last
      simp [ending, split, other]
    | true => simp [ending]
  · rw [lex_eq_lexemes, read.lexemes_eq]
    exact fun l hl => (List.mem_append.1 hl).elim (h.clean l) (clean l)

end Part

namespace WholeTokens

variable {p : Text}

/-- On its own, a text of whole tokens is read as its symbols. -/
theorem symbols_lex (h : WholeTokens p) : symbols (lex [] p).1 = symbolsOf p ++ ending (endsStatement (symbolsOf p)) := by
  obtain ⟨part, whole⟩ := h.exists_part
  obtain ⟨all, same, -⟩ := whole.symbols_lex
  rw [all, same]

theorem symbolsOf_spec (h : WholeTokens p) :
    symbolsOf p ≠ [] ∧ (∀ x ∈ symbolsOf p, x.1 ≠ .eof) ∧ ∀ x ∈ (symbolsOf p).getLast?, x ≠ lineEnd := by
  obtain ⟨part, whole⟩ := h.exists_part
  obtain ⟨xs, l, split, -, other⟩ := whole.exists_last
  obtain ⟨s, read, -⟩ := whole.alone
  rw [← whole.symbols_lex.2.1]
  refine ⟨by simp [split], fun x hx => ?_, by simpa [split] using other⟩
  obtain ⟨l, hl, rfl⟩ := List.mem_map.1 hx
  exact read.more l (List.mem_filter.1 hl).1

/-- **A text of whole tokens is read as its symbols wherever it stands.** -/
theorem spells (h : WholeTokens p) : Spells p (symbolsOf p) := by
  obtain ⟨part, whole⟩ := h.exists_part
  obtain ⟨-, g, gs, glyphs_eq, -, fine⟩ := h.start
  refine ⟨⟨g, gs, glyphs_eq, fine⟩, h.symbolsOf_spec.1, fun file size {post k s} ended stands => ?_⟩
  obtain ⟨s', lexes, stands', breakEnds⟩ := whole.within file size ended stands
  rw [← whole.symbols_lex.2.1]
  refine ⟨s', ?_, stands', breakEnds.trans whole.endsStatement_eq⟩
  have leads := Leads.of_lexes lexes fun l hl => by
    obtain ⟨m, hm, rfl⟩ := List.mem_map.1 hl
    exact whole.clean m hm
  rwa [symbols_shift] at leads

/-- A text of one token has its symbol. -/
theorem symbolsOf_eq (h : WholeTokens p) {l : Lexeme} (one : tokensOf p = [l]) : symbolsOf p = [l.symbol] := by
  obtain ⟨part, whole⟩ := h.exists_part
  obtain ⟨first, rest, rfl, significant⟩ := whole.first
  have tokens := whole.tokens
  rw [one, List.filter_cons_of_pos significant] at tokens
  obtain ⟨rfl, none⟩ := List.cons_eq_cons.1 tokens
  have alone : rest = [] := by
    rcases List.eq_nil_or_concat' rest with rfl | ⟨ls, last, rfl⟩
    · rfl
    · have last_one := whole.last last (by rw [← List.cons_append, List.getLast?_concat]; rfl)
      have among := List.filter_eq_nil_iff.1 none last (by simp)
      exact absurd last_one among
  rw [← whole.symbols_lex.2.1, alone, symbols_cons (notComment_of_significant significant)]
  rfl

end WholeTokens

theorem symbolsOf_quote (t : Text) : WholeTokens (Text.quote t) ∧ symbolsOf (Text.quote t) = [(Token.string, Text.quote t)] := by
  obtain ⟨tokens, clean⟩ := (reads_quote t).lex_eq (b := 34) rfl (by decide) []
  have whole : WholeTokens (Text.quote t) := by
    refine ⟨clean, by rw [tokensOf, tokens]; rfl, ?_⟩
    rw [tokensOf, tokens]
    have some_byte : Text.quote t ≠ [] := (reads_quote t).ne_nil
    simp [tokenLength, some_byte]
  exact ⟨whole, whole.symbolsOf_eq tokens⟩

/-! ## Items -/

/-- What an item has of a lexeme. -/
def Lexeme.core (l : Lexeme) : Lexeme := { l with faults := [] }

namespace Item

def core (i : Item) : Lexeme := ⟨i.offset, i.token, i.lit, []⟩

/-- An item as the grammar sees it. -/
def symbol (i : Item) : Symbol := (i.token, i.lit)

variable (lineOf : Nat → Int)

/-- Comments in front are taken off with their faults. -/
theorem takeGroup_spec (gap : Nat) (endLine : Int) (ls : List Lexeme) :
    ∃ dropped, ls = dropped ++ (takeGroup lineOf gap endLine ls).2.2.2 ∧ (∀ l ∈ dropped, l.token = .comment) ∧
      (takeGroup lineOf gap endLine ls).2.2.1 = dropped.flatMap Lexeme.faults := by
  induction ls generalizing endLine with
  | nil => exact ⟨[], rfl, by simp, rfl⟩
  | cons l ls ih =>
    unfold takeGroup
    split
    · next goesOn =>
      rw [Bool.and_eq_true, beq_iff_eq] at goesOn
      obtain ⟨dropped, split, comments, faults⟩ := ih (lineOf l.offset + lineBreaks l.lit)
      refine ⟨l :: dropped, congrArg (l :: ·) split, List.forall_mem_cons.2 ⟨goesOn.1, comments⟩, ?_⟩
      rw [List.flatMap_cons, ← faults]
    · exact ⟨[], rfl, by simp, rfl⟩

/-- All comments in front are taken off with their faults. -/
theorem takeGroups_spec {fuel : Nat} {ls : List Lexeme} (enough : ls.length ≤ fuel) :
    ∃ dropped, ls = dropped ++ (takeGroups lineOf fuel ls).2.2.2 ∧ (∀ l ∈ dropped, l.token = .comment) ∧
      (takeGroups lineOf fuel ls).2.2.1 = dropped.flatMap Lexeme.faults ∧
      ∀ l ∈ (takeGroups lineOf fuel ls).2.2.2.head?, l.token ≠ .comment := by
  induction fuel generalizing ls with
  | zero =>
    obtain rfl := List.eq_nil_of_length_eq_zero (Nat.le_zero.1 enough)
    exact ⟨[], rfl, by simp, rfl, by simp [takeGroups]⟩
  | succ fuel ih =>
    unfold takeGroups
    split
    · next l rest =>
      split
      · next comment =>
        obtain ⟨dropped, split, comments, faults⟩ := takeGroup_spec lineOf 1 (lineOf l.offset) (l :: rest)
        have shorter : (takeGroup lineOf 1 (lineOf l.offset) (l :: rest)).2.2.2.length ≤ rest.length := by
          unfold takeGroup
          rw [if_pos (by simp [comment])]
          obtain ⟨more, split', -⟩ := takeGroup_spec lineOf 1 (lineOf l.offset + lineBreaks l.lit) rest
          conv_rhs => rw [split', List.length_append]
          exact Nat.le_add_left _ _
        obtain ⟨dropped', split', comments', faults', first⟩ := ih (Nat.le_trans shorter (Nat.le_of_succ_le_succ enough))
        refine ⟨dropped ++ dropped', ?_, fun l hl => (List.mem_append.1 hl).elim (comments l) (comments' l), ?_, first⟩
        · dsimp only
          rw [List.append_assoc, ← split', ← split]
        · dsimp only
          rw [faults, faults', List.flatMap_append]
      · next notComment => exact ⟨[], rfl, by simp, rfl, by simpa using notComment⟩
    · exact ⟨[], rfl, by simp, rfl, by simp⟩

/-- The next item is the first lexeme that is no comment, with the faults up to it. -/
theorem take?_spec (prevLine : Int) {last : Lexeme} (closed : last.token ≠ .comment) (ls : List Lexeme) :
    ∃ i groups dropped t rest, take? lineOf prevLine (ls ++ [last]) = some (i, groups, rest) ∧
      ls ++ [last] = dropped ++ t :: rest ∧ (∀ l ∈ dropped, l.token = .comment) ∧ t.token ≠ .comment ∧
      i.core = t.core ∧ i.faults = dropped.flatMap Lexeme.faults ++ t.faults := by
  have some_left {dropped rest : List Lexeme} (split : ls ++ [last] = dropped ++ rest)
      (comments : ∀ l ∈ dropped, l.token = .comment) : rest ≠ [] := by
    rintro rfl
    rw [List.append_nil] at split
    exact closed (comments last (split ▸ List.mem_concat_self))
  obtain ⟨l, more, all⟩ := List.exists_cons_of_ne_nil (List.concat_ne_nil last ls)
  rw [all] at some_left ⊢
  unfold take?
  dsimp only
  split
  · next notComment => exact ⟨_, _, [], l, more, rfl, rfl, by simp, by simpa using notComment, rfl, rfl⟩
  · generalize same : (if lineOf l.offset == prevLine then takeGroup lineOf 0 (lineOf l.offset) (l :: more)
      else ([], 0, [], l :: more)) = first
    obtain ⟨first, endLine, fs, behind⟩ := first
    obtain ⟨dropped, split, comments, faults⟩ : ∃ dropped, l :: more = dropped ++ behind ∧
        (∀ l ∈ dropped, l.token = .comment) ∧ fs = dropped.flatMap Lexeme.faults := by
      split at same
      · have whole := takeGroup_spec lineOf 0 (lineOf l.offset) (l :: more)
        rwa [same] at whole
      · cases same
        exact ⟨[], rfl, by simp, rfl⟩
    dsimp only
    obtain ⟨dropped', split', comments', faults', next⟩ := takeGroups_spec lineOf (Nat.le_refl behind.length)
    generalize takeGroups lineOf behind.length behind = groups at split' faults' next
    obtain ⟨groups, lastLine, fs', left⟩ := groups
    dsimp only at split' faults' next ⊢
    rw [split', ← List.append_assoc] at split
    have all_comments : ∀ l ∈ dropped ++ dropped', l.token = .comment :=
      fun l hl => (List.mem_append.1 hl).elim (comments l) (comments' l)
    obtain ⟨t, rest, rfl⟩ := List.exists_cons_of_ne_nil (some_left split all_comments)
    refine ⟨_, _, dropped ++ dropped', t, rest, rfl, split, all_comments, next t rfl, rfl, ?_⟩
    rw [faults, faults', List.flatMap_append]

/-- The items of lexemes that end with one that is no comment are all of them that are no comments, with their faults. -/
theorem ofLexemesFrom_spec {last : Lexeme} (closed : last.token ≠ .comment) {fuel : Nat} (prevLine : Int)
    {ls : List Lexeme} (enough : ls.length < fuel) :
    (ofLexemesFrom lineOf fuel prevLine (ls ++ [last])).1.map core =
        ((ls ++ [last]).filter (·.token != .comment)).map Lexeme.core ∧
      ((∀ l ∈ ls ++ [last], l.faults = []) →
        ∀ i ∈ (ofLexemesFrom lineOf fuel prevLine (ls ++ [last])).1, i.faults = []) := by
  induction fuel generalizing prevLine ls with
  | zero => exact absurd enough (Nat.not_lt_zero _)
  | succ fuel ih =>
    obtain ⟨i, groups, dropped, t, rest, taken, split, comments, notComment, same, faults⟩ := take?_spec lineOf prevLine closed ls
    have item (clean : ∀ l ∈ ls ++ [last], l.faults = []) : i.faults = [] := by
      rw [split] at clean
      rw [faults, clean t (by simp), List.append_nil, List.flatMap_eq_nil_iff]
      exact fun l hl => clean l (List.mem_append_left _ hl)
    have others : dropped.filter (·.token != .comment) = [] := List.filter_eq_nil_iff.2 (by simpa using comments)
    unfold ofLexemesFrom
    rw [taken]
    dsimp only
    rw [split, List.map_cons, same, List.filter_append, others, List.nil_append,
      List.filter_cons_of_pos (by simpa using notComment), List.map_cons]
    rcases List.eq_nil_or_concat' rest with rfl | ⟨rest, last', rfl⟩
    · have ended : (ofLexemesFrom lineOf fuel (lineOf i.offset) []).1 = [] := by cases fuel <;> rfl
      rw [ended]
      exact ⟨rfl, fun clean => List.forall_mem_singleton.2 (item (split ▸ clean))⟩
    · obtain rfl : last = last' := by
        rw [← List.cons_append, ← List.append_assoc] at split
        exact List.singleton_inj.1 (List.append_inj_right' split rfl)
      have lengths := congrArg List.length split
      simp only [List.length_append, List.length_cons, List.length_nil] at lengths
      obtain ⟨all, fine⟩ := ih (lineOf i.offset) (show rest.length < fuel by omega)
      refine ⟨congrArg (t.core :: ·) all, fun clean => List.forall_mem_cons.2 ⟨item (split ▸ clean), fine fun l hl => ?_⟩⟩
      exact clean l (List.mem_append_right _ (List.mem_cons_of_mem _ hl))

/-- **The items of a file are its lexemes without the comments**, in order, and without faults if the lexemes have none. -/
theorem ofLexemes_spec {ls : List Lexeme} (closed : ∀ l ∈ ls.getLast?, l.token ≠ .comment) :
    (ofLexemes lineOf ls).1.map core = (ls.filter (·.token != .comment)).map Lexeme.core ∧
      ((∀ l ∈ ls, l.faults = []) → ∀ i ∈ (ofLexemes lineOf ls).1, i.faults = []) := by
  rcases List.eq_nil_or_concat' ls with rfl | ⟨ls, last, rfl⟩
  · exact ⟨rfl, by simp [ofLexemes, ofLexemesFrom]⟩
  · exact ofLexemesFrom_spec lineOf (closed last (by simp)) _ (by simp)

theorem closed_lex (file t : Text) : ∀ l ∈ (lex file t).1.getLast?, l.token ≠ .comment := by
  obtain ⟨ls, s, -, eof, found⟩ := lexFrom_spec file t.length (left_ofText t)
  rw [← lex_eq] at found
  rw [found]
  simp [eof]

/-- The items of a text are among its lexemes, and the last one is its end. -/
theorem ofLexemes_lex (file t : Text) :
    ((ofLexemes lineOf (lex file t).1).1.map core).Sublist ((lex file t).1.map Lexeme.core) ∧
      ∃ is e, (ofLexemes lineOf (lex file t).1).1 = is ++ [e] ∧ e.token = .eof := by
  have all := (ofLexemes_spec lineOf (closed_lex file t)).1
  refine ⟨all ▸ List.filter_sublist.map _, ?_⟩
  obtain ⟨ls, s, -, eof, found⟩ := lexFrom_spec file t.length (left_ofText t)
  rw [← lex_eq] at found
  generalize ofLexemes lineOf (lex file t).1 = made at all ⊢
  rw [found, List.filter_append, List.map_append, List.filter_cons_of_pos (by simp [eof])] at all
  obtain ⟨is, es, split, -, last⟩ := List.map_eq_append_iff.1 all
  obtain ⟨e, rfl, same⟩ := List.map_eq_singleton_iff.1 last
  exact ⟨is, e, split, (congrArg Lexeme.token same).trans eof⟩

theorem map_symbol_of_map_core {is : List Item} {ls : List Lexeme} (h : is.map core = ls.map Lexeme.core) :
    is.map symbol = ls.map Lexeme.symbol := by
  have symbols_eq := congrArg (List.map Lexeme.symbol) h
  rwa [List.map_map, List.map_map] at symbols_eq

/-- **The items of a file are its symbols.** -/
theorem ofLexemes_symbols {ls : List Lexeme} (closed : ∀ l ∈ ls.getLast?, l.token ≠ .comment) :
    (ofLexemes lineOf ls).1.map symbol = symbols ls :=
  map_symbol_of_map_core (ofLexemes_spec lineOf closed).1

/-- The items of the lexemes of an expression are their symbols as well. -/
theorem dropComments_symbols {ls : List Lexeme} (clean : ∀ l ∈ ls, l.faults = []) :
    (dropComments [] ls).map symbol = symbols ls ∧ ∀ i ∈ dropComments [] ls, i.faults = [] := by
  induction ls with
  | nil => exact ⟨rfl, by simp [dropComments]⟩
  | cons l ls ih =>
    obtain ⟨clean_first, clean_rest⟩ := List.forall_mem_cons.1 clean
    obtain ⟨all, clean'⟩ := ih clean_rest
    unfold dropComments
    split
    · next comment =>
      rw [clean_first, List.append_nil]
      refine ⟨?_, clean'⟩
      have none : symbols [l] = [] := by simpa [symbols] using comment
      rw [all, ← List.singleton_append, symbols_append, none, List.nil_append]
    · next notComment =>
      rw [symbols_cons (by simpa using notComment), ← all]
      exact ⟨rfl, List.forall_mem_cons.2 ⟨clean_first, clean'⟩⟩

end Item

end DocAccessors.Source
