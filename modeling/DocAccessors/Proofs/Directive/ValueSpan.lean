import DocAccessors.Proofs.Directive.OptionList
import DocAccessors.Proofs.Directive.Restriction
import DocAccessors.Proofs.Source.Cutting

/-!
# The span of a value

The span of the value of an option covers the value: written behind the key and an equals sign, what it covers is read
as the same value. Raw strings with carriage returns are the exception: their tokens are shorter than what they were
read from, so that the span ends early.

* `Span.covered`: the part of a text that a span covers;
* `readOptions_assignment`: a key, an equals sign and a text of whole tokens without a comma outside brackets are read
  as one option;
* `whole_value`: what the span of a value covers is such a text;
* `valueSpan_covers`: so that it is read as the value.
-/

namespace DocAccessors

open DocAccessors.Source (Lexeme Token WholeTokens tokensOf tokensOf_apart exists_run)

/-- The part of a text that a span covers, the text standing at `base`. -/
def Span.covered (s : Span) (src : Text) (base : Pos) : Text := (src.drop (s.pos - base).toNat).take s.length.toNat

namespace OptionList

/-! ## A key and a value -/

/-- Where commas outside brackets stand is a matter of the tokens, not of their offsets. -/
theorem cutFrom_map_shift (depth n : Nat) (ts : List Lexeme) :
    cutFrom depth (ts.map (·.shift n)) = ((cutFrom depth ts).1.map (·.shift n), (cutFrom depth ts).2.map (·.shift n)) := by
  induction ts generalizing depth with
  | nil => rfl
  | cons t ts ih =>
    have step : cutFrom depth ((t :: ts).map (·.shift n)) =
        if t.token == .comma && depth == 0 then ([], (t :: ts).map (·.shift n))
        else (t.shift n :: (cutFrom (depthAfter depth t.token) (ts.map (·.shift n))).1,
          (cutFrom (depthAfter depth t.token) (ts.map (·.shift n))).2) := rfl
    rw [step, ih, cutFrom]
    split <;> rfl

theorem cutFrom_shift {ts : List Lexeme} {m : Nat} (whole : cutFrom 0 (ts.map (·.shift m)) = (ts.map (·.shift m), []))
    (n : Nat) : cutFrom 0 (ts.map (·.shift n)) = (ts.map (·.shift n), []) := by
  rw [cutFrom_map_shift, Prod.mk.injEq, List.map_eq_nil_iff] at whole
  have all := cutFrom_append 0 ts
  rw [whole.2, List.append_nil] at all
  rw [cutFrom_map_shift, all, whole.2]
  rfl

/-- A key, an equals sign and tokens without a comma outside brackets are one segment. -/
theorem segments_keyTokens (k : OptionKind) {ts : List Lexeme} (whole : cutFrom 0 ts = (ts, [])) :
    segments (keyTokens k ++ ts) = [⟨keyTokens k ++ ts, none⟩] := by
  have plain : ∀ kind ∈ OptionKind.all, Token.ofWord kind.name ≠ .comma ∧ depthAfter 0 (Token.ofWord kind.name) = 0 := by
    decide
  obtain ⟨comma, depth⟩ := plain k (mem_kinds k)
  have cut : cutFrom 0 (keyTokens k ++ ts) = (keyTokens k ++ ts, []) := by
    unfold keyTokens
    rw [List.cons_append, cutFrom_cons _ comma depth, List.cons_append, cutFrom_cons _ (by simp) rfl, List.nil_append,
      whole]
  rw [segments_eq_cons (by simp [keyTokens]), resume, cut]
  rfl

/-- **A key, an equals sign and a text of whole tokens without a comma outside brackets are one option**, if the key can
take the value. -/
theorem readOptions_assignment (k : OptionKind) {value : Text} (whole : WholeTokens value) {first : Lexeme}
    {rest : List Lexeme} (tokens : (tokensOf value).map (·.shift (valueOffset k)) = first :: rest)
    (cut : cutFrom 0 (first :: rest) = (first :: rest, [])) (base : Pos) {v : OptionValue}
    (taken : Input.value ⟨k.name ++ text " = " ++ value, base, OptionKind.all⟩ k first rest = .ok v) :
    (readOptions (k.name ++ text " = " ++ value) base OptionKind.all).2 = none ∧
      (readOptions (k.name ++ text " = " ++ value) base OptionKind.all).1.map (·.value) = [v] := by
  have reads := reads_assignment k whole.reads
  rw [tokens] at reads
  obtain ⟨b, byte, ascii⟩ := head?_name_append k (text " = " ++ value)
  rw [← List.append_assoc] at byte
  obtain ⟨all, clean⟩ := reads.lex_eq byte ascii []
  have read := readSegment_keyTokens ⟨k.name ++ text " = " ++ value, base, OptionKind.all⟩ rfl 0 k first rest none
  rw [map_shift_zero, Input.option, taken] at read
  rw [readOptions_of_clean clean, tokensOf, all, segments_keyTokens k cut, Input.optionsOf, Input.problemsOf,
    List.filterMap_cons, List.filterMap_cons, read]
  exact ⟨rfl, rfl⟩

/-! ## The text of a value -/

variable {i : Input} {first : Lexeme} {rest : List Lexeme} {k : OptionKind} {v : OptionValue}

theorem word?_eq_some {w : Text} (h : word? first rest = some w) : rest = [] ∧ first.token = .ident := by
  unfold word? at h
  split at h
  · next alone => simpa using alone
  · cases h

theorem stringLiteral?_eq_some {t : Text} (h : stringLiteral? first rest = some t) : rest = [] := by
  unfold stringLiteral? at h
  split at h
  · next alone =>
    rw [Bool.and_eq_true, List.isEmpty_iff] at alone
    exact alone.1
  · cases h

/-- A value is an expression, or a single token: a string for a name or a convention, and a word otherwise. -/
theorem value_cases (h : i.value k first rest = .ok v) :
    (∃ x, Source.Expr.parse (i.textOf first rest) = .ok x) ∨
      rest = [] ∧ (first.token = .string → k = .rename ∨ k = .renameAll) := by
  have word {w : Text} (found : word? first rest = some w) :
      rest = [] ∧ (first.token = .string → k = .rename ∨ k = .renameAll) := by
    obtain ⟨alone, ident⟩ := word?_eq_some found
    refine ⟨alone, fun string => ?_⟩
    rw [ident] at string
    cases string
  unfold Input.value at h
  dsimp only at h
  split at h
  · split at h
    · next found =>
      obtain ⟨w, found, -⟩ := Option.bind_eq_some_iff.1 found
      exact .inr (word found)
    · cases h
  · split at h
    · next found => exact .inr ⟨stringLiteral?_eq_some found, fun _ => .inl rfl⟩
    · cases h
  · split at h
    · cases h
    · next found => exact .inr ⟨stringLiteral?_eq_some found, fun _ => .inr rfl⟩
  · split at h
    · next x parsed => exact .inl ⟨x, parsed⟩
    · cases h
  · split at h
    · next found => exact .inr (word found)
    · cases h

/-- **What the tokens of a value cover is a text of whole tokens**, and its tokens are theirs, unless the value is a raw
string with carriage returns. -/
theorem whole_value {src : Text} {base : Pos} {keys : KeySet} (clean : ∀ l ∈ (Source.lex [] src).1, l.faults = [])
    (tokens : first :: rest <:+: tokensOf src) (behind : 0 < first.offset)
    (taken : Input.value ⟨src, base, keys⟩ k first rest = .ok v)
    (plain : k = .rename ∨ k = .renameAll → (Input.textOf ⟨src, base, keys⟩ first rest).head? = some 96 →
      13 ∉ Input.textOf ⟨src, base, keys⟩ first rest) :
    WholeTokens (Input.textOf ⟨src, base, keys⟩ first rest) ∧
      (tokensOf (Input.textOf ⟨src, base, keys⟩ first rest)).map (·.shift first.offset) = first :: rest := by
  obtain ⟨before, after, split⟩ := tokens
  obtain ⟨t, lexemes, t', run⟩ := exists_run clean split.symm behind
  rcases value_cases taken with ⟨x, parsed⟩ | ⟨rfl, string⟩
  · exact run.whole_of_clean run.last_eq rfl (Source.Expr.parse_clean parsed)
  · refine run.whole_of_plain run.last_eq (fun token quote => ?_) rfl
    have text : Input.textOf ⟨src, base, keys⟩ first [] = (src.drop first.offset).take (tokenLength first) := by
      rw [Input.textOf, extent]
      exact congrArg (List.take · _) (Nat.add_sub_cancel_left ..)
    rw [text] at plain
    intro returned
    have some_byte : tokenLength first ≠ 0 := by
      intro none
      change 13 ∈ (src.drop first.offset).take (tokenLength first) at returned
      rw [none] at returned
      cases returned
    exact plain (string token) (by rwa [List.head?_take, if_neg some_byte]) returned

theorem readOptions_again {m : Nat} (whole : WholeTokens (i.textOf first rest))
    (shifted : (tokensOf (i.textOf first rest)).map (·.shift m) = first :: rest)
    (cut : cutFrom 0 (first :: rest) = (first :: rest, [])) (taken : i.value k first rest = .ok v) (base : Pos) :
    let read := readOptions (k.name ++ text " = " ++ i.textOf first rest) base OptionKind.all
    read.2 = none ∧ read.1.map (·.value) = [v] := by
  generalize text_eq : i.textOf first rest = covered at whole shifted
  have stands : covered <+: (k.name ++ text " = " ++ covered).drop (valueOffset k) := by
    have length : (k.name ++ text " = ").length = valueOffset k := List.length_append
    rw [← length, List.drop_left]
  obtain ⟨first', rest', tokens, text_eq'⟩ :=
    textOf_eq ⟨k.name ++ text " = " ++ covered, base, OptionKind.all⟩ (valueOffset k) whole stands
  rw [← shifted] at cut
  refine readOptions_assignment k whole tokens (tokens ▸ cutFrom_shift cut _) base ?_
  -- the tokens are the same, apart from their offsets
  cases all : tokensOf covered with
  | nil =>
    rw [all] at shifted
    cases shifted
  | cons a as =>
    rw [all, List.map_cons] at shifted tokens
    obtain ⟨rfl, rfl⟩ := List.cons.inj shifted
    obtain ⟨rfl, rfl⟩ := List.cons.inj tokens
    refine (value_congr ?_ ?_ ?_ (text_eq'.trans text_eq.symm) k).trans taken
    · rfl
    · rfl
    · simp

theorem covered_span (i : Input) (first : Lexeme) (rest : List Lexeme) :
    (i.span first.offset (extent first rest)).covered i.src i.base = i.textOf first rest := by
  unfold Span.covered Input.span Span.ofLength Span.length Input.textOf
  congr 2
  · dsimp only
    omega
  · dsimp only
    omega

/-- Tokens end where the last one ends, or the first one. -/
theorem extent_le {n : Nat} (inside : ∀ l ∈ first :: rest, l.offset + tokenLength l ≤ n) :
    first.offset + extent first rest ≤ n := by
  have ends_first := inside first (List.mem_cons_self ..)
  have ends_last := inside (rest.getLast?.getD first) (by
    cases last : rest.getLast? with
    | none => exact List.mem_cons_self ..
    | some l => exact List.mem_cons_of_mem _ (List.mem_of_getLast? last))
  unfold extent
  dsimp only
  omega

theorem tokenLength_key {key : Lexeme} (named : OptionKind.ofName? key.lit = some k) : 0 < tokenLength key := by
  have spelling : key.lit = k.name := by
    unfold OptionKind.ofName? at named
    have same := List.find?_some named
    exact (beq_iff_eq.1 same).symm
  have some_byte : ∀ kind ∈ OptionKind.all, kind.name ≠ [] := by decide
  rw [Source.tokenLength_of_lit (spelling ▸ some_byte k (mem_kinds k))]
  exact List.length_pos_iff.2 (spelling ▸ some_byte k (mem_kinds k))

end OptionList

open OptionList

theorem exists_segment {src : Text} {base : Pos} {keys : KeySet} {o : ReadOption} (h : o ∈ (readOptions src base keys).1) :
    (∀ l ∈ (Source.lex [] src).1, l.faults = []) ∧
      ∃ s ∈ segments (tokensOf src), Input.readSegment ⟨src, base, keys⟩ s = .ok o := by
  by_cases faulty : ∃ l ∈ (Source.lex [] src).1, l.faults ≠ []
  · rw [readOptions_of_fault faulty] at h
    cases h
  · have clean : ∀ l ∈ (Source.lex [] src).1, l.faults = [] := by simpa using faulty
    rw [readOptions_of_clean clean] at h
    obtain ⟨s, mem, found⟩ := List.mem_filterMap.1 h
    refine ⟨clean, s, mem, ?_⟩
    cases read : Input.readSegment ⟨src, base, keys⟩ s with
    | ok o' => simpa [read, Except.toOption] using found
    | error d => simp [read, Except.toOption] at found

/-- An option comes from the tokens of its value, which stand behind those of its key. -/
theorem exists_value {src : Text} {base : Pos} {keys : KeySet} {o : ReadOption} (h : o ∈ (readOptions src base keys).1) :
    (∀ l ∈ (Source.lex [] src).1, l.faults = []) ∧ ∃ first rest, first :: rest <:+: tokensOf src ∧ 0 < first.offset ∧
      cutFrom 0 (first :: rest) = (first :: rest, []) ∧
      Input.value ⟨src, base, keys⟩ o.kind first rest = .ok o.value ∧
      o.valueSpan = Input.span ⟨src, base, keys⟩ first.offset (extent first rest) := by
  obtain ⟨clean, s, segment, read⟩ := exists_segment h
  obtain ⟨key, equals, first, rest, tokens, name, named, -, isEquals, value, span⟩ := option_of_readSegment read
  have side_by_side := Segment.tokens_infix segment
  have ordered := (tokensOf_apart clean).1.sublist side_by_side.sublist
  have cut := cutFrom_of_mem segment
  rw [tokens] at side_by_side ordered cut
  refine ⟨clean, first, rest, (List.suffix_append [key, equals] _).isInfix.trans side_by_side, ?_, ?_, value, span⟩
  · have after_key := List.rel_of_pairwise_cons ordered (List.mem_cons_of_mem _ (List.mem_cons_self ..))
    have some_byte := tokenLength_key named
    omega
  · obtain ⟨comma, depth⟩ := plain_of_isName (isName_iff.2 name)
    rw [cutFrom_cons _ comma depth, cutFrom_cons _ (by simp [isEquals]) (by simp [isEquals, depthAfter]), Prod.mk.injEq,
      List.cons_inj_right, List.cons_inj_right] at cut
    exact Prod.ext cut.1 cut.2

/-- **The span of a value covers the value.** It lies in the list, and what it covers is read back as the same value and
nothing else when it is written behind the key and an equals sign, unless it covers the start of a raw string that has
lost carriage returns and stands for a name or a convention. -/
theorem valueSpan_covers (src : Text) (base : Pos) (keys : KeySet) :
    ∀ o ∈ (readOptions src base keys).1,
      base ≤ o.valueSpan.pos ∧ o.valueSpan.pos ≤ o.valueSpan.stop ∧ o.valueSpan.stop ≤ base + src.length ∧
        ((o.kind = .rename ∨ o.kind = .renameAll → (o.valueSpan.covered src base).head? = some 96 →
            13 ∉ o.valueSpan.covered src base) →
          ∀ base', let read := readOptions (o.kind.name ++ text " = " ++ o.valueSpan.covered src base) base' OptionKind.all
            read.2 = none ∧ read.1.map (·.value) = [o.value]) := by
  intro o mem
  obtain ⟨clean, first, rest, tokens, behind, cut, value, span⟩ := exists_value mem
  have covered : o.valueSpan.covered src base = Input.textOf ⟨src, base, keys⟩ first rest := by
    rw [span]
    exact covered_span ⟨src, base, keys⟩ first rest
  refine ⟨?_, ?_, ?_, fun plain base' => ?_⟩
  · rw [span]
    exact Int.le_add_of_nonneg_right (Int.natCast_nonneg _)
  · rw [span]
    exact Int.le_add_of_nonneg_right (Int.natCast_nonneg _)
  · have stop := extent_le fun l hl => (tokensOf_apart clean).2 l (tokens.subset hl)
    have stop : (first.offset : Int) + extent first rest ≤ src.length := by exact_mod_cast stop
    rw [span]
    exact (Int.add_assoc base _ _).trans_le (Int.add_le_add_left stop base)
  · rw [covered] at plain ⊢
    obtain ⟨whole, shifted⟩ := whole_value clean tokens behind value plain
    exact readOptions_again whole shifted cut value base'

/-- A list with a name as a raw string, and a raw string with a carriage return in an expression. -/
def spannedList : Text := "rename = `a, b`, default = f(`\r`, 1), trim = true"

theorem valueSpan_covers_spanned :
    (readOptions spannedList 1 OptionKind.all).1.map (·.valueSpan) = [⟨10, 16⟩, ⟨28, 37⟩, ⟨46, 50⟩] ∧
      ∀ o ∈ (readOptions spannedList 1 OptionKind.all).1,
        let read := readOptions (o.kind.name ++ text " = " ++ o.valueSpan.covered spannedList 1) 1 OptionKind.all
        read.2 = none ∧ read.1.map (·.value) = [o.value] := by
  have plain : ∀ o ∈ (readOptions spannedList 1 OptionKind.all).1, o.kind = .rename ∨ o.kind = .renameAll →
      (o.valueSpan.covered spannedList 1).head? = some 96 → 13 ∉ o.valueSpan.covered spannedList 1 := by decide +kernel
  refine ⟨by decide +kernel, fun o mem => ?_⟩
  obtain ⟨-, -, -, again⟩ := valueSpan_covers spannedList 1 OptionKind.all o mem
  exact again (plain o mem) 1

/-- A name as a raw string with a carriage return. -/
def returnedList : Text := "rename = `a\r`"

/-- The span of such a name ends before its last quote, so that what it covers is read as nothing. -/
theorem valueSpan_short_of_return :
    ∃ o ∈ (readOptions returnedList 1 OptionKind.all).1,
      let read := readOptions (o.kind.name ++ text " = " ++ o.valueSpan.covered returnedList 1) 1 OptionKind.all
      ¬ (read.2 = none ∧ read.1.map (·.value) = [o.value]) := by
  have options : (readOptions returnedList 1 OptionKind.all).1 = [⟨.rename (text "a"), ⟨1, 7⟩, ⟨10, 13⟩⟩] := by decide +kernel
  refine ⟨⟨.rename (text "a"), ⟨1, 7⟩, ⟨10, 13⟩⟩, by rw [options]; exact List.mem_singleton_self _, ?_⟩
  decide +kernel

end DocAccessors
