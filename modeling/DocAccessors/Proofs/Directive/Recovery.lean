import DocAccessors.Proofs.Directive.Fault
import DocAccessors.Proofs.Source.WholeTokens

/-!
# Reading on after a problem

Each segment of an option list gives one option or one problem, whatever stands in the others.

* `flatMap_segments`: the segments are all of the tokens;
* `readSegment_congr`: what a segment gives is a matter of its own tokens and its own text;
* `exists_readSegment_iff`: it gives an option if it is a key, an equals sign and a value that the key can take;
* `readOptions_segments`: reading a list is reading its segments.
-/

namespace DocAccessors

open DocAccessors.Source (Lexeme Token tokensOf tokensOf_apart)

namespace OptionList

/-! ## All of the tokens -/

/-- The tokens of a segment and the comma that ends it. -/
def Segment.all (s : Segment) : List Lexeme := s.tokens ++ s.comma.toList

theorem flatMap_segmentsFrom (depth : Nat) (done ts : List Lexeme) :
    (segmentsFrom depth done ts).flatMap Segment.all = done.reverse ++ ts := by
  induction ts generalizing depth done with
  | nil =>
    unfold segmentsFrom
    split
    · next none => simp [List.isEmpty_iff.1 none]
    · simp [Segment.all]
  | cons t ts ih =>
    unfold segmentsFrom
    split
    · simp [ih, Segment.all]
    · simp [ih]

/-- **The segments are all of the tokens.** -/
theorem flatMap_segments (ts : List Lexeme) : (segments ts).flatMap Segment.all = ts := flatMap_segmentsFrom 0 [] ts

/-- The tokens of a segment stand side by side. -/
theorem Segment.tokens_infix {s : Segment} {ts : List Lexeme} (h : s ∈ segments ts) : s.tokens <:+: ts := by
  obtain ⟨before, after, split⟩ := List.append_of_mem h
  refine ⟨before.flatMap Segment.all, s.comma.toList ++ after.flatMap Segment.all, ?_⟩
  rw [← flatMap_segments ts, split, List.flatMap_append, List.flatMap_cons, Segment.all]
  simp only [List.append_assoc]

/-! ## The text of a segment -/

/-- The text of a segment: from its first token to the end of its last one. -/
def Input.sourceOf (i : Input) (s : Segment) : Text :=
  match s.tokens with
  | [] => []
  | first :: rest => i.textOf first rest

/-- The text from a token on is the end of the text from an earlier token on. -/
theorem textOf_eq_drop (i : Input) {key first : Lexeme} (before rest : List Lexeme) (behind : key.offset ≤ first.offset) :
    i.textOf first rest = (i.textOf key (before ++ first :: rest)).drop (first.offset - key.offset) := by
  have last : (before ++ first :: rest).getLast?.getD key = rest.getLast?.getD first := by
    rw [List.getLast?_append, List.getLast?_cons]
    rfl
  unfold Input.textOf extent
  rw [last, List.drop_take, List.drop_drop]
  congr 1
  · dsimp only
    omega
  · congr 1
    omega

theorem value_congr {i j : Input} {first first' : Lexeme} {rest rest' : List Lexeme} (token : first'.token = first.token)
    (lit : first'.lit = first.lit) (alone : rest'.isEmpty = rest.isEmpty)
    (same : j.textOf first' rest' = i.textOf first rest) (k : OptionKind) :
    j.value k first' rest' = i.value k first rest := by
  have string : stringLiteral? first' rest' = stringLiteral? first rest := by
    unfold stringLiteral?
    rw [token, lit, alone]
  have word : word? first' rest' = word? first rest := by
    unfold word?
    rw [token, lit, alone]
  unfold Input.value
  rw [same, string, word]

/-- **What a segment gives is a matter of its own tokens and its own text**, of the keys and of the place of the list. -/
theorem readSegment_congr {src src' : Text} {base : Pos} {keys : KeySet} {s : Segment}
    (ordered : s.tokens.Pairwise fun a b => a.offset + tokenLength a ≤ b.offset)
    (same : Input.sourceOf ⟨src', base, keys⟩ s = Input.sourceOf ⟨src, base, keys⟩ s) :
    Input.readSegment ⟨src', base, keys⟩ s = Input.readSegment ⟨src, base, keys⟩ s := by
  obtain ⟨tokens, comma⟩ := s
  unfold Input.sourceOf at same
  match tokens with
  | [] | [_] | [_, _] => rfl
  | key :: equals :: first :: rest =>
    have behind : key.offset ≤ first.offset :=
      Nat.le_of_add_right_le (List.rel_of_pairwise_cons ordered (List.mem_cons_of_mem _ (List.mem_cons_self ..)))
    have value (k : OptionKind) : Input.value ⟨src', base, keys⟩ k first rest = Input.value ⟨src, base, keys⟩ k first rest := by
      refine value_congr rfl rfl rfl ?_ k
      dsimp only at same
      rw [textOf_eq_drop _ [equals] rest behind, textOf_eq_drop _ [equals] rest behind]
      exact congrArg _ same
    have option (k : OptionKind) :
        Input.option ⟨src', base, keys⟩ key k first rest = Input.option ⟨src, base, keys⟩ key k first rest := by
      unfold Input.option
      rw [value]
      rfl
    unfold Input.readSegment
    simp only [option]
    rfl

/-! ## Segments that are options -/

/-- The segment is a key of the set, an equals sign, and a value that the key can take. -/
def Input.Accepts (i : Input) (s : Segment) : Prop :=
  ∃ key equals first rest k v, s.tokens = key :: equals :: first :: rest ∧
    (key.token = .ident ∨ key.token.isKeyword = true) ∧ OptionKind.ofName? key.lit = some k ∧ k ∈ i.keys ∧
    equals.token = .assign ∧ i.value k first rest = .ok v

theorem key?_eq_some {i : Input} {key : Lexeme} {k : OptionKind} :
    i.key? key = some k ↔ OptionKind.ofName? key.lit = some k ∧ k ∈ i.keys := by
  simp [Input.key?, Option.filter_eq_some_iff]

theorem exists_option_iff {i : Input} {key first : Lexeme} {k : OptionKind} {rest : List Lexeme} :
    (∃ o, i.option key k first rest = .ok o) ↔ ∃ v, i.value k first rest = .ok v := by
  unfold Input.option
  cases i.value k first rest with
  | ok v => simp
  | error message => simp

/-- **A segment gives an option just if it is accepted.** -/
theorem exists_readSegment_iff (i : Input) (s : Segment) : (∃ o, i.readSegment s = .ok o) ↔ i.Accepts s := by
  constructor
  · rintro ⟨o, read⟩
    unfold Input.readSegment at read
    split at read
    · cases read
    · next key rest tokens =>
      split at read
      · cases read
      · next name =>
        split at read
        · cases read
        · next k known =>
          split at read
          · cases read
          · next equals rest =>
            split at read
            · cases read
            · next isEquals =>
              split at read
              · cases read
              · next first rest =>
                obtain ⟨v, value⟩ := exists_option_iff.1 ⟨o, read⟩
                obtain ⟨named, mem⟩ := key?_eq_some.1 known
                exact ⟨key, equals, first, rest, k, v, tokens, isName_iff.1 name, named, mem, by simpa using isEquals, value⟩
  · rintro ⟨key, equals, first, rest, k, v, tokens, name, named, mem, isEquals, value⟩
    obtain ⟨o, option⟩ : ∃ o, i.option key k first rest = .ok o := exists_option_iff.2 ⟨v, value⟩
    refine ⟨o, ?_⟩
    rw [Input.readSegment, tokens]
    dsimp only
    rw [if_neg (isName_iff.2 name), key?_eq_some.2 ⟨named, mem⟩]
    dsimp only
    rw [if_neg (by simp [isEquals])]
    exact option

/-! ## Lists -/

def problem? : Except Diagnostic ReadOption → Option Diagnostic
  | .ok _ => none
  | .error d => some d

/-- The options among what segments give. -/
def Input.optionsOf (i : Input) (ss : List Segment) : List ReadOption := ss.filterMap fun s => (i.readSegment s).toOption

/-- The problems among what segments give. -/
def Input.problemsOf (i : Input) (ss : List Segment) : List Diagnostic := ss.filterMap fun s => problem? (i.readSegment s)

theorem length_optionsOf_add (i : Input) (ss : List Segment) :
    (i.optionsOf ss).length + (i.problemsOf ss).length = ss.length := by
  induction ss with
  | nil => rfl
  | cons s ss ih =>
    unfold Input.optionsOf Input.problemsOf at ih ⊢
    rw [List.filterMap_cons, List.filterMap_cons, List.length_cons, ← ih]
    cases i.readSegment s with
    | ok o => exact Nat.add_right_comm _ 1 _
    | error d => rfl

theorem problemsOf_eq_nil_iff (i : Input) (ss : List Segment) : i.problemsOf ss = [] ↔ ∀ s ∈ ss, i.Accepts s := by
  unfold Input.problemsOf
  rw [List.filterMap_eq_nil_iff]
  refine forall₂_congr fun s _ => ?_
  rw [← exists_readSegment_iff]
  cases i.readSegment s <;> simp [problem?]

theorem isFault_of_mem_problemsOf {i : Input} {ss : List Segment} {d : Diagnostic} (h : d ∈ i.problemsOf ss) :
    d.IsFault := by
  obtain ⟨s, -, found⟩ := List.mem_filterMap.1 h
  cases read : i.readSegment s with
  | ok o => simp [read, problem?] at found
  | error e =>
    obtain rfl : e = d := by simpa [read, problem?] using found
    exact isFault_of_readSegment read

end OptionList

open OptionList

/-- A list with tokens that cannot be read gives no option, and a problem for each fault. -/
theorem readOptions_of_fault {src : Text} (faulty : ∃ l ∈ (Source.lex [] src).1, l.faults ≠ []) (base : Pos) (keys : KeySet) :
    readOptions src base keys = ([], some (.diagnosed (((Source.lex [] src).1.flatMap (·.faults)).map fun f =>
      .error .invalidSyntax (Span.ofLength (base + f.offset) 1) f.message))) := by
  have some_fault : (Source.lex [] src).1.flatMap (·.faults) ≠ [] := by
    obtain ⟨l, mem, fault⟩ := faulty
    exact fun none => fault (List.flatMap_eq_nil_iff.1 none l mem)
  unfold readOptions
  dsimp only
  split
  · next none => exact absurd none some_fault
  · rfl

/-- A list that can be read gives what its segments give. -/
theorem readOptions_of_clean {src : Text} (clean : ∀ l ∈ (Source.lex [] src).1, l.faults = []) (base : Pos) (keys : KeySet) :
    readOptions src base keys = (Input.optionsOf ⟨src, base, keys⟩ (segments (tokensOf src)),
      Failure.ofDiagnostics? (Input.problemsOf ⟨src, base, keys⟩ (segments (tokensOf src)))) := by
  unfold readOptions Input.optionsOf Input.problemsOf tokensOf
  dsimp only
  rw [List.flatMap_eq_nil_iff.2 clean]
  dsimp only
  rw [Input.read, readFrom_eq]
  dsimp only
  rw [List.filterMap_map, List.filterMap_map]
  congr 2
  funext s
  dsimp only [Function.comp]
  cases Input.readSegment ⟨src, base, keys⟩ s <;> rfl

theorem diagnosticsOf_problemsOf (i : Input) (ss : List Segment) :
    Failure.diagnosticsOf (Failure.ofDiagnostics? (i.problemsOf ss)) = i.problemsOf ss ∧
      (Failure.ofDiagnostics? (i.problemsOf ss) = none ↔ i.problemsOf ss = []) := by
  have errors : ∀ d ∈ i.problemsOf ss, d.isError = true := fun d hd => (isFault_of_mem_problemsOf hd).1
  generalize i.problemsOf ss = ds at errors
  cases ds with
  | nil => exact ⟨rfl, by simp [Failure.ofDiagnostics?]⟩
  | cons d ds => simp [Failure.ofDiagnostics?, errors d (by simp), Failure.diagnosticsOf, Failure.diagnostics?]

theorem diagnosticsOf_readOptions {src : Text} (clean : ∀ l ∈ (Source.lex [] src).1, l.faults = []) (base : Pos)
    (keys : KeySet) : Failure.diagnosticsOf (readOptions src base keys).2 =
      Input.problemsOf ⟨src, base, keys⟩ (segments (tokensOf src)) := by
  rw [readOptions_of_clean clean, (diagnosticsOf_problemsOf _ _).1]

/-- **Reading a list is reading its segments.** The tokens are cut at the commas outside brackets. Each segment gives
one option or one problem, in order, whatever stands in the others: only its own tokens, the comma that ends it and its
own text count. There is no problem just if all of the segments are keys of the set, each with a value that it can
take. -/
theorem readOptions_segments (src : Text) (base : Pos) (keys : KeySet)
    (clean : ∀ l ∈ (Source.lex [] src).1, l.faults = []) :
    let i : Input := ⟨src, base, keys⟩
    let ss := segments (tokensOf src)
    let options := (readOptions src base keys).1
    let problems := Failure.diagnosticsOf (readOptions src base keys).2
    ss.flatMap Segment.all = tokensOf src ∧
      options = i.optionsOf ss ∧ problems = i.problemsOf ss ∧
      options.length + problems.length = ss.length ∧
      ((readOptions src base keys).2 = none ↔ ∀ s ∈ ss, i.Accepts s) ∧
      ∀ s ∈ ss, ∀ src', Input.sourceOf ⟨src', base, keys⟩ s = i.sourceOf s →
        Input.readSegment ⟨src', base, keys⟩ s = i.readSegment s := by
  intro i ss options problems
  have options_eq : options = i.optionsOf ss := by simp only [options, readOptions_of_clean clean, i, ss]
  have problems_eq : problems = i.problemsOf ss := diagnosticsOf_readOptions clean base keys
  refine ⟨flatMap_segments _, options_eq, problems_eq, ?_, ?_, fun s hs src' same => ?_⟩
  · rw [options_eq, problems_eq, length_optionsOf_add]
  · rw [readOptions_of_clean clean, (diagnosticsOf_problemsOf _ _).2, problemsOf_eq_nil_iff]
  · exact readSegment_congr ((tokensOf_apart clean).1.sublist (Segment.tokens_infix hs).sublist) same

/-- A list with an empty segment, brackets that do not match, a missing key, a missing equals sign, a comma between
brackets and a comma at the end. -/
def brokenList : Text := "vis = exported, , rename = (\"a\", ], = 3, trim trim, default = f(1, 2),"

theorem readOptions_segments_broken :
    (∀ l ∈ (Source.lex [] brokenList).1, l.faults = []) ∧ (segments (tokensOf brokenList)).length = 6 ∧
      (readOptions brokenList 1 OptionKind.all).1.length +
        (Failure.diagnosticsOf (readOptions brokenList 1 OptionKind.all).2).length = 6 := by
  have clean : ∀ l ∈ (Source.lex [] brokenList).1, l.faults = [] := by decide +kernel
  have six : (segments (tokensOf brokenList)).length = 6 := by decide +kernel
  obtain ⟨-, -, -, length, -⟩ := readOptions_segments brokenList 1 OptionKind.all clean
  exact ⟨clean, six, length.trans six⟩

end DocAccessors
