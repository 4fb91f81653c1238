import DocAccessors.Proofs.Directive.Segment
import DocAccessors.Proofs.Source.Accounted
import DocAccessors.Proofs.Source.StringLiteral

/-!
# Option lists that are written and read

A list of options that is written down is read as the same options.

* `DefaultSource s`: the expression `s` can be written in an option list;
* `reads_renderOptions`: the tokens of a list that is written down, at their offsets;
* `segments_listTokens`: they are cut at the commas between the options, not at those of an expression;
* `readOptions_renderOptions`: reading gives the options back.
-/

namespace DocAccessors

open DocAccessors.Source (Lexeme Token Reads WholeTokens Ended tokensOf reads_quote)

namespace OptionList

/-! ## Expressions in a list -/

/-- From a nesting of brackets on, the tokens close all brackets and no others, and no comma stands outside them. -/
def Balanced : Nat → List Lexeme → Prop
  | depth, [] => depth = 0
  | depth, t :: ts =>
    (depth = 0 → t.token ∉ [.comma, .rparen, .rbrack, .rbrace]) ∧ Balanced (depthAfter depth t.token) ts

instance decidableBalanced : ∀ depth ts, Decidable (Balanced depth ts)
  | depth, [] => inferInstanceAs (Decidable (depth = 0))
  | depth, t :: ts =>
    have := decidableBalanced (depthAfter depth t.token) ts
    inferInstanceAs (Decidable ((depth = 0 → t.token ∉ [.comma, .rparen, .rbrack, .rbrace]) ∧
      Balanced (depthAfter depth t.token) ts))

/-- An expression that can be written in a list: it is accepted on its own, it starts and ends at a token, and its
tokens have balanced brackets and no comma outside them. -/
structure DefaultSource (s : Text) : Prop where
  parses : ∃ x, Source.Expr.parse s = .ok x
  first : (tokensOf s).head?.map (·.offset) = some 0
  last : (tokensOf s).getLast?.map (fun l => l.offset + tokenLength l) = some s.length
  balanced : Balanced 0 (tokensOf s)

theorem DefaultSource.whole {s : Text} (h : DefaultSource s) : WholeTokens s := by
  obtain ⟨x, accepted⟩ := h.parses
  exact ⟨Source.Expr.parse_clean accepted, h.first, h.last⟩

/-! ## What is written for an option -/

def written (v : OptionValue) : Text := v.kind.name ++ text " = " ++ v.literal

/-- The key and the equals sign of an option. -/
def keyTokens (k : OptionKind) : List Lexeme :=
  [⟨0, Token.ofWord k.name, k.name, []⟩, ⟨k.name.length + 1, .assign, [], []⟩]

/-- The tokens of a value on its own. -/
def valueTokens : OptionValue → List Lexeme
  | .vis v => [⟨0, .ident, v.name, []⟩]
  | .rename n => [⟨0, .string, Text.quote n, []⟩]
  | .renameAll c => [⟨0, .string, Text.quote c.name, []⟩]
  | .default s => tokensOf s
  | .trim on => [⟨0, .ident, if on then text "true" else text "false", []⟩]

def valueOffset (k : OptionKind) : Nat := k.name.length + 3

/-- The tokens of an option that is written at an offset. -/
def optionTokens (k : Nat) (v : OptionValue) : List Lexeme :=
  (keyTokens v.kind).map (·.shift k) ++ (valueTokens v).map (·.shift (k + valueOffset v.kind))

def commaAt (k : Nat) : Lexeme := ⟨k, .comma, [], []⟩

/-- The tokens of a list that is written at an offset. -/
def listTokens (k : Nat) : List OptionValue → List Lexeme
  | [] => []
  | [v] => optionTokens k v
  | v :: w :: vs =>
    optionTokens k v ++ commaAt (k + (written v).length) :: listTokens (k + (written v).length + 2) (w :: vs)

theorem reads_key (k : OptionKind) : Reads (k.name ++ text " =") (keyTokens k) := by
  have whole : ∀ k ∈ OptionKind.all, WholeTokens (k.name ++ text " =") ∧
      tokensOf (k.name ++ text " =") = keyTokens k := by decide +kernel
  obtain ⟨whole, tokens⟩ := whole k (mem_kinds k)
  exact tokens ▸ whole.reads

theorem reads_word {w : Text} (h : w ∈ [text "exported", text "unexported", text "true", text "false"]) :
    Reads w [⟨0, .ident, w, []⟩] := by
  have whole : ∀ w ∈ [text "exported", text "unexported", text "true", text "false"], WholeTokens w ∧
      tokensOf w = [⟨0, .ident, w, []⟩] := by decide +kernel
  obtain ⟨whole, tokens⟩ := whole w h
  exact tokens ▸ whole.reads

theorem reads_comma : Reads (text ",") [commaAt 0] := by
  have whole : WholeTokens (text ",") ∧ tokensOf (text ",") = [commaAt 0] := by decide +kernel
  exact whole.2 ▸ whole.1.reads

theorem reads_literal (v : OptionValue) (h : ∀ s, v = .default s → DefaultSource s) :
    Reads v.literal (valueTokens v) := by
  cases v with
  | vis v => cases v <;> exact reads_word (by decide)
  | rename n => exact reads_quote n
  | renameAll c => exact reads_quote c.name
  | default s => exact (h s rfl).whole.reads
  | trim on => cases on <;> exact reads_word (by decide)

theorem map_shift_zero (ts : List Lexeme) : ts.map (·.shift 0) = ts := by
  simp [Lexeme.shift]

theorem map_shift_shift (j k : Nat) (ts : List Lexeme) :
    (ts.map (·.shift j)).map (·.shift k) = ts.map (·.shift (j + k)) := by
  simp [Function.comp_def]

theorem optionTokens_shift (j k : Nat) (v : OptionValue) :
    (optionTokens j v).map (·.shift k) = optionTokens (j + k) v := by
  rw [optionTokens, List.map_append, map_shift_shift, map_shift_shift, Nat.add_right_comm]
  rfl

theorem reads_assignment (k : OptionKind) {value : Text} {ts : List Lexeme} (h : Reads value ts) :
    Reads (k.name ++ text " = " ++ value) (keyTokens k ++ ts.map (·.shift (valueOffset k))) := by
  have both := (reads_key k).append h.blank (by unfold Ended; simp; decide)
  have joined : k.name ++ text " =" ++ 32 :: value = k.name ++ text " = " ++ value := by
    rw [List.append_assoc, List.append_assoc]
    rfl
  have length : 1 + (k.name ++ text " =").length = valueOffset k := by
    rw [List.length_append, valueOffset, show (text " =").length = 2 from rfl]
    omega
  rwa [joined, map_shift_shift, length] at both

/-- An option that is written down reads as its key, the equals sign and its value. -/
theorem reads_written (v : OptionValue) (h : ∀ s, v = .default s → DefaultSource s) :
    Reads (written v) (optionTokens 0 v) := by
  rw [optionTokens, map_shift_zero, Nat.zero_add]
  exact reads_assignment v.kind (reads_literal v h)

theorem listTokens_shift (j k : Nat) (vs : List OptionValue) :
    (listTokens j vs).map (·.shift k) = listTokens (j + k) vs := by
  induction vs generalizing j with
  | nil => rfl
  | cons v vs ih =>
    cases vs with
    | nil => exact optionTokens_shift j k v
    | cons w vs =>
      rw [listTokens, listTokens, List.map_append, List.map_cons, optionTokens_shift, ih]
      simp only [commaAt, Lexeme.shift, Nat.add_right_comm]

/-- **A list that is written down reads as the options with commas between them.** -/
theorem reads_renderOptions (vs : List OptionValue) (some_option : vs ≠ [])
    (h : ∀ s, .default s ∈ vs → DefaultSource s) : Reads (renderOptions vs) (listTokens 0 vs) := by
  induction vs with
  | nil => exact absurd rfl some_option
  | cons v vs ih =>
    have first := reads_written v fun s same => h s (by simp [same])
    cases vs with
    | nil => exact first
    | cons w vs =>
      have rest := ih (List.cons_ne_nil w vs) fun s hs => h s (List.mem_cons_of_mem v hs)
      have comma := reads_comma.append rest.blank (by unfold Ended; simp; decide)
      have all := first.append comma (by unfold Ended; simp; decide)
      have joined : written v ++ (text "," ++ 32 :: renderOptions (w :: vs)) = renderOptions (v :: w :: vs) :=
        (List.append_assoc (written v) (text ", ") (renderOptions (w :: vs))).symm
      rw [List.map_append, map_shift_shift, map_shift_shift, listTokens_shift] at all
      have offset : 0 + (1 + ((text ",").length + (written v).length)) = 0 + (written v).length + 2 := by
        rw [show (text ",").length = 1 from rfl]
        omega
      rw [joined, offset] at all
      exact all

/-! ## Segments -/

/-- Balanced tokens are in one segment with what stands before them. -/
theorem segmentsFrom_balanced {depth : Nat} {ts : List Lexeme} (h : Balanced depth ts) (done rest : List Lexeme) :
    segmentsFrom depth done (ts ++ rest) = segmentsFrom 0 (ts.reverse ++ done) rest := by
  induction ts generalizing depth done with
  | nil => rw [show depth = 0 from h]; rfl
  | cons t ts ih =>
    obtain ⟨outside, inside⟩ := h
    have notComma : (t.token == .comma && depth == 0) = false := by
      rw [Bool.and_eq_false_iff, beq_eq_false_iff_ne, beq_eq_false_iff_ne]
      by_cases top : depth = 0
      · exact .inl fun comma => outside top (by simp [comma])
      · exact .inr top
    rw [List.cons_append, segmentsFrom, notComma]
    simp [ih inside (t :: done)]

theorem balanced_shift {depth : Nat} {ts : List Lexeme} (k : Nat) (h : Balanced depth ts) :
    Balanced depth (ts.map (·.shift k)) := by
  induction ts generalizing depth with
  | nil => exact h
  | cons t ts ih => exact ⟨h.1, ih h.2⟩

theorem balanced_append {depth : Nat} {ts us : List Lexeme} (ht : Balanced depth ts) (hu : Balanced 0 us) :
    Balanced depth (ts ++ us) := by
  induction ts generalizing depth with
  | nil => rwa [show depth = 0 from ht]
  | cons t ts ih => exact ⟨ht.1, ih ht.2⟩

theorem balanced_optionTokens (k : Nat) (v : OptionValue) (h : ∀ s, v = .default s → DefaultSource s) :
    Balanced 0 (optionTokens k v) := by
  have key : Balanced 0 (keyTokens v.kind) := by
    generalize v.kind = k
    cases k <;> decide
  have value : Balanced 0 (valueTokens v) := by
    cases v with
    | default s => exact (h s rfl).balanced
    | _ => exact ⟨by simp, rfl⟩
  exact balanced_append (balanced_shift k key) (balanced_shift _ value)

/-- The segments of a list that is written at an offset. -/
def listSegments (k : Nat) : List OptionValue → List Segment
  | [] => []
  | [v] => [⟨optionTokens k v, none⟩]
  | v :: w :: vs =>
    ⟨optionTokens k v, some (commaAt (k + (written v).length))⟩ :: listSegments (k + (written v).length + 2) (w :: vs)

/-- **A list that is written down is cut at the commas between its options.** -/
theorem segments_listTokens (k : Nat) (vs : List OptionValue) (h : ∀ s, .default s ∈ vs → DefaultSource s) :
    segments (listTokens k vs) = listSegments k vs := by
  induction vs generalizing k with
  | nil => rfl
  | cons v vs ih =>
    have balanced := balanced_optionTokens k v fun s same => h s (by simp [same])
    cases vs with
    | nil =>
      have cut := segmentsFrom_balanced balanced [] []
      rw [List.append_nil, List.append_nil] at cut
      rw [segments, listTokens, cut, segmentsFrom, listSegments]
      simp [optionTokens, keyTokens]
    | cons w vs =>
      have rest := ih (k + (written v).length + 2) fun s hs => h s (List.mem_cons_of_mem v hs)
      rw [segments] at rest ⊢
      rw [listTokens, segmentsFrom_balanced balanced, segmentsFrom, List.append_nil, List.reverse_reverse, listSegments,
        ← rest]
      rfl

/-! ## Values -/

theorem value_vis (i : Input) (k : Nat) (v : Visibility) :
    i.value .vis ⟨k, .ident, v.name, []⟩ [] = .ok (.vis v) := by
  have named : Visibility.ofName? v.name = some v := by cases v <;> decide
  have word : word? ⟨k, .ident, v.name, []⟩ [] = some v.name := rfl
  unfold Input.value
  rw [word, Option.bind_some, named]

theorem value_trim (i : Input) (k : Nat) (on : Bool) :
    i.value .trim ⟨k, .ident, if on then text "true" else text "false", []⟩ [] = .ok (.trim on) := by
  have word : word? ⟨k, .ident, if on then text "true" else text "false", []⟩ [] =
      some (if on then text "true" else text "false") := rfl
  unfold Input.value
  rw [word]
  cases on <;> rfl

theorem stringLiteral?_quote (k : Nat) (t : Text) : stringLiteral? ⟨k, .string, Text.quote t, []⟩ [] = some t :=
  Text.unquote?_quote t

theorem value_rename (i : Input) (k : Nat) (n : Text) :
    i.value .rename ⟨k, .string, Text.quote n, []⟩ [] = .ok (.rename n) := by
  unfold Input.value
  rw [stringLiteral?_quote]

theorem value_renameAll (i : Input) (k : Nat) (c : CaseConvention) :
    i.value .renameAll ⟨k, .string, Text.quote c.name, []⟩ [] = .ok (.renameAll c) := by
  have named : CaseConvention.ofName? c.name = some c := by cases c <;> decide
  unfold Input.value
  rw [stringLiteral?_quote]
  dsimp only
  rw [named]

/-- The text of an expression is cut out from its first token to the end of its last one. -/
theorem textOf_eq (i : Input) (k : Nat) {s : Text} (whole : WholeTokens s) (stands : s <+: i.src.drop k) :
    ∃ first rest, (tokensOf s).map (·.shift k) = first :: rest ∧ i.textOf first rest = s := by
  have begins := whole.first
  have ends := whole.last
  cases tokens : tokensOf s with
  | nil => simp [tokens] at begins
  | cons first rest =>
    rw [tokens] at begins ends
    have zero : first.offset = 0 := by simpa using begins
    refine ⟨_, _, rfl, ?_⟩
    have last : ((rest.map (·.shift k)).getLast?.getD (first.shift k)) = (rest.getLast?.getD first).shift k := by
      rw [List.getLast?_map]
      cases rest.getLast? <;> rfl
    have length : extent (first.shift k) (rest.map (·.shift k)) = s.length := by
      rw [List.getLast?_cons, Option.map_some, Option.some.injEq] at ends
      unfold extent
      dsimp only
      rw [last, ← ends]
      change (rest.getLast?.getD first).offset + k + tokenLength (rest.getLast?.getD first) - (first.offset + k) = _
      omega
    obtain ⟨after, rest_eq⟩ := stands
    rw [Input.textOf, length]
    simp only [Source.Lexeme.shift, zero, Nat.zero_add]
    rw [← rest_eq, List.take_left']
    rfl

/-- The value of an option that is written at an offset is read from its tokens. -/
theorem value_eq (i : Input) (k : Nat) (v : OptionValue) (h : ∀ s, v = .default s → DefaultSource s)
    (stands : v.literal <+: i.src.drop k) :
    ∃ first rest, (valueTokens v).map (·.shift k) = first :: rest ∧ i.value v.kind first rest = .ok v := by
  cases v with
  | vis v => exact ⟨_, _, rfl, value_vis i _ v⟩
  | rename n => exact ⟨_, _, rfl, value_rename i _ n⟩
  | renameAll c => exact ⟨_, _, rfl, value_renameAll i _ c⟩
  | trim on => exact ⟨_, _, rfl, value_trim i _ on⟩
  | default s =>
    obtain ⟨x, parses⟩ := (h s rfl).parses
    obtain ⟨first, rest, tokens, source⟩ := textOf_eq i k (h s rfl).whole stands
    refine ⟨first, rest, tokens, ?_⟩
    unfold Input.value
    rw [source]
    dsimp only [OptionValue.kind]
    rw [parses]

/-! ## Options -/

theorem literal_stands {src : Text} {k : Nat} {v : OptionValue} (stands : written v <+: src.drop k) :
    v.literal <+: src.drop (k + valueOffset v.kind) := by
  obtain ⟨after, rest⟩ := stands
  refine ⟨after, ?_⟩
  have length : (v.kind.name ++ text " = ").length = valueOffset v.kind := List.length_append
  rw [← List.drop_drop, ← rest, written, List.append_assoc _ v.literal, ← length, List.drop_left]

/-- A key, an equals sign and a value are read as an option of that key, if there is one. -/
theorem readSegment_keyTokens (i : Input) (all : i.keys = OptionKind.all) (at' : Nat) (k : OptionKind) (first : Lexeme)
    (rest : List Lexeme) (comma : Option Lexeme) :
    i.readSegment ⟨(keyTokens k).map (·.shift at') ++ first :: rest, comma⟩ =
      i.option ⟨0 + at', Token.ofWord k.name, k.name, []⟩ k first rest := by
  have named : ∀ kind ∈ OptionKind.all, (Token.ofWord kind.name != .ident && !(Token.ofWord kind.name).isKeyword) = false ∧
      (OptionKind.ofName? kind.name).filter (fun k => OptionKind.all.contains k) = some kind := by decide
  obtain ⟨name, known⟩ := named k (mem_kinds k)
  have split : (keyTokens k).map (·.shift at') ++ first :: rest = ⟨0 + at', Token.ofWord k.name, k.name, []⟩ ::
      ⟨k.name.length + 1 + at', .assign, [], []⟩ :: first :: rest := rfl
  unfold Input.readSegment Input.key?
  rw [split, all]
  dsimp only
  rw [name, known]
  rfl

/-- **A segment that is written for an option reads as the option.** -/
theorem readSegment_eq (i : Input) (all : i.keys = OptionKind.all) (k : Nat) (v : OptionValue)
    (h : ∀ s, v = .default s → DefaultSource s) (stands : written v <+: i.src.drop k) (comma : Option Lexeme) :
    ∃ o, i.readSegment ⟨optionTokens k v, comma⟩ = .ok o ∧ o.value = v := by
  obtain ⟨first, rest, tokens, value⟩ := value_eq i _ v h (literal_stands stands)
  rw [optionTokens, tokens, readSegment_keyTokens i all, Input.option, value]
  exact ⟨_, rfl, rfl⟩

theorem map_readSegment (i : Input) (all : i.keys = OptionKind.all) (k : Nat) (vs : List OptionValue)
    (h : ∀ s, .default s ∈ vs → DefaultSource s) (stands : renderOptions vs <+: i.src.drop k) :
    ∃ os : List ReadOption, (listSegments k vs).map i.readSegment = os.map .ok ∧ os.map (·.value) = vs := by
  induction vs generalizing k with
  | nil => exact ⟨[], rfl, rfl⟩
  | cons v vs ih =>
    have first := fun stands comma => readSegment_eq i all k v (fun s same => h s (by simp [same])) stands comma
    cases vs with
    | nil =>
      obtain ⟨o, read, value⟩ := first stands none
      exact ⟨[o], by simp [listSegments, read], by simp [value]⟩
    | cons w vs =>
      have joined : renderOptions (v :: w :: vs) = written v ++ (text ", " ++ renderOptions (w :: vs)) :=
        List.append_assoc (written v) (text ", ") (renderOptions (w :: vs))
      rw [joined] at stands
      obtain ⟨o, read, value⟩ := first ((List.prefix_append _ _).trans stands) _
      obtain ⟨os, reads, values⟩ := ih (k + (written v).length + 2) (fun s hs => h s (List.mem_cons_of_mem v hs)) (by
        obtain ⟨after, rest⟩ := stands
        refine ⟨after, ?_⟩
        rw [Nat.add_assoc, ← List.drop_drop, ← rest, List.append_assoc, ← List.drop_drop, List.drop_left]
        rfl)
      exact ⟨o :: os, by rw [listSegments, List.map_cons, read, reads]; rfl, by rw [List.map_cons, value, values]⟩

end OptionList

open OptionList

/-- What starts with the name of a key starts with an ASCII byte. -/
theorem head?_name_append (k : OptionKind) (t : Text) : ∃ b, (k.name ++ t).head? = some b ∧ b < 0x80 := by
  have starts : ∀ kind ∈ OptionKind.all, kind.name.head?.all (· < 0x80) = true ∧ kind.name ≠ [] := by decide
  obtain ⟨ascii, some_byte⟩ := starts k (mem_kinds k)
  obtain ⟨b, name, name_eq⟩ := List.exists_cons_of_ne_nil some_byte
  rw [name_eq] at ascii ⊢
  exact ⟨b, rfl, by simpa using ascii⟩

/-- What is written for a list is read without faults. -/
theorem lex_renderOptions (vs : List OptionValue) (h : ∀ s, .default s ∈ vs → DefaultSource s) :
    (Source.lex [] (renderOptions vs)).1.filter isSignificant = listTokens 0 vs ∧
      ∀ l ∈ (Source.lex [] (renderOptions vs)).1, l.faults = [] := by
  cases vs with
  | nil => decide
  | cons v vs =>
    obtain ⟨t, starts⟩ : ∃ t, renderOptions (v :: vs) = v.kind.name ++ t := by
      cases vs with
      | nil => exact ⟨_, List.append_assoc _ _ _⟩
      | cons w vs => exact ⟨_, by simp only [renderOptions, List.map_cons, Text.join, List.append_assoc]; rfl⟩
    obtain ⟨b, first, ascii⟩ := head?_name_append v.kind t
    rw [← starts] at first
    exact (reads_renderOptions (v :: vs) (List.cons_ne_nil v vs) h).lex_eq first ascii []

/-- **Option lists survive being written and read.** Whatever names, conventions and words the values hold, and
whatever expressions that can be written in a list, reading what is written for them gives the same values in the same
order, and no problem. -/
theorem readOptions_renderOptions (vs : List OptionValue) (h : ∀ s, .default s ∈ vs → DefaultSource s) (base : Pos) :
    (readOptions (renderOptions vs) base OptionKind.all).1.map (·.value) = vs ∧
      (readOptions (renderOptions vs) base OptionKind.all).2 = none := by
  obtain ⟨os, reads, values⟩ := map_readSegment ⟨renderOptions vs, base, OptionKind.all⟩ rfl 0 vs h (List.prefix_refl _)
  obtain ⟨tokens, clean⟩ := lex_renderOptions vs h
  have no_fault : (Source.lex [] (renderOptions vs)).1.flatMap (·.faults) = [] := List.flatMap_eq_nil_iff.2 clean
  unfold readOptions
  dsimp only
  rw [no_fault]
  dsimp only
  unfold Input.read
  rw [tokens, readFrom_eq, segments_listTokens 0 vs h, reads]
  constructor
  · simpa [List.filterMap_map, Function.comp_def] using values
  · simp [List.filterMap_map, Failure.ofDiagnostics?]

/-- An expression with commas between brackets and inside of literals. -/
def nestedExpression : Text := "f(map[string]int\x7b\"a,b\": 1\x7d, ',') + g([]int\x7b2, 3\x7d[0])"

/-- Options of every kind, with quotes, commas, brackets and bytes that are no characters in a name. -/
def nestedOptions : List OptionValue :=
  [.vis .exported, .rename (text "a\", [" ++ [0xFF, 0x00, 0x0D]), .renameAll .snake, .trim true,
    .default nestedExpression, .vis .unexported, .trim false]

theorem readOptions_renderOptions_nested :
    (∀ s, .default s ∈ nestedOptions → DefaultSource s) ∧
      (readOptions (renderOptions nestedOptions) 1 OptionKind.all).1.map (·.value) = nestedOptions ∧
      (readOptions (renderOptions nestedOptions) 1 OptionKind.all).2 = none := by
  have accepted : (Source.Expr.parse nestedExpression).isOk = true := by decide +kernel
  have writable : DefaultSource nestedExpression := by
    refine ⟨?_, by decide +kernel, by decide +kernel, by decide +kernel⟩
    cases parsed : Source.Expr.parse nestedExpression with
    | ok x => exact ⟨x, rfl⟩
    | error fs =>
      rw [parsed] at accepted
      cases accepted
  have all (s : Text) (h : .default s ∈ nestedOptions) : DefaultSource s := by
    have same : s = nestedExpression := by simpa [nestedOptions] using h
    exact same ▸ writable
  exact ⟨all, readOptions_renderOptions nestedOptions all 1⟩

end DocAccessors
