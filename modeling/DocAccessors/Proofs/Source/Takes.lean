import DocAccessors.Proofs.Source.ParallelStmt
import DocAccessors.Proofs.Source.Symbols

/-!
# Rules that read given symbols

* `Takes c p xs u P`: before the symbols `xs` and the token `u`, the rule `p` reads these symbols without faults, and what it
  reads has the property `P`;
* `Takes.bind` puts rules together; for the steps that all rules are made of there is a lemma about what is done behind them;
* `takes_expr_of_parse`: what is an expression on its own is one wherever it stands before a delimiter, and
  `firstToken_of_parse`: it does not start with a brace.
-/

set_option mvcgen.warning false

namespace DocAccessors.Source.Grammar

/-- The state is before the given symbols, without faults, and the item `f` follows them. -/
structure State.Before (xs : List Symbol) (f : Item) (rest : List Item) (s : State) : Prop where
  items : ∃ is, s.items = is ++ f :: rest ∧ is.map Item.symbol = xs ∧ ∀ i ∈ is, i.faults = []
  follow : f.faults = []
  clean : s.faults = []

/-- The state `t` is before the item `f`, and otherwise like the state `s`. -/
structure State.Past (s : State) (f : Item) (rest : List Item) (t : State) : Prop where
  items : t.items = f :: rest
  clean : t.faults = []
  same : t.SameSwitches s

/-- Where a rule stands: on the right of an assignment, or in the header of a control statement. -/
structure Site where
  rhs : Bool := false
  header : Bool := false

/-- The switches of a state are those of a context. -/
def State.In (c : Site) (s : State) : Prop := s.inRhs = c.rhs ∧ (s.level < 0 ↔ c.header = true)

/-- Before the symbols `xs` and the token `u`, the rule reads these symbols without faults, and what it reads has the property
`P`. -/
structure Takes (c : Site) (p : Parse α) (xs : List Symbol) (u : Token) (P : α → Prop) : Prop where
  run : ∀ {s : State} {f : Item} {rest : List Item}, s.Before xs f rest → s.In c → f.token = u →
    ∃ a t, p.run s = .ok (a, t) ∧ s.Past f rest t ∧ P a

/-- The first token of symbols that another token follows. -/
def firstToken : List Symbol → Token → Token
  | [], u => u
  | x :: _, _ => x.1

@[simp]
theorem firstToken_nil (u : Token) : firstToken [] u = u := rfl

@[simp]
theorem firstToken_cons (x : Symbol) (xs : List Symbol) (u : Token) : firstToken (x :: xs) u = x.1 := rfl

@[simp]
theorem firstToken_append (xs ys : List Symbol) (u : Token) : firstToken (xs ++ ys) u = firstToken xs (firstToken ys u) := by
  cases xs <;> rfl

section

variable {c : Site} {p : Parse α} {xs ys : List Symbol} {x : Symbol} {u : Token} {P : α → Prop} {Q : β → Prop}

theorem State.Before.split {s : State} {f : Item} {rest : List Item} (h : s.Before (xs ++ ys) f rest) :
    ∃ g rest', s.Before xs g rest' ∧ g.token = firstToken ys f.token ∧
      ∀ {t : State}, s.Past g rest' t → t.Before ys f rest := by
  obtain ⟨is, items, seen, clean⟩ := h.items
  obtain ⟨is, js, rfl, rfl, rfl⟩ := List.map_eq_append_iff.1 seen
  obtain ⟨clean_is, clean_js⟩ := List.forall_mem_append.1 clean
  cases js with
  | nil =>
    refine ⟨f, rest, ⟨⟨is, by simpa using items, rfl, clean_is⟩, h.follow, h.clean⟩, rfl, fun past => ?_⟩
    exact ⟨⟨[], past.items, rfl, by simp⟩, h.follow, past.clean⟩
  | cons j js =>
    refine ⟨j, js ++ f :: rest, ⟨⟨is, by simpa using items, rfl, clean_is⟩, clean_js j (by simp), h.clean⟩, rfl, fun past => ?_⟩
    exact ⟨⟨j :: js, past.items, rfl, clean_js⟩, h.follow, past.clean⟩

theorem State.Past.trans {s t v : State} {f g : Item} {rest rest' : List Item} (h : s.Past g rest' t) (h' : t.Past f rest v) :
    s.Past f rest v := ⟨h'.items, h'.clean, h'.same.trans h.same⟩

theorem State.Past.inside {s t : State} {f : Item} {rest : List Item} (h : s.Past f rest t) (inside : s.In c) : t.In c :=
  ⟨h.same.inRhs.trans inside.1, by rw [h.same.level]; exact inside.2⟩

theorem takes_pure {a : α} (h : P a) : Takes c (pure a) [] u P := by
  refine ⟨fun {s f rest} before _ _ => ?_⟩
  obtain ⟨is, items, seen, -⟩ := before.items
  obtain rfl := List.map_eq_nil_iff.1 seen
  exact ⟨a, s, rfl, ⟨items, before.clean, .refl s⟩, h⟩

/-- One rule after the other. -/
theorem Takes.bind {f : α → Parse β} (hp : Takes c p xs (firstToken ys u) P) (hf : ∀ a, P a → Takes c (f a) ys u Q) :
    Takes c (p >>= f) (xs ++ ys) u Q := by
  refine ⟨fun {s f rest} before inside follow => ?_⟩
  obtain ⟨g, rest', first, token, second⟩ := before.split
  obtain ⟨a, t, run, past, holds⟩ := hp.run first inside (by rw [token, follow])
  obtain ⟨b, v, run', past', holds'⟩ := (hf a holds).run (second past) (past.inside inside) follow
  exact ⟨b, v, run_bind_eq_ok.2 ⟨a, t, run, run'⟩, past.trans past', holds'⟩

/-- One rule after another one that reads a single symbol. -/
theorem Takes.one {f : α → Parse β} (hp : Takes c p [x] (firstToken xs u) P) (hf : ∀ a, P a → Takes c (f a) xs u Q) :
    Takes c (p >>= f) (x :: xs) u Q := hp.bind hf

/-- One rule after another one that reads nothing. -/
theorem Takes.none {f : α → Parse β} (hp : Takes c p [] (firstToken xs u) P) (hf : ∀ a, P a → Takes c (f a) xs u Q) :
    Takes c (p >>= f) xs u Q := hp.bind hf

/-- One rule after another one that reads everything. -/
theorem Takes.last {f : α → Parse β} (hp : Takes c p xs u P) (hf : ∀ a, P a → Takes c (f a) [] u Q) :
    Takes c (p >>= f) xs u Q := by
  rw [← List.append_nil xs]
  exact hp.bind hf

theorem Takes.imp {P' : α → Prop} (hp : Takes c p xs u P) (holds : ∀ a, P a → P' a) : Takes c p xs u P' := by
  refine ⟨fun {s f rest} before inside follow => ?_⟩
  obtain ⟨a, t, run, past, h⟩ := hp.run before inside follow
  exact ⟨a, t, run, past, holds a h⟩

/-! ## Steps -/

/-- The current item has the first token. -/
theorem State.Before.current {s : State} {f : Item} {rest : List Item} (h : s.Before xs f rest) :
    ∃ i, current.run s = .ok (i, s) ∧ i.token = firstToken xs f.token := by
  obtain ⟨is, items, rfl, -⟩ := h.items
  refine ⟨_, run_current s, ?_⟩
  rw [items]
  cases is <;> rfl

theorem takes_current {f : Item → Parse β} (hf : ∀ i : Item, i.token = firstToken xs u → Takes c (f i) xs u Q) :
    Takes c (current >>= f) xs u Q := by
  refine ⟨fun {s g rest} before inside follow => ?_⟩
  obtain ⟨i, run, token⟩ := before.current
  obtain ⟨b, t, run', past, holds⟩ := (hf i (by rw [token, follow])).run before inside follow
  exact ⟨b, t, run_bind_eq_ok.2 ⟨i, s, run, run'⟩, past, holds⟩

/-- A rule that looks at the current token and reads nothing. -/
theorem takes_look {g : Token → α} {f : α → Parse β}
    (looks : ∀ s : State, p.run s = .ok (g (s.items.head?.getD { offset := s.file.size, token := .eof, lit := [] }).token, s))
    {a : α} (seen : g (firstToken xs u) = a) (hf : Takes c (f a) xs u Q) : Takes c (p >>= f) xs u Q := by
  refine ⟨fun {s i rest} before inside follow => ?_⟩
  obtain ⟨j, here, token⟩ := before.current
  rw [run_current] at here
  cases here
  obtain ⟨b, t, run, past, holds⟩ := hf.run before inside follow
  refine ⟨b, t, run_bind_eq_ok.2 ⟨a, s, ?_, run⟩, past, holds⟩
  rw [looks, token, follow, seen]

theorem takes_token {f : Token → Parse β} {t : Token} (here : firstToken xs u = t) (hf : Takes c (f t) xs u Q) :
    Takes c (token >>= f) xs u Q := takes_look (g := id) (fun _ => rfl) here hf

theorem takes_offset {f : Nat → Parse β} (hf : ∀ o, Takes c (f o) xs u Q) : Takes c (offset >>= f) xs u Q := by
  refine ⟨fun {s i rest} before inside follow => ?_⟩
  obtain ⟨b, t, run, past, holds⟩ := (hf _).run before inside follow
  exact ⟨b, t, run_bind_eq_ok.2 ⟨_, s, rfl, run⟩, past, holds⟩

theorem takes_isAt {t : Token} {f : Bool → Parse β} (here : firstToken xs u = t) (hf : Takes c (f true) xs u Q) :
    Takes c (isAt t >>= f) xs u Q := takes_look (g := (· == t)) (fun _ => rfl) (beq_iff_eq.2 here) hf

theorem takes_notAt {t : Token} {f : Bool → Parse β} (other : firstToken xs u ≠ t) (hf : Takes c (f false) xs u Q) :
    Takes c (isAt t >>= f) xs u Q := takes_look (g := (· == t)) (fun _ => rfl) (beq_eq_false_iff_ne.2 other) hf

theorem takes_isAtAny {ts : List Token} {f : Bool → Parse β} (here : firstToken xs u ∈ ts) (hf : Takes c (f true) xs u Q) :
    Takes c (isAtAny ts >>= f) xs u Q :=
  takes_look (g := ts.contains) (fun _ => rfl) (List.contains_iff_mem.2 here) hf

theorem takes_notAtAny {ts : List Token} {f : Bool → Parse β} (other : firstToken xs u ∉ ts) (hf : Takes c (f false) xs u Q) :
    Takes c (isAtAny ts >>= f) xs u Q :=
  takes_look (g := ts.contains) (fun _ => rfl) (by simpa using other) hf

theorem takes_get {f : State → Parse β}
    (hf : ∀ s : State, s.In c → Takes c (f s) xs u Q) : Takes c (get >>= f) xs u Q := by
  refine ⟨fun {s g rest} before inside follow => ?_⟩
  obtain ⟨b, t, run, past, holds⟩ := (hf s inside).run before inside follow
  exact ⟨b, t, run_bind_eq_ok.2 ⟨s, s, rfl, run⟩, past, holds⟩

/-- A symbol is passed. -/
theorem takes_next' : Takes c next [x] u fun _ => True := by
  refine ⟨fun {s f rest} before _ _ => ?_⟩
  obtain ⟨is, items, seen, -⟩ := before.items
  obtain ⟨i, rfl, -⟩ := List.map_eq_singleton_iff.1 seen
  refine ⟨(), _, run_next s, ?_, trivial⟩
  rw [items]
  exact ⟨rfl, by simp [before.follow, placed, before.clean], ⟨rfl, rfl⟩⟩

theorem takes_next {f : Unit → Parse β} (hf : Takes c (f ()) xs u Q) : Takes c (next >>= f) (x :: xs) u Q :=
  takes_next'.bind fun _ _ => hf

theorem takes_expect {t : Token} {f : Nat → Parse β} (here : x.1 = t) (hf : ∀ o, Takes c (f o) xs u Q) :
    Takes c (expect t >>= f) (x :: xs) u Q := by
  refine Takes.one (P := fun _ => True) (takes_current fun i token => ?_) fun o _ => hf o
  rw [if_neg (by simp [token, here])]
  exact takes_next (takes_pure trivial)

theorem takes_expect? {t : Token} {f : Option Nat → Parse β} (here : x.1 = t) (hf : ∀ o, Takes c (f o) xs u Q) :
    Takes c (expect? t >>= f) (x :: xs) u Q := by
  refine Takes.one (P := fun _ => True) (takes_current fun i token => ?_) fun o _ => hf o
  dsimp only
  rw [if_neg (by simp [token, here])]
  exact takes_next (takes_pure trivial)

theorem takes_ident {f : Ident → Parse β} (here : x.1 = .ident) (hf : ∀ n, Takes c (f n) xs u Q) :
    Takes c (ident >>= f) (x :: xs) u Q := by
  refine Takes.one (P := fun _ => True) (takes_current fun i token => ?_) fun n _ => hf n
  rw [if_pos (by simp [token, here])]
  exact takes_next (takes_pure trivial)

theorem takes_expectClosing {t : Token} {inside : Text} {f : Nat → Parse β} (here : x.1 = t) (hf : ∀ o, Takes c (f o) xs u Q) :
    Takes c (expectClosing t inside >>= f) (x :: xs) u Q := by
  refine Takes.one (P := fun _ => True) (takes_current fun i token => ?_) fun o _ => hf o
  rw [if_neg (by simp [token, here])]
  simpa using takes_expect (f := pure) here fun o => takes_pure trivial

theorem takes_atComma {inside : Text} {closing : Token} {f : Bool → Parse β}
    (here : firstToken xs u = .comma ∨ firstToken xs u = closing)
    (hf : Takes c (f (firstToken xs u == .comma)) xs u Q) : Takes c (atComma inside closing >>= f) xs u Q := by
  refine Takes.none (P := fun b => b = (firstToken xs u == .comma)) (takes_current fun i token => ?_) fun b same => same ▸ hf
  rw [firstToken_nil] at token
  by_cases comma : firstToken xs u = .comma
  · rw [if_pos (by simp [token, comma])]
    exact takes_pure (by simp [comma])
  · rw [if_neg (by simp [token, comma]), if_neg (by simp [token, here.resolve_left comma])]
    exact takes_pure (by simp [comma])

/-- The end of a line ends a statement. -/
theorem takes_expectSemi {f : Option CommentGroup → Parse β} (hf : ∀ comment, Takes c (f comment) xs u Q) :
    Takes c (expectSemi >>= f) (lineEnd :: xs) u Q := by
  refine Takes.one (P := fun _ => True) (takes_current fun i token => ?_) fun comment _ => hf comment
  replace token : i.token = .semicolon := token
  rw [token]
  dsimp only
  rw [if_neg (show ¬(Token.semicolon == Token.comma) = true by decide)]
  split
  · exact takes_next (takes_current fun _ _ => takes_pure trivial)
  · exact takes_next (takes_pure trivial)

/-! ## Switches and lists -/

theorem Takes.nested (body : c.header = false) (hp : Takes c p xs u P) : Takes c (nested p) xs u P := by
  refine ⟨fun {s f rest} before inside follow => ?_⟩
  have level := inside.2
  rw [body] at level
  obtain ⟨a, t, run, past, holds⟩ := hp.run (s := { s with level := s.level + 1 }) ⟨before.items, before.follow, before.clean⟩
    ⟨inside.1, by rw [body]; dsimp only; simp at level ⊢; omega⟩ follow
  exact ⟨a, _, run_withLevel_eq_ok.2 ⟨t, run, rfl⟩, ⟨past.items, past.clean, rfl, past.same.inRhs⟩, holds⟩

theorem Takes.withRhs {b : Bool} (hp : Takes { c with rhs := b } p xs u P) : Takes c (withRhs b p) xs u P := by
  refine ⟨fun {s f rest} before inside follow => ?_⟩
  obtain ⟨a, t, run, past, holds⟩ := hp.run
      (s := { s with inRhs := b }) ⟨before.items, before.follow, before.clean⟩ ⟨rfl, inside.2⟩
    follow
  exact ⟨a, _, run_withRhs_eq_ok.2 ⟨t, run, rfl⟩, ⟨past.items, past.clean, past.same.level, rfl⟩, holds⟩

/-- The header of a control statement. -/
theorem Takes.header (hp : Takes { c with header := true } p xs u P) : Takes c (withLevel (fun _ => -1) p) xs u P := by
  refine ⟨fun {s f rest} before inside follow => ?_⟩
  obtain ⟨a, t, run, past, holds⟩ := hp.run (s := { s with level := -1 }) ⟨before.items, before.follow, before.clean⟩
    ⟨inside.1, by simp⟩ follow
  exact ⟨a, _, run_withLevel_eq_ok.2 ⟨t, run, rfl⟩, ⟨past.items, past.clean, rfl, past.same.inRhs⟩, holds⟩

end

end DocAccessors.Source.Grammar

/-! ## Expressions where they stand -/

namespace DocAccessors.Source

open Grammar

variable {src : Text} {x : Expr}

/-- An expression that was read is the result of a run over its items without faults. -/
theorem Expr.exists_run_of_parse (read : Expr.parse src = .ok x) (whole : WholeTokens src) :
    let items := Item.dropComments [] (lex [] src).1
    ∃ s t, s.items = items ∧ s.faults = [] ∧ s.level = 0 ∧ s.inRhs = false ∧ t.faults = [] ∧
      (Rules.ofDepth (20 * items.length + 100) (4 * items.length + 20)).wholeExpr.run s = .ok (x, t) := by
  intro items
  have clean := (Item.dropComments_symbols whole.clean).2
  unfold Expr.parse runRule at read
  split at read
  · next y attempted =>
    cases read
    unfold attemptRule at attempted
    dsimp only at attempted
    split at attempted
    · cases attempted
    · next y t run =>
      obtain ⟨found, none⟩ := Prod.mk.inj attempted
      rw [Option.some.inj found] at run
      rw [SyntaxFault.sort_eq_nil, List.reverse_eq_nil_iff] at none
      refine ⟨_, t, rfl, ?_, rfl, rfl, none, run⟩
      dsimp only
      split
      · next i is split =>
        rw [clean i (by rw [split]; simp)]
        rfl
      · rfl
  · cases read

/-- The items of an expression on its own: its symbols, and the end. -/
theorem WholeTokens.items (whole : WholeTokens src) :
    (Item.dropComments [] (lex [] src).1).map Item.symbol = symbolsOf src ++ ending (endsStatement (symbolsOf src)) :=
  (Item.dropComments_symbols whole.clean).1.trans whole.symbols_lex

/-- The end is only at the end. -/
theorem eq_nil_of_eof {xs zs ws : List Symbol} {y : Symbol} {b : Bool} (inner : ∀ x ∈ xs, x.1 ≠ .eof)
    (split : xs ++ ending b = zs ++ y :: ws) (eof : y.1 = .eof) : ws = [] := by
  rcases List.eq_nil_or_concat' ws with rfl | ⟨ws, last, rfl⟩
  · rfl
  · have before := congrArg List.dropLast split
    have among : y ∈ xs ++ if b then [lineEnd] else [] := by
      rw [ending, ← List.append_assoc, ← List.cons_append, ← List.append_assoc, List.dropLast_concat,
        List.dropLast_concat] at before
      rw [before]
      simp
    rcases List.mem_append.1 among with among | among
    · exact absurd eof (inner y among)
    · split at among
      · rw [List.mem_singleton.1 among] at eof
        cases eof
      · cases among

namespace Grammar

/-- Before the end, a token is expected that is there. -/
theorem eof_of_expect {s t : State} {o : Nat} (run : (expect .eof).run s = .ok (o, t)) (clean : t.faults = []) :
    ∀ i ∈ s.items.head?, i.token = .eof := by
  intro i hi
  by_contra other
  obtain ⟨_, _, here, run⟩ := run_bind_eq_ok.1 run
  rw [run_current, Option.mem_def.1 hi] at here
  cases here
  rw [Option.getD_some, if_pos (by simpa using other)] at run
  obtain ⟨_, _, reported, run⟩ := run_bind_eq_ok.1 run
  obtain ⟨_, _, passed, run⟩ := run_bind_eq_ok.1 run
  cases run
  exact (faulty_faultExpected _ _).faults reported (Steady.clean (fun _ => keeps_next) passed clean)

/-- What follows an expression on its own is the semicolon of its last line, and the end. -/
theorem exists_seam {fuel depth : Nat} {s t : State} {x : Expr} {xs : List Symbol} (inner : ∀ x ∈ xs, x.1 ≠ .eof)
    (last : ∀ x ∈ xs.getLast?, x ≠ lineEnd) (items : s.items.map Item.symbol = xs ++ ending (endsStatement xs))
    (run : ((Rules.ofDepth fuel depth).wholeExpr).run s = .ok (x, t)) (clean : t.faults = []) :
    endsStatement xs = true ∧ ∃ ys semi eof t₁, s.items = ys ++ [semi, eof] ∧ ys.map Item.symbol = xs ∧
      semi.token = .semicolon ∧ eof.token = .eof ∧
      (Rules.ofDepth fuel depth).rhs.run s = .ok (x, t₁) ∧ t₁.items = [semi, eof] ∧ t₁.faults = [] := by
  have := Rules.ends_ofDepth fuel depth
  unfold Rules.wholeExpr at run
  obtain ⟨y, t₁, first, run⟩ := run_bind_eq_ok.1 run
  obtain ⟨c, _, here, run⟩ := run_bind_eq_ok.1 run
  rw [run_current] at here
  cases here
  have closed : s.Closed := by
    intro i final
    have token := congrArg List.getLast? items
    rw [List.getLast?_map, Option.mem_def.1 final, ending, ← List.append_assoc, List.getLast?_concat] at token
    exact congrArg Prod.fst (Option.some.inj token)
  -- what was passed last can end a statement
  have ends (clean₁ : t₁.faults = []) : ∃ i, i.token.endsStatement = true ∧ i :: t₁.items <:+ s.items := by
    obtain ⟨t₀, inner, rfl⟩ := run_withRhs_eq_ok.1 first
    exact Rules.ends_expr.passed (s := { s with inRhs := true }) (t := t₀) closed inner clean₁
  have only (zs : List Item) (j : Item) (js : List Item) (split : s.items = zs ++ j :: js) (eof : j.token = .eof) : js = [] := by
    rw [split, List.map_append, List.map_cons] at items
    exact List.map_eq_nil_iff.1 (eq_nil_of_eof inner items.symm eof)
  have eof_after {o : Nat} {m v : State} (run : (expect .eof).run m = .ok (o, v)) (clean : v.faults = []) :
      m.faults = [] ∧ ∀ i ∈ m.items.head?, i.token = .eof :=
    ⟨Steady.clean (fun _ => keeps_expect .eof) run clean, eof_of_expect run clean⟩
  dsimp only at run
  split at run
  · next lineBreak =>
    obtain ⟨_, t₂, passed, run⟩ := run_bind_eq_ok.1 run
    obtain ⟨o, t₃, expected, run⟩ := run_bind_eq_ok.1 run
    cases run
    obtain ⟨clean₂, eof⟩ := eof_after expected clean
    have clean₁ := Steady.clean (fun _ => keeps_next) passed clean₂
    obtain ⟨i, can_end, before, split⟩ := ends clean₁
    rw [run_next] at passed
    cases passed
    rcases left : t₁.items with _ | ⟨j, _ | ⟨j', js⟩⟩
    · rw [left] at lineBreak
      cases lineBreak
    · rw [left] at lineBreak eof
      have token := eof j (by simp [left])
      simp [Item.isLineBreak, token] at lineBreak
    · rw [left] at split lineBreak eof
      obtain rfl := only (before ++ [i, j]) j' js (by simp [← split]) (eof j' rfl)
      rw [List.head?_cons, Option.getD_some, Item.isLineBreak, Bool.and_eq_true, beq_iff_eq, beq_iff_eq] at lineBreak
      rw [← split, List.map_append, List.map_cons, List.map_cons, List.map_cons, List.map_nil] at items
      have same : endsStatement xs = true ∧ (before ++ [i]).map Item.symbol = xs := by
        cases breakEnds : endsStatement xs with
        | true =>
          rw [breakEnds, ← List.singleton_append, ← List.append_assoc] at items
          obtain ⟨same, -⟩ := List.append_inj' items rfl
          exact ⟨rfl, by simpa using same⟩
        | false =>
          -- the text would end with a line break
          rw [breakEnds, ← List.singleton_append, ← List.append_assoc, ← List.singleton_append (x := j.symbol),
            ← List.append_assoc] at items
          obtain ⟨same, -⟩ := List.append_inj' items rfl
          refine absurd (Prod.ext lineBreak.1 lineBreak.2) (last j.symbol ?_)
          rw [← same]
          simp
      exact ⟨same.1, before ++ [i], j, j', t₁, by simp [← split], same.2, lineBreak.1, eof j' rfl, first, left, clean₁⟩
  · next notBreak =>
    obtain ⟨o, t₃, expected, run⟩ := run_bind_eq_ok.1 run
    cases run
    obtain ⟨clean₁, eof⟩ := eof_after expected clean
    obtain ⟨i, can_end, before, split⟩ := ends clean₁
    exfalso
    cases left : t₁.items with
    | nil =>
      rw [left] at split
      have final := closed i (by simp [← split])
      rw [final] at can_end
      cases can_end
    | cons j js =>
      rw [left] at split eof
      obtain rfl := only (before ++ [i]) j js (by simp [← split]) (eof j rfl)
      rw [← split, List.map_append, List.map_cons, List.map_cons, List.map_nil] at items
      cases breakEnds : endsStatement xs with
      | true =>
        rw [breakEnds] at items
        obtain ⟨-, same⟩ := List.append_inj' items rfl
        have token : i.token = .semicolon := congrArg Prod.fst (List.cons_eq_cons.1 same).1
        rw [token] at can_end
        cases can_end
      | false =>
        rw [breakEnds, ← List.singleton_append, ← List.append_assoc] at items
        obtain ⟨same, -⟩ := List.append_inj' items rfl
        rw [← same] at breakEnds
        simp [endsStatement, Item.symbol, can_end] at breakEnds

theorem forall₂_alike {is js : List Item} (same : is.map Item.symbol = js.map Item.symbol) (clean : ∀ j ∈ js, j.faults = []) :
    List.Forall₂ Item.Alike is js := by
  induction is generalizing js with
  | nil =>
    obtain rfl := List.map_eq_nil_iff.1 same.symm
    exact .nil
  | cons i is ih =>
    obtain ⟨j, js, rfl, first, rest⟩ := List.map_eq_cons_iff.1 same.symm
    obtain ⟨token, lit⟩ : j.token = i.token ∧ j.lit = i.lit := Prod.mk.inj first
    obtain ⟨clean_first, clean_rest⟩ := List.forall_mem_cons.1 clean
    exact .cons ⟨token.symm, lit.symm, clean_first⟩ (ih rest.symm clean_rest)

/-- Tokens that no expression starts with. -/
def noStart : List Token := [.lbrace, .rbrace, .rparen, .semicolon, .eof]

/-- What starts with such a token is no operand. -/
theorem faults_of_noStart {fuel depth : Nat} {s t : State} {i : Item} {x : Expr} (here : s.items.head? = some i)
    (bad : i.token ∈ noStart) (run : (Rules.ofDepth fuel (depth + 3)).expr.run s = .ok (x, t)) : t.faults ≠ [] := by
  intro clean
  obtain ⟨y, t₁, unary, rest⟩ := run_bind_eq_ok.1 run
  have := Rules.ends_ofDepth fuel (depth + 2)
  have := Rules.ends_ofDepth fuel (depth + 1)
  have clean₁ := Steady.clean (fun _ => Rules.keeps_binaryRest _ _ _) rest clean
  obtain ⟨_, _, first, unary⟩ := run_bind_eq_ok.1 unary
  rw [run_current, here, Option.getD_some] at first
  cases first
  have primary : ((Rules.ofDepth fuel (depth + 1)).primary none).run s = .ok (y, t₁) := by
    rw [← unary]
    generalize i.token = token at bad ⊢
    fin_cases bad <;> rfl
  obtain ⟨z, t₂, operand, rest⟩ := run_bind_eq_ok.1 primary
  have clean₂ := Steady.clean (fun _ => Rules.keeps_primaryRest _ _) rest clean₁
  obtain ⟨_, _, first, operand⟩ := run_bind_eq_ok.1 operand
  rw [run_current, here, Option.getD_some] at first
  cases first
  have type : (Rules.ofDepth fuel (depth + 1)).type?.run s = .ok (none, s) := by
    refine run_bind_eq_ok.2 ⟨i.token, s, ?_, ?_⟩
    · change Except.ok ((s.items.head?.getD { offset := s.file.size, token := .eof, lit := [] }).token, s) = _
      rw [here]
      rfl
    · generalize i.token = token at bad ⊢
      fin_cases bad <;> rfl
  have none : (do
      faultExpected i.offset "operand"
      advance stmtStart
      return Expr.bad i.offset (← offset)).run s = .ok (z, t₂) := by
    generalize i.token = token at bad operand
    fin_cases bad
    all_goals
      obtain ⟨_, _, nothing, operand⟩ := run_bind_eq_ok.1 operand
      rw [type] at nothing
      cases nothing
      exact operand
  exact ((faulty_faultExpected _ _).first fun _ I => by mvcgen).faults none clean₂

/-- **What is an expression on its own is one wherever it stands** before a delimiter, if the rules go deep enough there. -/
theorem takes_expr_of_parse {src : Text} {x : Expr} (read : Expr.parse src = .ok x) (whole : WholeTokens src) {fuel depth : Nat}
    (enough : (symbolsOf src).length < fuel) (deep : 4 * (symbolsOf src).length + 28 ≤ depth) {u : Token}
    (follow : u ∈ [.comma, .rparen, .semicolon]) :
    Takes ⟨true, false⟩ (Rules.ofDepth fuel depth).expr (symbolsOf src) u fun _ => True := by
  obtain ⟨s, t, items, clean, level, -, clean_t, run⟩ := Expr.exists_run_of_parse read whole
  have seen := whole.items
  rw [← items] at seen run
  obtain ⟨-, inner, last⟩ := whole.symbolsOf_spec
  obtain ⟨-, ys, semi, eof, t₁, split, spelled, semi_token, eof_token, first, left, clean₁⟩ := exists_seam inner last seen
    run clean_t
  obtain ⟨t₀, alone, rfl⟩ := run_withRhs_eq_ok.1 first
  have length : ys.length = (symbolsOf src).length := by rw [← spelled, List.length_map]
  refine ⟨fun {s' f rest} before inside token => ?_⟩
  have level' : 0 ≤ s'.level := by simpa using inside.2
  obtain ⟨ys', split', spelled', clean'⟩ := before.items
  let E : Seam := ⟨semi, eof, f, rest, semi_token, eof_token, token ▸ follow, before.follow⟩
  have beside : Beside E ys ys' { s with inRhs := true } s' := by
    refine ⟨split, split', forall₂_alike (spelled.trans spelled'.symm) clean', clean, before.clean, ?_⟩
    simp [State.switches, openness, level, level', inside.1]
  have total : s.items.length = (symbolsOf src).length + 2 := by rw [split, ← length, List.length_append]; rfl
  rw [total] at alone
  have parallel : Rules.Parallel E (ys.length + 1) (Rules.ofDepth (20 * ((symbolsOf src).length + 2) + 100)
      (4 * ((symbolsOf src).length + 2) + 20)) (Rules.ofDepth fuel depth) :=
    Rules.parallel_ofDepth (by omega) (by omega) (by omega)
  have := Rules.ends_ofDepth (20 * ((symbolsOf src).length + 2) + 100) (4 * ((symbolsOf src).length + 2) + 20)
  obtain ⟨b, t', zs, zs', run', -, after, -, -, same⟩ :=
    (Rules.mirrors_expr parallel).follows beside (Nat.lt_succ_self _) alone clean₁ (Nat.le_of_eq (congrArg List.length left).symm)
  have none : zs = [] := List.append_cancel_right (after.items.symm.trans left : zs ++ [semi, eof] = [] ++ [semi, eof])
  have none' : zs' = [] := by
    have alike := after.alike
    rw [none] at alike
    cases alike
    rfl
  exact ⟨b, t', run', ⟨by rw [after.items', none']; rfl, after.clean', same⟩, trivial⟩

/-- An expression starts with a token that can start one, and a line break behind it ends the statement. -/
theorem edges_of_parse {src : Text} {x : Expr} (read : Expr.parse src = .ok x) (whole : WholeTokens src) :
    (∀ u, firstToken (symbolsOf src) u ∉ noStart) ∧ endsStatement (symbolsOf src) = true := by
  obtain ⟨s, t, items, clean, -, -, clean_t, run⟩ := Expr.exists_run_of_parse read whole
  have seen := whole.items
  rw [← items] at seen run
  obtain ⟨some_symbol, inner, last⟩ := whole.symbolsOf_spec
  obtain ⟨ends, ys, semi, eof, t₁, split, spelled, -, -, first, -, clean₁⟩ := exists_seam inner last seen run clean_t
  refine ⟨fun u bad => ?_, ends⟩
  obtain ⟨t₀, alone, rfl⟩ := run_withRhs_eq_ok.1 first
  rw [← spelled] at bad some_symbol
  obtain ⟨i, is, rfl⟩ := List.exists_cons_of_ne_nil (List.map_eq_nil_iff.not.1 some_symbol)
  refine faults_of_noStart (i := i) ?_ bad alone clean₁
  simp [split]

/-- The symbols are an expression wherever they stand before a delimiter, if the rules go deep enough. -/
structure IsExpression (xs : List Symbol) : Prop where
  first : ∀ u, firstToken xs u ∉ noStart
  takes : ∀ {fuel depth : Nat} {u : Token}, xs.length < fuel → 4 * xs.length + 28 ≤ depth → u ∈ [.comma, .rparen, .semicolon] →
    Takes ⟨true, false⟩ (Rules.ofDepth fuel depth).expr xs u fun _ => True

theorem isExpression_of_parse {src : Text} {x : Expr} (read : Expr.parse src = .ok x) (whole : WholeTokens src) :
    IsExpression (symbolsOf src) :=
  ⟨(edges_of_parse read whole).1, fun enough deep follow => takes_expr_of_parse read whole enough deep follow⟩

end Grammar

end DocAccessors.Source
