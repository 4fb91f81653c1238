import DocAccessors.Proofs.Source.Takes

/-!
# Reading lists, types and expressions

What the rules of the grammar read, for the kinds of phrases that generated code is made of.
-/

namespace DocAccessors.Source.Grammar

variable {c : Site} {u : Token} {xs : List Symbol} {α β : Type} {P : α → Prop} {fuel : Nat}

/-! ## Lists -/

/-- A comma. -/
abbrev comma : Symbol := (Token.comma, [])

/-- Phrases with commas between them. -/
def separated : List (List Symbol) → List Symbol
  | [] => []
  | [xs] => xs
  | xs :: ys :: xss => xs ++ comma :: separated (ys :: xss)

theorem separated_cons (xs : List Symbol) (xss : List (List Symbol)) :
    separated (xs :: xss) = xs ++ (xss.map (comma :: ·)).flatten := by
  induction xss generalizing xs with
  | nil => simp [separated]
  | cons ys xss ih => rw [separated, ih, List.map_cons, List.flatten_cons, List.cons_append]

theorem length_separated_le (xss : List (List Symbol)) : xss.length ≤ (separated xss).length + 1 := by
  induction xss with
  | nil => simp
  | cons xs xss ih =>
    cases xss with
    | nil => simp
    | cons ys xss => simp only [separated, List.length_append, List.length_cons] at ih ⊢; omega

theorem length_le_separated {xss : List (List Symbol)} (h : xs ∈ xss) : xs.length ≤ (separated xss).length := by
  induction xss with
  | nil => cases h
  | cons ys xss ih =>
    cases xss with
    | nil => rw [List.mem_singleton.1 h, separated]
    | cons zs xss =>
      rw [separated, List.length_append, List.length_cons]
      rcases List.mem_cons.1 h with rfl | h
      · omega
      · have := ih h
        omega

/-- A rule is not repeated when its condition does not hold. -/
theorem takes_manyWhile_none {cond : Parse Bool} {g : Token → Bool} {p : Parse α}
    (looks : ∀ s : State, cond.run s = .ok (g (s.items.head?.getD { offset := s.file.size, token := .eof, lit := [] }).token, s))
    (stop : g (firstToken xs u) = false) {f : List α → Parse β} {Q : β → Prop} (hf : Takes c (f []) xs u Q) :
    Takes c (manyWhile cond p fuel >>= f) xs u Q := by
  refine Takes.none (P := fun as => as = []) ?_ fun as has => has ▸ hf
  cases fuel with
  | zero => exact takes_pure rfl
  | succ fuel => exact takes_look looks stop (takes_pure rfl)

/-- A repeated rule reads phrases one by one, as long as its condition, which depends on the current token, holds. -/
theorem takes_manyWhile {cond : Parse Bool} {g : Token → Bool} {p : Parse α}
    (looks : ∀ s : State, cond.run s = .ok (g (s.items.head?.getD { offset := s.file.size, token := .eof, lit := [] }).token, s))
    (stop : g u = false) {xss : List (List Symbol)}
    (each : ∀ xs ∈ xss, (∀ v, g (firstToken xs v) = true) ∧ ∀ v, v = u ∨ g v = true → Takes c p xs v P)
    (enough : xss.length ≤ fuel) :
    Takes c (manyWhile cond p fuel) xss.flatten u fun as => as.length = xss.length ∧ ∀ a ∈ as, P a := by
  induction xss generalizing fuel with
  | nil =>
    cases fuel with
    | zero => exact takes_pure (by simp)
    | succ fuel => exact takes_look looks stop (takes_pure (by simp))
  | cons xs xss ih =>
    obtain ⟨fuel, rfl⟩ := Nat.exists_eq_succ_of_ne_zero (Nat.ne_zero_of_lt enough)
    obtain ⟨⟨starts, reads⟩, rest⟩ := List.forall_mem_cons.1 each
    rw [List.flatten_cons]
    refine takes_look (a := true) looks (by rw [firstToken_append]; exact starts _) ?_
    have next : firstToken xss.flatten u = u ∨ g (firstToken xss.flatten u) = true := by
      cases xss with
      | nil => exact .inl rfl
      | cons ys xss =>
        rw [List.flatten_cons, firstToken_append]
        exact .inr ((rest ys (by simp)).1 _)
    refine (reads _ next).bind fun a ha => ?_
    refine (ih rest (Nat.le_of_succ_le_succ enough)).last fun as has => takes_pure ?_
    exact ⟨congrArg (· + 1) has.1, List.forall_mem_cons.2 ⟨ha, has.2⟩⟩

/-- A list in which a comma may stand behind the last element. -/
theorem takes_listUntil {inside : Text} {closing : Token} {p : Parse α} {xss : List (List Symbol)}
    (each : ∀ xs ∈ xss, (∀ v, firstToken xs v ≠ closing ∧ firstToken xs v ≠ .eof) ∧ Takes c p xs .comma P)
    (enough : xss.length ≤ fuel) :
    Takes c (listUntil inside closing p fuel) (xss.flatMap (· ++ [comma])) closing fun as => ∀ a ∈ as, P a := by
  induction xss generalizing fuel with
  | nil =>
    cases fuel with
    | zero => exact takes_pure (by simp)
    | succ fuel => exact takes_isAt rfl (takes_pure (by simp))
  | cons xs xss ih =>
    obtain ⟨fuel, rfl⟩ := Nat.exists_eq_succ_of_ne_zero (Nat.ne_zero_of_lt enough)
    obtain ⟨⟨starts, reads⟩, rest⟩ := List.forall_mem_cons.1 each
    rw [List.flatMap_cons, List.append_assoc]
    have first : ∀ v, firstToken (xs ++ [comma] ++ xss.flatMap (· ++ [comma])) v = firstToken xs .comma := by simp
    refine takes_notAt (by rw [← List.append_assoc, first]; exact (starts _).1) ?_
    refine takes_notAt (by rw [← List.append_assoc, first]; exact (starts _).2) ?_
    refine reads.bind fun a ha => takes_atComma (.inl rfl) (takes_next ?_)
    exact (ih rest (Nat.le_of_succ_le_succ enough)).last fun as has => takes_pure (List.forall_mem_cons.2 ⟨ha, has⟩)

/-- A list in which no comma stands behind the last element. -/
theorem takes_listUntil_separated {inside : Text} {closing : Token} {p : Parse α} (other : closing ≠ .comma)
    {xss : List (List Symbol)}
    (each : ∀ xs ∈ xss, (∀ v, firstToken xs v ≠ closing ∧ firstToken xs v ≠ .eof) ∧
      ∀ v, v = .comma ∨ v = closing → Takes c p xs v P)
    (enough : xss.length ≤ fuel) :
    Takes c (listUntil inside closing p fuel) (separated xss) closing fun as => as.length = xss.length ∧ ∀ a ∈ as, P a := by
  induction xss generalizing fuel with
  | nil =>
    cases fuel with
    | zero => exact takes_pure (by simp)
    | succ fuel => exact takes_isAt rfl (takes_pure (by simp))
  | cons xs xss ih =>
    obtain ⟨fuel, rfl⟩ := Nat.exists_eq_succ_of_ne_zero (Nat.ne_zero_of_lt enough)
    obtain ⟨⟨starts, reads⟩, rest⟩ := List.forall_mem_cons.1 each
    have open' : Takes c (do
        let a ← p
        if ← atComma inside closing then
          next
          return a :: (← listUntil inside closing p fuel)
        else return [a]) (separated (xs :: xss)) closing fun as => as.length = (xs :: xss).length ∧ ∀ a ∈ as, P a := by
      cases xss with
      | nil =>
        refine (reads _ (.inr rfl)).last fun a ha => takes_atComma (.inr rfl) ?_
        rw [firstToken_nil, beq_eq_false_iff_ne.2 other]
        exact takes_pure (by simpa using ha)
      | cons ys xss =>
        rw [separated]
        refine (reads _ (.inl rfl)).bind fun a ha => takes_atComma (.inl rfl) (takes_next ?_)
        exact (ih rest (Nat.le_of_succ_le_succ enough)).last fun as has => takes_pure
          ⟨congrArg (· + 1) has.1, List.forall_mem_cons.2 ⟨ha, has.2⟩⟩
    have first : ∀ v, ∃ w, firstToken (separated (xs :: xss)) v = firstToken xs w := fun v => by
      rw [separated_cons, firstToken_append]
      exact ⟨_, rfl⟩
    obtain ⟨w, here⟩ := first closing
    exact takes_notAt (by rw [here]; exact (starts w).1) (takes_notAt (by rw [here]; exact (starts w).2) open')

namespace Rules

variable {r : Rules} {xs ys : List Symbol} {n a b : Text} {d : Nat} {Q : Expr → Prop} {P : Expr → Prop}

/-- Expressions with commas between them. -/
theorem takes_list {rhs : Bool} {xss : List (List Symbol)} (some_phrase : xss ≠ []) (enough : xss.length ≤ r.fuel)
    (stop : u ≠ .comma)
    (each : ∀ xs ∈ xss, ∀ v, v = .comma ∨ v = u → Takes { c with rhs } r.expr xs v P) :
    Takes c (r.list rhs) (separated xss) u fun ys => ys.length = xss.length ∧ ∀ y ∈ ys, P y := by
  obtain ⟨xs, xss, rfl⟩ := List.exists_cons_of_ne_nil some_phrase
  obtain ⟨first, rest⟩ := List.forall_mem_cons.1 each
  refine Takes.withRhs ?_
  unfold exprList
  rw [separated_cons]
  have behind : firstToken (xss.map (comma :: ·)).flatten u = .comma ∨ firstToken (xss.map (comma :: ·)).flatten u = u := by
    cases xss with
    | nil => exact .inr rfl
    | cons ys xss => exact .inl rfl
  refine (first _ behind).bind fun y hy => ?_
  have more : Takes { c with rhs } (manyWhile (isAt .comma) (do next; r.expr) r.fuel) (xss.map (comma :: ·)).flatten u fun ys =>
      ys.length = (xss.map (comma :: ·)).length ∧ ∀ y ∈ ys, P y := by
    refine takes_manyWhile (g := (· == .comma)) (fun _ => rfl) (beq_eq_false_iff_ne.2 stop) (fun zs hzs => ?_)
      (by rw [List.length_map]; exact Nat.le_of_succ_le enough)
    obtain ⟨ys, hys, rfl⟩ := List.mem_map.1 hzs
    refine ⟨fun v => rfl, fun v hv => takes_next (rest ys hys v ?_)⟩
    exact hv.elim .inr fun comma => .inl (beq_iff_eq.1 comma)
  refine more.last fun ys hys => takes_pure ?_
  exact ⟨by rw [List.length_cons, hys.1, List.length_map, List.length_cons], List.forall_mem_cons.2 ⟨hy, hys.2⟩⟩

/-- A single expression. -/
theorem takes_list_one {rhs : Bool} (stop : u ≠ .comma) (hx : Takes { c with rhs } r.expr xs u P) :
    Takes c (r.list rhs) xs u fun ys => ∃ y, ys = [y] ∧ P y := by
  refine Takes.withRhs ?_
  unfold exprList
  refine hx.last fun y hy => ?_
  refine takes_manyWhile_none (g := (· == .comma)) (fun _ => rfl) (by simpa using stop) ?_
  exact takes_pure ⟨y, rfl, hy⟩

/-! ## Operands -/

theorem takes_binaryRule {prec : Nat} (strong : 0 < prec) (weak : u.precedence = 0) (other : u ≠ .assign)
    (hx : Takes c r.unary xs u P) : Takes c (r.binaryRule prec) xs u P := by
  refine hx.last fun x hx => ?_
  unfold binaryRest
  split
  · exact takes_pure hx
  · unfold operator
    simp only [bind_assoc, pure_bind]
    refine takes_token rfl (takes_get fun s _ => ?_)
    have op : (if s.inRhs && firstToken [] u == .assign then Token.eql else firstToken [] u) = u := by simp [other]
    rw [op, if_pos (by omega)]
    exact takes_pure hx

theorem takes_unaryRule (plain : firstToken xs u ∉ [.add, .sub, .not, .xor, .and, .tilde, .arrow, .mul])
    (hx : Takes c (r.primary none) xs u P) : Takes c r.unaryRule xs u P := by
  unfold unaryRule
  refine takes_current fun i token => ?_
  simp only [List.mem_cons, List.not_mem_nil, or_false, not_or] at plain
  split <;> simp_all

theorem takes_unaryRule_star (hx : Takes c r.unary xs u fun _ => True) :
    Takes c r.unaryRule ((Token.mul, a) :: xs) u fun _ => True := by
  unfold unaryRule
  refine takes_current fun i token => ?_
  rw [token]
  exact takes_next (hx.last fun x _ => takes_pure trivial)

theorem takes_primary (ho : Takes c r.operand xs (firstToken ys u) P)
    (hr : ∀ x, P x → Takes c (r.primaryRest x r.fuel) ys u Q) : Takes c (r.primary none) (xs ++ ys) u Q := ho.bind hr

theorem takes_operand_ident : Takes c r.operand [(Token.ident, n)] u fun x => ∃ i, x = .ident i := by
  unfold operand
  refine takes_current fun i token => ?_
  rw [token]
  exact takes_ident rfl fun i => takes_pure ⟨i, rfl⟩

theorem takes_operand_literal {t : Token} (literal : t = .int ∨ t = .string) : Takes c r.operand [(t, n)] u fun _ => True := by
  unfold operand
  refine takes_current fun i token => ?_
  rw [token]
  rcases literal with rfl | rfl <;> exact takes_next (takes_pure trivial)

theorem takes_operand_paren (body : c.header = false) (hx : Takes { c with rhs := true } r.expr xs .rparen fun _ => True) :
    Takes c r.operand ((Token.lparen, a) :: xs ++ [(Token.rparen, b)]) u fun _ => True := by
  unfold operand
  refine takes_current fun i token => ?_
  rw [token]
  refine takes_next (Takes.bind (hx.withRhs.nested body) fun x _ => ?_)
  exact takes_expect rfl fun o => takes_pure trivial

theorem takes_operand_type (first : firstToken xs u = .lbrack ∨ firstToken xs u = .kMap)
    (hx : Takes c r.type? xs u fun t => ∃ x, t = some x ∧ P x) : Takes c r.operand xs u P := by
  unfold operand
  refine takes_current fun i token => ?_
  rw [token]
  rcases first with first | first <;> rw [first] <;> refine hx.last ?_ <;> rintro _ ⟨x, rfl, hx⟩ <;> exact takes_pure hx

/-! ## What follows an operand -/

/-- Tokens behind which an expression does not go on. -/
def stops : List Token := .define :: exprEnd

theorem takes_primaryRest_stop {x : Expr} (stop : u ∈ stops) (hx : P x) {k : Nat} : Takes c (r.primaryRest x k) [] u P := by
  cases k with
  | zero => exact takes_pure hx
  | succ k =>
    unfold primaryRest
    refine takes_token rfl ?_
    fin_cases stop <;> exact takes_pure hx

/-- In the header of a control statement, a brace behind a name opens the body. -/
theorem takes_primaryRest_header (header : c.header = true) {i : Ident} (hx : P (.ident i)) {k : Nat} :
    Takes c (r.primaryRest (.ident i) k) [] .lbrace P := by
  cases k with
  | zero => exact takes_pure hx
  | succ k =>
    unfold primaryRest
    refine takes_token rfl (takes_get fun s inside => ?_)
    have level : s.level < 0 := inside.2.2 header
    rw [if_neg (by simpa [opensLiteral, Expr.unparen] using level)]
    exact takes_pure hx

theorem takes_primaryRest_selector {x : Expr} {k : Nat} (hx : ∀ i, Takes c (r.primaryRest (.selector x i) k) xs u P) :
    Takes c (r.primaryRest x (k + 1)) ((Token.period, a) :: (Token.ident, n) :: xs) u P := by
  rw [primaryRest]
  exact takes_token rfl (takes_next (takes_token rfl (takes_ident rfl hx)))

/-- The arguments of a call. -/
theorem takes_callArgs {xss : List (List Symbol)}
    (each : ∀ xs ∈ xss, (∀ v, firstToken xs v ≠ .rparen ∧ firstToken xs v ≠ .eof) ∧
      ∀ v, v = .comma ∨ v = .rparen → Takes { c with rhs := true } r.expr xs v fun _ => True)
    {k : Nat} (enough : xss.length ≤ k) : Takes c (r.callArgs k) (separated xss) .rparen fun _ => True := by
  induction xss generalizing k with
  | nil =>
    cases k with
    | zero => exact takes_pure trivial
    | succ k =>
      rw [callArgs]
      exact takes_isAt rfl (takes_pure trivial)
  | cons xs xss ih =>
    obtain ⟨k, rfl⟩ := Nat.exists_eq_succ_of_ne_zero (Nat.ne_zero_of_lt enough)
    obtain ⟨⟨starts, reads⟩, rest⟩ := List.forall_mem_cons.1 each
    have first : ∃ v, firstToken (separated (xs :: xss)) .rparen = firstToken xs v := by
      rw [separated_cons, firstToken_append]
      exact ⟨_, rfl⟩
    obtain ⟨v, here⟩ := first
    rw [callArgs]
    refine takes_notAt (by rw [here]; exact (starts v).1) (takes_notAt (by rw [here]; exact (starts v).2) ?_)
    cases xss with
    | nil =>
      rw [separated]
      refine (reads _ (.inr rfl)).withRhs.last fun x _ => ?_
      refine takes_notAt (by simp) ?_
      dsimp only
      rw [if_neg Bool.false_ne_true, pure_bind]
      exact takes_atComma (.inr rfl) (takes_pure trivial)
    | cons ys xss =>
      rw [separated]
      refine (reads _ (.inl rfl)).withRhs.bind fun x _ => ?_
      refine takes_notAt (by simp) ?_
      dsimp only
      rw [if_neg Bool.false_ne_true, pure_bind]
      refine takes_atComma (.inl rfl) (takes_next ?_)
      exact (ih rest (Nat.le_of_succ_le_succ enough)).last fun _ _ => takes_pure trivial

theorem takes_primaryRest_call (body : c.header = false) {x : Expr} {k : Nat} {xss : List (List Symbol)}
    (each : ∀ xs ∈ xss, (∀ v, firstToken xs v ≠ .rparen ∧ firstToken xs v ≠ .eof) ∧
      ∀ v, v = .comma ∨ v = .rparen → Takes { c with rhs := true } r.expr xs v fun _ => True)
    (enough : xss.length ≤ r.fuel) (hx : ∀ y, Takes c (r.primaryRest y k) xs u P) :
    Takes c (r.primaryRest x (k + 1)) ((Token.lparen, a) :: (separated xss ++ (Token.rparen, b) :: xs)) u P := by
  rw [primaryRest]
  refine takes_token rfl ?_
  have call : Takes c (r.callOrConversion x) ((Token.lparen, a) :: (separated xss ++ [(Token.rparen, b)]))
      (firstToken xs u) fun _ => True := by
    refine takes_expect rfl fun o => ?_
    refine ((takes_callArgs each enough).nested body).bind fun args _ => ?_
    exact takes_expectClosing rfl fun o => takes_pure trivial
  have := call.bind fun y _ => hx y
  simpa using this

/-- A slice of everything. -/
theorem takes_primaryRest_slice (body : c.header = false) {x : Expr} {k : Nat}
    (hx : ∀ y, Takes c (r.primaryRest y k) xs u P) {n' : Text} :
    Takes c (r.primaryRest x (k + 1)) ((Token.lbrack, a) :: (Token.colon, n) :: (Token.rbrack, n') :: xs) u P := by
  rw [primaryRest]
  refine takes_token rfl ?_
  have slice : Takes c (r.indexOrSlice x) [(Token.lbrack, a), (Token.colon, n), (Token.rbrack, n')] (firstToken xs u) fun _ => True := by
    unfold indexOrSlice
    refine takes_expect rfl fun o => takes_notAt (by simp) ?_
    have bounds : Takes c (r.sliceBounds 2) [(Token.colon, n)] .rbrack fun bs => ∃ o, bs = [(o, none)] := by
      rw [sliceBounds]
      refine takes_isAt rfl (takes_offset fun o => takes_next (takes_isAtAny (by simp) ?_))
      dsimp only
      rw [if_pos rfl, pure_bind, sliceBounds, bind_assoc]
      refine takes_notAt (by simp) ?_
      rw [if_neg Bool.false_ne_true, pure_bind]
      exact takes_pure ⟨o, rfl⟩
    refine Takes.one (P := fun p => ∃ o, p.2.1 = [(o, none)]) (Takes.nested body (takes_isAt rfl ?_)) ?_
    · dsimp only
      rw [if_pos rfl, pure_bind]
      exact takes_token rfl (bounds.last fun bs hbs => takes_pure hbs)
    · rintro ⟨first, _, args⟩ ⟨o, rfl⟩
      exact takes_expect rfl fun _ => takes_pure trivial
  exact slice.bind fun y _ => hx y

/-! ## Composite literals -/

/-- A type that a composite literal can have everywhere. -/
def IsData (x : Expr) : Prop := (∃ o l t, x = .arrayType o l t) ∨ ∃ o k t, x = .mapType o k t

theorem takes_value (first : firstToken xs u ≠ .lbrace) (hx : Takes c r.expr xs u P) : Takes c r.value xs u P :=
  takes_notAt first hx

theorem takes_element (first : firstToken xs .comma ≠ .lbrace) (hx : Takes c r.expr xs .comma fun _ => True) :
    Takes c r.element xs .comma fun _ => True := by
  unfold element
  exact (takes_value first hx).last fun x _ => takes_notAt (by simp) (takes_pure trivial)

theorem takes_element_keyed (first : firstToken xs .colon ≠ .lbrace) (hx : Takes c r.expr xs .colon fun _ => True)
    (second : firstToken ys .comma ≠ .lbrace) (hy : Takes c r.expr ys .comma fun _ => True) :
    Takes c r.element (xs ++ (Token.colon, a) :: ys) .comma fun _ => True := by
  unfold element
  refine (takes_value first hx).bind fun x _ => takes_isAt rfl (takes_offset fun o => takes_next ?_)
  exact (takes_value second hy).last fun y _ => takes_pure trivial

theorem takes_literalValueRule (body : c.header = false) {type : Option Expr} {xss : List (List Symbol)}
    (each : ∀ xs ∈ xss, (∀ v, firstToken xs v ≠ .rbrace ∧ firstToken xs v ≠ .eof) ∧ Takes c r.element xs .comma fun _ => True)
    (enough : xss.length ≤ r.fuel) :
    Takes c (r.literalValueRule type) ((Token.lbrace, a) :: (xss.flatMap (· ++ [comma]) ++ [(Token.rbrace, b)])) u fun _ => True := by
  unfold literalValueRule
  refine takes_expect rfl fun o => ((takes_listUntil each enough).nested body).bind fun elements _ => ?_
  exact takes_expectClosing rfl fun _ => takes_pure trivial

theorem takes_primaryRest_literal {x : Expr} {k : Nat} (data : IsData x) (first : firstToken (xs ++ ys) u = .lbrace)
    (hx : Takes c (r.literalValue (some x)) xs (firstToken ys u) fun _ => True)
    (hy : ∀ y, Takes c (r.primaryRest y k) ys u P) : Takes c (r.primaryRest x (k + 1)) (xs ++ ys) u P := by
  rw [primaryRest]
  refine takes_token first (takes_get fun s _ => ?_)
  have opens : opensLiteral x s.level = true ∧ isParen x = false := by
    rcases data with ⟨o, l, t, rfl⟩ | ⟨o, k, t, rfl⟩ <;> exact ⟨rfl, rfl⟩
  dsimp only
  rw [opens.1, opens.2, if_pos rfl, if_neg Bool.false_ne_true]
  exact hx.bind fun y _ => hy y

/-! ## Types -/

theorem takes_type (ht : Takes c r.type? xs u fun t => ∃ x, t = some x ∧ P x) : Takes c r.type xs u P := by
  unfold type
  refine ht.last ?_
  rintro _ ⟨x, rfl, hx⟩
  exact takes_pure hx

/-- A plain type: none that makes a parameter variadic. -/
def IsPlain (x : Expr) : Prop := dots? x = none

theorem takes_typeRule_name (period : u ≠ .period) (bracket : u ≠ .lbrack) :
    Takes c r.typeRule [(Token.ident, n)] u fun t => ∃ x, t = some x ∧ IsPlain x := by
  unfold typeRule
  refine takes_token rfl ?_
  have name : Takes c (typeName none) [(Token.ident, n)] u fun x => ∃ i, x = .ident i := by
    unfold typeName
    exact takes_ident rfl fun i => takes_notAt period (takes_pure ⟨i, rfl⟩)
  refine name.last ?_
  rintro _ ⟨i, rfl⟩
  exact takes_notAt bracket (takes_pure ⟨_, rfl, rfl⟩)

/-- A type of another package. -/
theorem takes_typeRule_selector {n' : Text} (bracket : u ≠ .lbrack) :
    Takes c r.typeRule [(Token.ident, n), (Token.period, a), (Token.ident, n')] u fun t => ∃ x, t = some x ∧ IsPlain x := by
  unfold typeRule
  refine takes_token rfl ?_
  have name : Takes c (typeName none) [(Token.ident, n), (Token.period, a), (Token.ident, n')] u fun x => ∃ y i, x = .selector y i := by
    unfold typeName
    exact takes_ident rfl fun i => takes_isAt rfl (takes_next (takes_ident rfl fun j => takes_pure ⟨_, _, rfl⟩))
  refine name.last ?_
  rintro _ ⟨y, i, rfl⟩
  exact takes_notAt bracket (takes_pure ⟨_, rfl, rfl⟩)

/-- A type with type arguments. -/
theorem takes_typeRule_instance (body : c.header = false) {xss : List (List Symbol)} (some_phrase : xss ≠ [])
    (each : ∀ xs ∈ xss, (∀ v, firstToken xs v ≠ .rbrack ∧ firstToken xs v ≠ .eof) ∧
      ∀ v, v = .comma ∨ v = .rbrack → Takes c r.type? xs v fun t => ∃ x, t = some x ∧ P x)
    (enough : xss.length ≤ r.fuel) :
    Takes c r.typeRule ((Token.ident, n) :: (Token.lbrack, a) :: (separated xss ++ [(Token.rbrack, b)])) u fun t =>
      ∃ x, t = some x ∧ IsPlain x := by
  unfold typeRule
  refine takes_token rfl ?_
  refine Takes.one (P := fun x => ∃ i, x = .ident i) ?_ ?_
  · unfold typeName
    exact takes_ident rfl fun i => takes_notAt (by simp) (takes_pure ⟨i, rfl⟩)
  · rintro _ ⟨i, rfl⟩
    refine takes_isAt rfl ?_
    have type : Takes c (r.typeInstance (.ident i)) ((Token.lbrack, a) :: (separated xss ++ [(Token.rbrack, b)])) u IsPlain := by
      unfold typeInstance
      refine takes_expect rfl fun o => ?_
      have args : Takes c (listUntil (text "type argument list") .rbrack r.type r.fuel) (separated xss) .rbrack fun as =>
          as.length = xss.length ∧ ∀ a ∈ as, P a :=
        takes_listUntil_separated (by decide) (fun xs hxs => ⟨(each xs hxs).1, fun v hv => takes_type ((each xs hxs).2 v hv)⟩)
          enough
      refine (args.nested body).bind fun as has => takes_expectClosing rfl fun o' => ?_
      rw [if_neg]
      · exact takes_pure rfl
      · rw [List.isEmpty_iff_length_eq_zero, has.1, List.length_eq_zero_iff]
        exact some_phrase
    exact type.last fun x hx => takes_pure ⟨x, rfl, hx⟩

theorem takes_typeRule_none (first : u ∈ [.comma, .rparen, .assign]) : Takes c r.typeRule [] u fun t => t = none := by
  unfold typeRule
  refine takes_token rfl ?_
  fin_cases first <;> exact takes_pure rfl

/-- A slice type. -/
theorem takes_typeRule_slice (body : c.header = false) (ht : Takes c r.type? xs u fun t => ∃ x, t = some x ∧ P x) :
    Takes c r.typeRule ((Token.lbrack, a) :: (Token.rbrack, b) :: xs) u fun t => ∃ x, t = some x ∧ IsPlain x := by
  unfold typeRule
  refine takes_token rfl (takes_expect rfl fun o => ?_)
  have rest : Takes c (r.arrayType o none) ((Token.rbrack, b) :: xs) u IsPlain := by
    unfold arrayType
    dsimp only
    refine Takes.none (P := fun l => l = none) (Takes.nested body (takes_token rfl ?_)) ?_
    · exact takes_pure rfl
    · rintro _ rfl
      exact takes_notAt (by simp) (takes_expect rfl fun _ => (takes_type ht).last fun x _ => takes_pure rfl)
  exact rest.last fun x hx => takes_pure ⟨x, rfl, hx⟩

/-- An array type. -/
theorem takes_typeRule_array (body : c.header = false) (first : firstToken xs .rbrack = .int)
    (hn : Takes { c with rhs := true } r.expr xs .rbrack fun _ => True)
    (ht : Takes c r.type? ys u fun t => ∃ x, t = some x ∧ P x) :
    Takes c r.typeRule ((Token.lbrack, a) :: (xs ++ (Token.rbrack, b) :: ys)) u fun t => ∃ x, t = some x ∧ IsData x := by
  unfold typeRule
  refine takes_token rfl (takes_expect rfl fun o => ?_)
  have rest : Takes c (r.arrayType o none) (xs ++ (Token.rbrack, b) :: ys) u IsData := by
    unfold arrayType
    dsimp only
    refine Takes.bind (P := fun _ => True) (Takes.nested body (takes_token first ?_)) fun length _ => ?_
    · exact hn.withRhs.last fun x _ => takes_pure trivial
    · exact takes_notAt (by simp) (takes_expect rfl fun _ => (takes_type ht).last fun x _ => takes_pure (.inl ⟨_, _, _, rfl⟩))
  exact rest.last fun x hx => takes_pure ⟨x, rfl, hx⟩

/-- A map type. -/
theorem takes_typeRule_map (hk : Takes c r.type? xs .rbrack fun t => ∃ x, t = some x ∧ P x)
    (ht : Takes c r.type? ys u fun t => ∃ x, t = some x ∧ Q x) :
    Takes c r.typeRule ((Token.kMap, n) :: (Token.lbrack, a) :: (xs ++ (Token.rbrack, b) :: ys)) u fun t => ∃ x, t = some x ∧ IsData x := by
  unfold typeRule
  refine takes_token rfl ?_
  have map : Takes c r.mapType ((Token.kMap, n) :: (Token.lbrack, a) :: (xs ++ (Token.rbrack, b) :: ys)) u IsData := by
    unfold mapType
    refine takes_expect rfl fun o => takes_expect rfl fun _ => (takes_type hk).bind fun key _ => takes_expect rfl fun _ => ?_
    exact (takes_type ht).last fun x _ => takes_pure (.inr ⟨_, _, _, rfl⟩)
  exact map.last fun x hx => takes_pure ⟨x, rfl, hx⟩

/-! ## Parameters -/

/-- An entry that is only a name or only a type. -/
def Param.IsLone (p : Param) : Prop :=
  (∃ n, p = ⟨some n, none⟩) ∨ ∃ t, p = ⟨none, some t⟩ ∧ IsPlain t

/-- An entry with name and type. -/
def Param.IsNamed (p : Param) : Prop := ∃ n t, p = ⟨some n, some t⟩ ∧ IsPlain t

theorem takes_paramDecl_name (follow : u = .comma ∨ u = .rparen) :
    Takes c (r.paramDecl none false) [(Token.ident, n)] u Param.IsLone := by
  unfold paramDecl
  refine takes_notAt (by simp) (takes_isAt rfl (takes_ident rfl fun i => takes_token rfl ?_))
  rcases follow with rfl | rfl <;> exact takes_pure (.inl ⟨i, rfl⟩)

theorem takes_paramDecl_named (follow : u = .comma ∨ u = .rparen) (first : firstToken xs u = .ident)
    (ht : Takes c r.type? xs u fun t => ∃ x, t = some x ∧ IsPlain x) :
    Takes c (r.paramDecl none false) ((Token.ident, n) :: xs) u Param.IsNamed := by
  unfold paramDecl
  refine takes_notAt (by simp) (takes_isAt rfl (takes_ident rfl fun i => takes_token first ?_))
  rw [if_pos (by decide)]
  refine (takes_type ht).last fun t ht => takes_notAt ?_ (takes_pure ⟨i, t, rfl, ht⟩)
  rcases follow with rfl | rfl <;> simp

/-- More type arguments. -/
theorem takes_more {xss : List (List Symbol)}
    (each : ∀ xs ∈ xss, (∀ v, firstToken xs v ≠ .rbrack) ∧
      ∀ v, v = .comma ∨ v = .rbrack → Takes { c with rhs := true } r.expr xs v fun _ => True)
    {k : Nat} (enough : xss.length ≤ k) :
    Takes c (arrayOrInstance.more r k) (xss.map (comma :: ·)).flatten .rbrack fun p => p.1.length = xss.length := by
  induction xss generalizing k with
  | nil =>
    cases k with
    | zero => exact takes_pure rfl
    | succ k =>
      rw [arrayOrInstance.more]
      exact takes_notAt (by simp) (takes_pure rfl)
  | cons xs xss ih =>
    obtain ⟨k, rfl⟩ := Nat.exists_eq_succ_of_ne_zero (Nat.ne_zero_of_lt enough)
    obtain ⟨⟨starts, reads⟩, rest⟩ := List.forall_mem_cons.1 each
    rw [arrayOrInstance.more, List.map_cons, List.flatten_cons, List.cons_append]
    refine takes_isAt rfl (takes_offset fun o => takes_next (takes_notAt (by rw [firstToken_append]; exact starts _) ?_))
    have behind : firstToken (xss.map (comma :: ·)).flatten .rbrack = .comma ∨
        firstToken (xss.map (comma :: ·)).flatten .rbrack = .rbrack := by
      cases xss with
      | nil => exact .inr rfl
      | cons ys xss => exact .inl rfl
    refine (reads _ behind).withRhs.bind fun x _ => (ih rest (Nat.le_of_succ_le_succ enough)).last fun p hp => takes_pure ?_
    exact congrArg (· + 1) hp

/-- A name with type arguments, where a parameter can stand. -/
theorem takes_paramDecl_instance (body : c.header = false) (follow : u = .comma ∨ u = .rparen) {xss : List (List Symbol)}
    (some_phrase : xss ≠ [])
    (each : ∀ xs ∈ xss, (∀ v, firstToken xs v ≠ .rbrack) ∧
      ∀ v, v = .comma ∨ v = .rbrack → Takes { c with rhs := true } r.expr xs v fun _ => True)
    (enough : xss.length ≤ r.fuel) (none_type : Takes c r.type? [] u fun t => t = none) :
    Takes c (r.paramDecl none false) ((Token.ident, n) :: (Token.lbrack, a) :: (separated xss ++ [(Token.rbrack, b)])) u Param.IsLone := by
  unfold paramDecl
  refine takes_notAt (by simp) (takes_isAt rfl (takes_ident rfl fun i => takes_token rfl ?_))
  dsimp only [firstToken_cons]
  rw [if_neg (by decide)]
  have type : Takes c (r.arrayOrInstance i) ((Token.lbrack, a) :: (separated xss ++ [(Token.rbrack, b)])) u fun p =>
      p.1 = none ∧ IsPlain p.2 := by
    unfold arrayOrInstance
    obtain ⟨xs, xss, rfl⟩ := List.exists_cons_of_ne_nil some_phrase
    obtain ⟨⟨starts, reads⟩, rest⟩ := List.forall_mem_cons.1 each
    have behind : firstToken (xss.map (comma :: ·)).flatten .rbrack = .comma ∨
        firstToken (xss.map (comma :: ·)).flatten .rbrack = .rbrack := by
      cases xss with
      | nil => exact .inr rfl
      | cons ys xss => exact .inl rfl
    refine takes_expect rfl fun o => ?_
    rw [separated_cons]
    refine Takes.bind (P := fun p => p.1 ≠ []) (Takes.nested body ?_) ?_
    · refine takes_notAt (by rw [firstToken_append]; exact starts _) ((reads _ behind).withRhs.bind fun x _ => ?_)
      exact (takes_more rest (Nat.le_of_succ_le enough)).last fun p _ => takes_pure (List.cons_ne_nil x p.1)
    · rintro ⟨args, trailing⟩ some_arg
      refine takes_expect rfl fun o' => ?_
      match args, some_arg with
      | [x], _ =>
        refine none_type.last ?_
        rintro _ rfl
        exact takes_pure ⟨rfl, rfl⟩
      | x :: y :: args, _ => exact takes_pure ⟨rfl, rfl⟩
  refine type.last ?_
  rintro ⟨_, t⟩ ⟨rfl, ht⟩
  exact takes_notAt (by rcases follow with rfl | rfl <;> simp) (takes_pure (.inr ⟨t, rfl, ht⟩))

theorem takes_params {Q : Param → Prop} (given : ∀ p, Q p → p.name ≠ none ∨ p.type ≠ none) {xss : List (List Symbol)}
    (each : ∀ xs ∈ xss, (∀ v, firstToken xs v ≠ .rparen ∧ firstToken xs v ≠ .eof) ∧
      ∀ v, v = .comma ∨ v = .rparen → Takes c (r.paramDecl none false) xs v Q)
    {k : Nat} (enough : xss.length ≤ k) :
    Takes c (r.params false .rparen none none k) (separated xss) .rparen fun ps => ps.length = xss.length ∧ ∀ p ∈ ps, Q p := by
  induction xss generalizing k with
  | nil =>
    cases k with
    | zero => exact takes_pure (by simp)
    | succ k =>
      rw [params]
      exact takes_isAt rfl (takes_notAt (by simp [separated]) (takes_pure (by simp)))
  | cons xs xss ih =>
    obtain ⟨k, rfl⟩ := Nat.exists_eq_succ_of_ne_zero (Nat.ne_zero_of_lt enough)
    obtain ⟨⟨starts, reads⟩, rest⟩ := List.forall_mem_cons.1 each
    have first : ∃ v, firstToken (separated (xs :: xss)) .rparen = firstToken xs v := by
      rw [separated_cons, firstToken_append]
      exact ⟨_, rfl⟩
    obtain ⟨v, here⟩ := first
    rw [params]
    refine takes_notAt (by rw [here]; exact (starts v).1) (takes_notAt (by rw [here]; exact (starts v).2) ?_)
    have kept {p : Param} (hp : Q p) : (if (p.name.isNone && p.type.isNone) = true then [] else [p]) = [p] := by
      rcases given p hp with some_name | some_type
      · simp [Option.isNone_iff_eq_none, some_name]
      · simp [Option.isNone_iff_eq_none, some_type]
    cases xss with
    | nil =>
      rw [separated]
      refine (reads _ (.inr rfl)).last fun p hp => takes_atComma (.inr rfl) ?_
      rw [kept hp]
      exact takes_pure (by simpa using hp)
    | cons ys xss =>
      rw [separated]
      refine (reads _ (.inl rfl)).bind fun p hp => takes_atComma (.inl rfl) (takes_next ?_)
      refine (ih rest (Nat.le_of_succ_le_succ enough)).last fun ps hps => ?_
      rw [kept hp]
      exact takes_pure ⟨congrArg (· + 1) hps.1, List.forall_mem_cons.2 ⟨hp, hps.2⟩⟩

theorem misplacedDots?_eq_none {dotsOk : Bool} {ts : List Expr} (plain : ∀ t ∈ ts, IsPlain t) :
    misplacedDots? dotsOk ts = none := by
  induction ts with
  | nil => rfl
  | cons t ts ih =>
    obtain ⟨first, rest⟩ := List.forall_mem_cons.1 plain
    cases ts with
    | nil => simp only [misplacedDots?, show dots? t = none from first, ite_self]
    | cons t' ts =>
      rw [misplacedDots?, show dots? t = none from first, ih rest]
      · rfl
      · simp

/-- Parameters without names, or one with a name. -/
theorem takes_parameters {dotsOk : Bool} (xss : List (List Symbol)) {Q : Param → Prop}
    (form : (∀ p, Q p → p.IsLone) ∨ xss.length = 1 ∧ ∀ p, Q p → p.IsNamed)
    (each : ∀ xs ∈ xss, (∀ v, firstToken xs v ≠ .rparen ∧ firstToken xs v ≠ .eof) ∧
      ∀ v, v = .comma ∨ v = .rparen → Takes c (r.paramDecl none false) xs v Q)
    (enough : xss.length ≤ r.fuel) :
    Takes c (r.parameters dotsOk) ((Token.lparen, a) :: (separated xss ++ [(Token.rparen, b)])) u fun _ => True := by
  unfold parameters
  refine takes_expect rfl fun o => ?_
  have given : ∀ p, Q p → p.name ≠ none ∨ p.type ≠ none := by
    intro p hp
    rcases form with lone | ⟨-, named⟩
    · rcases lone p hp with ⟨n, rfl⟩ | ⟨t, rfl, -⟩ <;> simp
    · obtain ⟨n, t, rfl, -⟩ := named p hp
      simp
  have list : Takes c (r.paramList none none .rparen dotsOk) (separated xss) .rparen fun _ => True := by
    unfold paramList
    refine takes_offset fun start => (takes_params given each enough).last fun ps hps => ?_
    dsimp only
    split
    · exact takes_pure trivial
    · refine takes_offset fun stop => ?_
      rcases form with lone | ⟨one, named⟩
      · have unnamed : (ps.filter fun p => p.name.isSome && p.type.isSome) = [] := by
          rw [List.filter_eq_nil_iff]
          intro p hp
          rcases lone p (hps.2 p hp) with ⟨n, rfl⟩ | ⟨t, rfl, -⟩ <;> simp
        rw [unnamed, List.length_nil, if_pos (beq_self_eq_true 0), if_neg (by decide), misplacedDots?_eq_none]
        · exact takes_pure trivial
        · intro t ht
          obtain ⟨p, hp, rfl⟩ := List.mem_map.1 ht
          rcases lone p (hps.2 p hp) with ⟨n, rfl⟩ | ⟨t, rfl, plain⟩
          · rfl
          · exact plain
      · obtain ⟨p, rfl⟩ := List.length_eq_one_iff.1 (hps.1.trans one)
        obtain ⟨n, t, rfl, plain⟩ := named p (hps.2 p (by simp))
        have fine : misplacedDots? dotsOk [t] = none := misplacedDots?_eq_none (by simpa using plain)
        simp only [List.filter, Option.isSome, Bool.and_self, distribute, List.map_cons, List.map_nil, fine]
        exact takes_pure trivial
  cases xss with
  | nil =>
    rw [separated, List.nil_append]
    refine takes_isAt rfl ?_
    dsimp only
    rw [if_pos rfl, pure_bind]
    exact takes_expect rfl fun o' => takes_pure trivial
  | cons xs xss =>
    have first : ∃ v, firstToken (separated (xs :: xss) ++ [(Token.rparen, b)]) u = firstToken xs v := by
      rw [separated_cons, List.append_assoc, firstToken_append]
      exact ⟨_, rfl⟩
    obtain ⟨v, here⟩ := first
    refine takes_notAt (by rw [here]; exact ((each xs (by simp)).1 v).1) (list.bind fun fields _ => ?_)
    exact takes_expect rfl fun o' => takes_pure trivial

/-! ## Simple phrases -/

@[simp]
theorem fuel_ofDepth (fuel d : Nat) : (ofDepth fuel d).fuel = fuel := by cases d <;> rfl

/-- An operand and what follows it. -/
theorem takes_expr (plain : firstToken (xs ++ ys) u ∉ [.add, .sub, .not, .xor, .and, .tilde, .arrow, .mul])
    (weak : u.precedence = 0) (other : u ≠ .assign)
    (ho : Takes c (ofDepth fuel d).operand xs (firstToken ys u) P)
    (hr : ∀ x, P x → Takes c ((ofDepth fuel d).primaryRest x (ofDepth fuel d).fuel) ys u Q) :
    Takes c (ofDepth fuel (d + 2)).expr (xs ++ ys) u Q :=
  takes_binaryRule Nat.one_pos weak other (takes_unaryRule plain (takes_primary ho hr))

/-- An operand on its own. -/
theorem takes_expr_operand (plain : firstToken xs u ∉ [.add, .sub, .not, .xor, .and, .tilde, .arrow, .mul])
    (weak : u.precedence = 0) (other : u ≠ .assign) (ho : Takes c (ofDepth fuel d).operand xs u P)
    (hr : ∀ x, P x → Takes c ((ofDepth fuel d).primaryRest x (ofDepth fuel d).fuel) [] u Q) :
    Takes c (ofDepth fuel (d + 2)).expr xs u Q := by
  rw [← List.append_nil xs]
  exact takes_expr (by rwa [List.append_nil]) weak other ho hr

theorem weak_of_stop (stop : u ∈ stops) : u.precedence = 0 ∧ u ≠ .assign := by
  fin_cases stop <;> decide

theorem takes_name (stop : u ∈ stops) : Takes c (ofDepth fuel (d + 2)).expr [(Token.ident, n)] u fun x => ∃ i, x = .ident i :=
  takes_expr_operand (by simp) (weak_of_stop stop).1 (weak_of_stop stop).2 takes_operand_ident
    fun _ hx => takes_primaryRest_stop stop hx

theorem takes_name_header (header : c.header = true) :
    Takes c (ofDepth fuel (d + 2)).expr [(Token.ident, n)] .lbrace fun x => ∃ i, x = .ident i := by
  refine takes_expr_operand (by simp) (by decide) (by decide) takes_operand_ident ?_
  rintro _ ⟨i, rfl⟩
  exact takes_primaryRest_header header ⟨i, rfl⟩

theorem takes_literal {t : Token} (literal : t = .int ∨ t = .string) (stop : u ∈ stops) :
    Takes c (ofDepth fuel (d + 2)).expr [(t, n)] u fun _ => True := by
  refine takes_expr_operand ?_ (weak_of_stop stop).1 (weak_of_stop stop).2 (takes_operand_literal literal)
    fun _ hx => takes_primaryRest_stop stop hx
  rcases literal with rfl | rfl <;> simp

end Rules

end DocAccessors.Source.Grammar
