import DocAccessors.Proofs.Source.Parallel

/-!
# Rules of expressions in two places

What the rules for expressions read on their own, they read in a file: operands, what follows them, and operators.
-/

set_option mvcgen.warning false

namespace DocAccessors.Source.Grammar.Rules

variable {E : Seam} {k : Nat} {r r' : Rules}

section

variable [End r] (h : Parallel E k r r')
include h

theorem mirrors_stmtList : Mirrors E 1 0 k (List.map Stmt.shape) r.stmtList r'.stmtList := by
  have cond : Mirrors E 1 0 k id (do return !(← isAtAny [.kCase, .kDefault, .rbrace, .eof]))
      (do return !(← isAtAny [.kCase, .kDefault, .rbrace, .eof])) := (mirrors_isAtAny _).same fun _ => mirrors_pure rfl
  refine cond.manyWhile (fun _ => Keep.stmt) (fun {s m m' a t ys ys'} goesOn beside short run clean length => ?_) h.fuel h.fuel'
  obtain ⟨other, rfl⟩ := Prod.mk.inj (Except.ok.inj goesOn)
  refine h.passes beside short (fun i first brace => ?_) run clean length
  have head : s.items.head? = some i := by rw [beside.items, List.head?_append, Option.mem_def.1 first]; rfl
  simp [head, brace] at other

theorem mirrors_block : Mirrors E 0 1 k Stmt.shape r.block r'.block := by
  unfold block
  refine (mirrors_expect (by decide)).first fun _ _ _ => ?_
  refine Mirrors.before (mirrors_stmtList h) (fun _ => .first (ends_expect? rfl).eats fun _ => steady_pure _) fun _ _ _ => ?_
  exact ((mirrors_expect? rfl).weaken (Nat.zero_le 1)).bind fun _ _ _ => mirrors_pure rfl

theorem mirrors_funcTypeOrLit : Mirrors E 0 0 k Expr.shape r.funcTypeOrLit r'.funcTypeOrLit := by
  unfold funcTypeOrLit
  refine (mirrors_funcType h).bind fun t t' same => ?_
  refine (mirrors_isAt (by decide)).same fun hasBody => ?_
  split
  · refine ((mirrors_block h).weaken (Nat.zero_le 1)).nested.bind fun b b' same' => ?_
    rcases Stmt.block_cases same' with ⟨l, ss, r, l', ss', r', rfl, rfl⟩ | ⟨other, other'⟩
    · exact mirrors_pure rfl
    · split
      · exact absurd rfl (other _ _ _)
      · exact mirrors_pure same
  · exact mirrors_pure same

theorem mirrors_operand : Mirrors E 0 0 k Expr.shape r.operand r'.operand := by
  have eats := (ends_operand (r := r)).eats
  unfold operand at eats ⊢
  refine Mirrors.current eats fun i j token lit => ?_
  rw [token]
  split
  · exact (mirrors_ident.weaken (Nat.zero_le 1)).bind fun _ _ _ => mirrors_pure rfl
  case h_7 =>
    refine mirrors_next.bind fun _ _ _ => (mirrors_rhs h).nested.bind fun x x' same => ?_
    exact (mirrors_expect (by decide)).bind fun _ _ _ => mirrors_pure (by simp only [Expr.shape, same])
  case h_8 => exact mirrors_funcTypeOrLit h
  case h_9 => exact h.type?.options (fun t t' same => mirrors_pure same) (mirrors_faultExpected fun I => by mvcgen)
  all_goals exact mirrors_next.bind fun _ _ _ => mirrors_pure rfl

omit [End r] in
theorem mirrors_typeAssertion (x x' : Expr) : Mirrors E 0 0 k Expr.shape (r.typeAssertion x) (r'.typeAssertion x') := by
  unfold typeAssertion
  refine (mirrors_expect (by decide)).bind fun _ _ _ => ?_
  refine (mirrors_isAt (by decide)).same fun guard => ?_
  extract_lets rest rest'
  have mirrors_rest {t t' : Option Expr} (same : t.isNone = t'.isNone) : Mirrors E 0 0 k Expr.shape (rest t) (rest' t') :=
    (mirrors_expect (by decide)).bind fun _ _ _ => mirrors_pure (by simp only [Expr.shape, same])
  split
  · exact mirrors_next.bind fun _ _ _ => mirrors_rest rfl
  · exact (mirrors_type h).bind fun _ _ _ => mirrors_rest rfl

omit [End r] in
theorem mirrors_sliceBounds (n : Nat) :
    Mirrors E 1 0 k (List.map fun b => b.2.isSome) (r.sliceBounds n) (r'.sliceBounds n) := by
  induction n with
  | zero => exact mirrors_pure rfl
  | succ n ih =>
    unfold sliceBounds
    refine (mirrors_isAt_inner .colon).same fun goesOn => ?_
    split
    · refine mirrors_offset.bind fun c c' _ => mirrors_next.bind fun _ _ _ => ?_
      refine (mirrors_isAtAny _).same fun unbounded => ?_
      extract_lets rest rest'
      have mirrors_rest {b b' : Option Expr} (same : b.isSome = b'.isSome) :
          Mirrors E 1 0 k (List.map fun b => b.2.isSome) (rest b) (rest' b') :=
        ih.bind fun bs bs' sames => mirrors_pure (by simp [same, sames])
      split
      · exact mirrors_rest rfl
      · exact (mirrors_rhs h).inner.bind fun _ _ _ => mirrors_rest rfl
    · exact mirrors_pure rfl

omit [End r] in
theorem mirrors_indexOrSlice (x x' : Expr) : Mirrors E 0 1 k Expr.shape (r.indexOrSlice x) (r'.indexOrSlice x') := by
  unfold indexOrSlice
  refine (mirrors_expect (by decide)).first fun _ _ _ => ?_
  refine (mirrors_isAt (by decide)).same fun empty => ?_
  split
  · exact mirrors_offset.bind fun _ _ _ => mirrors_faultExpected fun I => by mvcgen
  · refine Mirrors.before (e := 0) (v := fun p => p.2.1.map fun b => b.2.isSome) ?_ (fun (_, _, _) => ?_) ?_
    · have more : Mirrors E 1 1 k (fun _ => ())
          (do next; if ← isAtAny [.rbrack, .eof] then return none else return some (← r.type))
          (do next; if ← isAtAny [.rbrack, .eof] then return none else return some (← r'.type)) := by
        refine mirrors_next.first fun _ _ _ => (mirrors_isAtAny _).same fun ends => ?_
        split
        · exact mirrors_pure rfl
        · exact (mirrors_type h).inner.bind fun _ _ _ => mirrors_pure rfl
      refine Mirrors.nested ((mirrors_isAt (by decide)).same fun colon => ?_)
      extract_lets rest rest'
      have mirrors_rest (x x' : Option Expr) : Mirrors E 1 0 k (fun p => p.2.1.map fun b => b.2.isSome) (rest x) (rest' x') := by
        refine mirrors_token.same fun t => ?_
        split
        · exact (mirrors_sliceBounds h 2).bind fun _ _ same => mirrors_pure same
        · exact (mirrors_manyWhile (mirrors_isAt_inner .comma) more h.fuel h.fuel').bind fun _ _ _ => mirrors_pure rfl
        · exact mirrors_pure rfl
      split
      · exact mirrors_rest _ _
      · exact (mirrors_rhs h).inner.bind fun _ _ _ => mirrors_rest _ _
    · refine .first (eats_expect (by decide)) fun rbrack I => ?_
      dsimp only
      split <;> mvcgen
    · rintro ⟨first, bounds, args⟩ ⟨first', bounds', args'⟩ same
      have length : bounds.length = bounds'.length := by simpa using congrArg List.length same
      refine (mirrors_expect (by decide)).bind fun _ _ _ => ?_
      match bounds, bounds', length with
      | [], [], _ | [_], [_], _ | _ :: _ :: _ :: _, _ :: _ :: _ :: _, _ => exact mirrors_pure rfl
      | [(_, high), (_, max)], [(_, high'), (_, max')], _ =>
        simp only [List.map_cons, List.map_nil, List.cons.injEq, and_true] at same
        obtain ⟨highs, maxs⟩ := same
        match high, high', highs, max, max', maxs with
        | none, none, _, none, _, _ | none, none, _, some _, _, _ => exact mirrors_fault fun I => by mvcgen
        | some _, some _, _, none, _, _ => exact mirrors_fault (steady_pure _)
        | some _, some _, _, some _, some _, _ => exact mirrors_pure rfl

theorem mirrors_callArgs {j n n' : Nat} (le : j ≤ k) (enough : j ≤ n) (enough' : j ≤ n') :
    Mirrors E 1 0 j (fun p => (p.1.map Expr.shape, p.2.isSome)) (r.callArgs n) (r'.callArgs n') := by
  induction j generalizing n n' with
  | zero => exact mirrors_zero fun I => keeps_callArgs n
  | succ j ih =>
    obtain ⟨n, rfl⟩ := Nat.exists_eq_succ_of_ne_zero (Nat.ne_zero_of_lt enough)
    obtain ⟨n', rfl⟩ := Nat.exists_eq_succ_of_ne_zero (Nat.ne_zero_of_lt enough')
    unfold callArgs
    refine (mirrors_isAt_inner .rparen).same fun closes => (mirrors_isAt_inner .eof).same fun atEof => ?_
    split
    · exact mirrors_pure rfl
    · refine ((mirrors_rhs h).inner.mono le).bind fun x x' same => ?_
      refine (mirrors_isAt (by decide)).same fun spread => ?_
      extract_lets rest rest'
      have mirrors_rest {d d' : Option Nat} (dots : d.isSome = d'.isSome) :
          Mirrors E 1 0 (j + 1) (fun p => (p.1.map Expr.shape, p.2.isSome)) (rest d) (rest' d') := by
        refine (mirrors_atComma _ _).same fun goesOn => ?_
        rw [dots]
        split
        · refine (mirrors_next.less fun _ _ _ => ?_).weaken (Nat.zero_le 1)
          split
          · exact mirrors_pure (by simp [same, dots])
          · exact (ih (by omega) (by omega) (by omega)).bind fun p q sames => mirrors_pure (by simpa [same] using sames)
        · exact mirrors_pure (by simp [same, dots])
      split
      · exact mirrors_offset.bind fun _ _ _ => mirrors_next.bind fun _ _ _ => mirrors_rest rfl
      · exact mirrors_rest rfl

theorem mirrors_callOrConversion {f f' : Expr} (same : f.shape = f'.shape) :
    Mirrors E 0 1 k Expr.shape (r.callOrConversion f) (r'.callOrConversion f') := by
  unfold callOrConversion
  refine (mirrors_expect (by decide)).first fun _ _ _ => ?_
  refine Mirrors.before (mirrors_callArgs h (Nat.le_refl k) h.fuel h.fuel').nested
    (fun (_, _) => .first (ends_expectClosing rfl _).eats fun _ => steady_pure _) ?_
  rintro ⟨args, dots⟩ ⟨args', dots'⟩ sames
  obtain ⟨shapes, spread⟩ := Prod.mk.inj sames
  refine ((mirrors_expectClosing rfl _).weaken (Nat.zero_le 1)).bind fun _ _ _ => mirrors_pure ?_
  simp only [Expr.shape, constraint?_congr same shapes spread]

omit [End r] in
theorem mirrors_value : Mirrors E 0 0 k (fun _ => ()) r.value r'.value := by
  unfold value
  refine (mirrors_isAt (by decide)).same fun brace => ?_
  split
  · exact (h.literalValue none none).forget
  · exact (mirrors_expr h).forget

omit [End r] in
theorem mirrors_element : Mirrors E 0 0 k (fun _ => ()) r.element r'.element := by
  unfold element
  refine (mirrors_value h).bind fun _ _ _ => ?_
  refine (mirrors_isAt (by decide)).same fun colon => ?_
  split
  · exact mirrors_offset.bind fun _ _ _ => mirrors_next.bind fun _ _ _ => (mirrors_value h).bind fun _ _ _ => mirrors_pure rfl
  · exact mirrors_pure rfl

omit [End r] in
theorem mirrors_literalValueRule (t t' : Option Expr) :
    Mirrors E 0 1 k Expr.shape (r.literalValueRule t) (r'.literalValueRule t') := by
  unfold literalValueRule
  refine (mirrors_expect (by decide)).first fun _ _ _ => ?_
  refine Mirrors.before (mirrors_listUntil (mirrors_element h).inner h.fuel h.fuel').nested
    (fun _ => .first (ends_expectClosing rfl _).eats fun _ => steady_pure _) fun _ _ _ => ?_
  exact ((mirrors_expectClosing rfl _).weaken (Nat.zero_le 1)).bind fun _ _ _ => mirrors_pure rfl

omit [End r] h in
theorem opensLiteral_congr {x x' : Expr} {l l' : Int} (same : x.shape = x'.shape) (level : openness l = openness l') :
    opensLiteral x l = opensLiteral x' l' := by
  rw [opensLiteral_eq, opensLiteral_eq, same]
  have nonneg := nonneg_of_openness level
  unfold Shape.opensLiteral
  split <;> simp [nonneg]

theorem mirrors_primaryRest {x x' : Expr} (same : x.shape = x'.shape) {j n n' : Nat} (le : j ≤ k) (enough : j ≤ n)
    (enough' : j ≤ n') : Mirrors E 0 0 j Expr.shape (r.primaryRest x n) (r'.primaryRest x' n') := by
  induction j generalizing x x' n n' with
  | zero => exact mirrors_zero fun I => keeps_primaryRest x n
  | succ j ih =>
    obtain ⟨n, rfl⟩ := Nat.exists_eq_succ_of_ne_zero (Nat.ne_zero_of_lt enough)
    obtain ⟨n', rfl⟩ := Nat.exists_eq_succ_of_ne_zero (Nat.ne_zero_of_lt enough')
    have rest {y y' : Expr} (same : y.shape = y'.shape) :
        Mirrors E 0 0 j Expr.shape (r.primaryRest y n) (r'.primaryRest y' n') := ih same (by omega) (by omega) (by omega)
    have further {p q : Parse Expr} (hp : Mirrors E 0 1 k Expr.shape p q) : Mirrors E 0 0 (j + 1) Expr.shape
        (do let y ← p; r.primaryRest y n) (do let y ← q; r'.primaryRest y n') :=
      ((hp.mono le).less fun y y' same => rest same).weaken (Nat.zero_le 1)
    unfold primaryRest
    refine Mirrors.token (fun t => ?_) fun t ht => ?_
    · split
      · refine (mirrors_next.less fun _ _ _ => ?_).weaken (Nat.zero_le 1)
        refine Mirrors.token (fun t => ?_) fun t ht => ?_
        · split
          · exact mirrors_ident.bind fun _ _ _ => rest rfl
          · exact ((mirrors_typeAssertion h x x').mono (by omega)).bind fun _ _ same => rest same
          · exact mirrors_offset.bind fun _ _ _ => mirrors_faultExpected fun I => by mvcgen
        · exact Faulty.mirrors (.after (fun _ => keeps_offset) fun o => (faulty_faultExpected _ _).first fun _ I => by mvcgen)
      · exact further (mirrors_indexOrSlice h x x')
      · exact further (mirrors_callOrConversion h same)
      · refine mirrors_get.bind fun s s' switches => ?_
        rw [opensLiteral_congr same (Prod.mk.inj switches).1, isParen_eq, isParen_eq, same]
        have literal := further ((h.literalValue (some x) (some x')).eats (End.literalValue _).eats)
        split
        · dsimp only
          split
          · exact mirrors_fault literal.steady
          · exact literal
        · exact mirrors_pure same
      · exact mirrors_pure same
    · simp only [followers, List.mem_cons, List.not_mem_nil, or_false] at ht
      rcases ht with rfl | rfl | rfl <;> exact mirrors_pure same

theorem mirrors_primary {x x' : Option Expr} (same : x.map Expr.shape = x'.map Expr.shape) :
    Mirrors E 0 0 k Expr.shape (r.primary x) (r'.primary x') := by
  unfold primary
  match x, x', same with
  | none, none, _ =>
    exact (mirrors_operand h).bind fun _ _ same => mirrors_primaryRest h same (Nat.le_refl k) h.fuel h.fuel'
  | some x, some x', same => exact mirrors_primaryRest h (Option.some.inj same) (Nat.le_refl k) h.fuel h.fuel'

omit [End r] h in
theorem mirrors_pushArrow {x x' : Expr} (same : x.shape = x'.shape) (arrow arrow' : Nat) :
    Mirrors E 0 0 k Expr.shape (pushArrow arrow x) (pushArrow arrow' x') := by
  induction arrow, x using pushArrow.induct generalizing x' arrow' with
  | case1 arrow o a dir value _ ih | case2 arrow o a dir value _ ih =>
    obtain ⟨o', a', value', rfl, sames⟩ := Expr.exists_chan (same.symm.trans (by rw [Expr.shape]))
    unfold pushArrow
    extract_lets rest rest'
    have mirrors_rest (u : Unit) : Mirrors E 0 0 k Expr.shape (rest u) (rest' u) := by
      unfold rest rest'
      split
      · have pushed := ih sames.symm (a'.getD 0)
        rcases Expr.chan_cases sames with ⟨o', a', o, a, dir, v', v, rfl, rfl, -⟩ | ⟨other', other⟩
        · exact pushed.bind fun _ _ same => mirrors_pure (by simp only [Expr.shape, same])
        · split
          · exact absurd rfl (other _ _ _ _)
          · exact mirrors_faultExpected (steady_pure _)
      · exact mirrors_pure (by simp only [Expr.shape, sames])
    have faulty : Mirrors E 0 0 k Expr.shape (faultExpected (a.getD 0) (text "'chan'") >>= rest)
        (faultExpected (a'.getD 0) (text "'chan'") >>= rest') := mirrors_faultExpected (mirrors_rest ()).steady
    have sound := mirrors_rest ()
    split <;> assumption
  | case3 x arrow other =>
    have other' : ∀ o a d v, x' ≠ .chanType o a d v := by
      rcases Expr.chan_cases same with ⟨o, a, o', a', dir, v, v', rfl, -, -⟩ | ⟨-, other'⟩
      · exact absurd rfl (other _ _ _ _)
      · exact other'
    unfold pushArrow
    split
    · exact absurd rfl (other _ _ _ _)
    · exact mirrors_pure same

theorem mirrors_unaryRule : Mirrors E 0 0 k Expr.shape r.unaryRule r'.unaryRule := by
  have eats := (ends_unaryRule (r := r)).eats
  unfold unaryRule at eats ⊢
  refine Mirrors.current eats fun i j token lit => ?_
  rw [token]
  split
  case h_7 =>
    refine mirrors_next.bind fun _ _ _ => h.unary.bind fun x x' same => ?_
    rcases Expr.chan_cases same with ⟨o, a, o', a', dir, v, v', rfl, rfl, -⟩ | ⟨other, other'⟩
    · exact mirrors_pushArrow same _ _
    · split
      · exact absurd rfl (other _ _ _ _)
      · exact mirrors_pure rfl
  case h_9 => exact mirrors_primary h rfl
  all_goals exact mirrors_next.bind fun _ _ _ => h.unary.bind fun _ _ _ => mirrors_pure rfl

theorem mirrors_binaryRest {prec : Nat} (pos : 0 < prec) {x x' : Expr} (same : x.shape = x'.shape) {j n n' : Nat} (le : j ≤ k)
    (enough : j ≤ n) (enough' : j ≤ n') :
    Mirrors E 0 0 j Expr.shape (r.binaryRest prec x n) (r'.binaryRest prec x' n') := by
  induction j generalizing x x' n n' with
  | zero => exact mirrors_zero fun I => keeps_binaryRest prec x n
  | succ j ih =>
    obtain ⟨n, rfl⟩ := Nat.exists_eq_succ_of_ne_zero (Nat.ne_zero_of_lt enough)
    obtain ⟨n', rfl⟩ := Nat.exists_eq_succ_of_ne_zero (Nat.ne_zero_of_lt enough')
    unfold binaryRest operator
    simp only [bind_assoc, pure_bind]
    refine Mirrors.token (fun t => mirrors_get.bind fun s s' switches => ?_) fun t ht => mirrors_get.bind fun s s' _ => ?_
    · rw [(Prod.mk.inj switches).2]
      generalize (if s'.inRhs && t == .assign then .eql else t : Token) = op
      split
      · exact mirrors_pure same
      · next binds =>
        have inner : op ≠ .eof := by
          rintro rfl
          exact binds (by simpa [Token.precedence] using pos)
        refine ((mirrors_expect inner).less fun _ _ _ => ?_).weaken (Nat.zero_le 1)
        refine ((h.binary (Nat.succ_pos _)).mono (by omega)).bind fun y y' same' => ?_
        exact ih (by simp only [Expr.shape, same, same']) (by omega) (by omega) (by omega)
    · -- no operator follows an expression
      simp only [followers, List.mem_cons, List.not_mem_nil, or_false] at ht
      rcases ht with rfl | rfl | rfl <;> simpa [Token.precedence, pos] using mirrors_pure same

theorem mirrors_binaryRule {prec : Nat} (pos : 0 < prec) :
    Mirrors E 0 0 k Expr.shape (r.binaryRule prec) (r'.binaryRule prec) := by
  unfold binaryRule
  exact h.unary.bind fun x x' same => mirrors_binaryRest h pos same (Nat.le_refl k) h.fuel h.fuel'

end

end DocAccessors.Source.Grammar.Rules
