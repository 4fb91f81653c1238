import DocAccessors.Proofs.Source.ParallelExpr

/-!
# Rules of declarations and statements in two places

What the rules for the declarations and statements of function literals read on their own, they read in a file.

* `Rules.parallel_ofDepth`: the rules of every depth read in a file what the rules of a lower depth read on their own.
-/

set_option mvcgen.warning false

namespace DocAccessors.Source.Grammar.Rules

variable {E : Seam} {k : Nat} {r r' : Rules}

section

variable [End r] (h : Parallel E k r r')
include h

/-! ## Declarations -/

theorem mirrors_valueSpec (keyword : Token) (doc doc' : Option CommentGroup) :
    Mirrors E 1 1 k (fun _ => ()) (r.valueSpec keyword doc) (r'.valueSpec keyword doc') := by
  unfold valueSpec
  refine mirrors_ident.first fun _ _ _ => ?_
  refine (mirrors_names h.fuel h.fuel').bind fun _ _ _ => ?_
  extract_lets values rest typed values' rest' typed'
  have mirrors_values : Mirrors E 1 0 k (fun _ => ()) values values' := by
    refine (mirrors_isAt (by decide)).same fun given => ?_
    split
    · exact mirrors_next.bind fun _ _ _ => (mirrors_list h true).forget.weaken (Nat.zero_le 1)
    · exact mirrors_pure rfl
  have mirrors_rest (x x' : Option Expr × List Expr) : Mirrors E 1 0 k (fun _ => ()) (rest x) (rest' x') :=
    mirrors_expectSemi.bind fun _ _ _ => mirrors_pure rfl
  have mirrors_typed (t t' : Option Expr) : Mirrors E 1 0 k (fun _ => ()) (typed t) (typed' t') :=
    mirrors_values.bind fun vs vs' _ => mirrors_rest (t, vs) (t', vs')
  clear_value values values' rest rest' typed typed'
  split
  · refine (mirrors_isAtAny _).same fun ends => ?_
    split
    · exact mirrors_rest _ _
    · exact h.type?.inner.bind fun _ _ _ => mirrors_values.bind fun _ _ _ => mirrors_rest _ _
  · refine (mirrors_isAt (by decide)).same fun untyped => ?_
    split
    · exact mirrors_typed _ _
    · exact (mirrors_type h).inner.bind fun _ _ _ => mirrors_typed _ _

theorem mirrors_typeSpec (doc doc' : Option CommentGroup) :
    Mirrors E 1 1 k (fun _ => ()) (r.typeSpec doc) (r'.typeSpec doc') := by
  unfold typeSpec
  refine mirrors_ident.first fun _ _ _ => ?_
  extract_lets assign rest rest'
  have mirrors_assign : Mirrors E 1 0 k (fun _ => ()) assign assign := by
    refine (mirrors_isAt (by decide)).same fun given => ?_
    split
    · exact mirrors_offset.bind fun _ _ _ => mirrors_next.bind fun _ _ _ => mirrors_pure rfl
    · exact mirrors_pure rfl
  have mirrors_rest (x x' : Option FieldList × Option Nat × Expr) : Mirrors E 1 0 k (fun _ => ()) (rest x) (rest' x') :=
    mirrors_expectSemi.bind fun _ _ _ => mirrors_pure rfl
  clear_value assign rest rest'
  have mirrors_assigned (l l' : Option FieldList) : Mirrors E 1 0 k (fun _ => ())
      (assign >>= fun a => r.type >>= fun t => rest (l, a, t)) (assign >>= fun a => r'.type >>= fun t => rest' (l', a, t)) :=
    mirrors_assign.bind fun _ _ _ => (mirrors_type h).inner.bind fun _ _ _ => mirrors_rest _ _
  have mirrors_array (o o' : Nat) {x x' : Option Expr} (same : x.isSome = x'.isSome) : Mirrors E 1 0 k (fun _ => ())
      (r.arrayType o x >>= fun t => rest (none, none, t)) (r'.arrayType o' x' >>= fun t => rest' (none, none, t)) :=
    (mirrors_arrayType h o o' same).inner.bind fun _ _ _ => mirrors_rest _ _
  refine (mirrors_isAt (by decide)).same fun bracket => ?_
  split
  · refine mirrors_offset.bind fun o o' _ => mirrors_next.bind fun _ _ _ => ?_
    refine (mirrors_isAt (by decide)).same fun named => ?_
    split
    · refine (mirrors_ident.weaken (Nat.zero_le 1)).bind fun id id' _ => ?_
      refine (mirrors_isAt (by decide)).same fun nested => ?_
      extract_lets split split'
      have mirrors_split {x x' : Expr} (same : x.shape = x'.shape) : Mirrors E 1 0 k (fun _ => ()) (split x) (split' x') := by
        refine (mirrors_isAt_inner .comma).same fun comma => (mirrors_isAt (by decide)).same fun lone => ?_
        have splits : (splitTypeParam comma x).map (fun p => p.2.isSome) =
            (splitTypeParam comma x').map (fun p => p.2.isSome) := by
          rw [split_eq, split_eq, same]
        cases found : splitTypeParam comma x with
        | none =>
          have found' : splitTypeParam comma x' = none := by simpa [found] using splits.symm
          rw [found']
          exact mirrors_array o o' rfl
        | some p =>
          obtain ⟨name, type⟩ := p
          rw [found] at splits
          obtain ⟨⟨name', type'⟩, found', typed⟩ := Option.map_eq_some_iff.1 splits.symm
          have variadic : type.map Expr.isVariadic = type'.map Expr.isVariadic := by
            match type, type', typed with
            | none, none, _ => rfl
            | some t, some t', _ => simp [isVariadic_split found, isVariadic_split found']
          rw [found']
          dsimp only at typed ⊢
          rw [typed]
          split
          · refine (mirrors_paramList h (by rfl) variadic .rbrack false).bind fun _ _ _ => ?_
            exact ((mirrors_expect (by decide)).weaken (Nat.zero_le 1)).bind fun _ _ _ => mirrors_assigned _ _
          · exact mirrors_array o o' rfl
      clear_value split split'
      split
      · exact mirrors_split rfl
      · have names : (some (Expr.ident id)).map Expr.shape = (some (Expr.ident id')).map Expr.shape := rfl
        have bound := (mirrors_primary h names).bind fun x x' same =>
          mirrors_binaryRest h Nat.one_pos same (Nat.le_refl k) h.fuel h.fuel'
        exact bound.nested.inner.bind fun _ _ same => mirrors_split same
    · exact mirrors_array o o' rfl
  · exact mirrors_assigned _ _

theorem mirrors_genDecl {keyword : Token} (inner : keyword ≠ .eof) (noImport : keyword ≠ .kImport) :
    Mirrors E 1 1 k (fun _ => ()) (r.genDecl keyword) (r'.genDecl keyword) := by
  unfold genDecl
  extract_lets spec spec'
  have mirrors_spec (doc doc' : Option CommentGroup) : Mirrors E 1 1 k (fun _ => ()) (spec doc) (spec' doc') := by
    unfold spec spec'
    split
    · exact absurd rfl noImport
    · exact mirrors_typeSpec h doc doc'
    · exact mirrors_valueSpec h _ doc doc'
  clear_value spec spec'
  refine mirrors_current.bind fun _ _ _ => (mirrors_expect inner).first fun _ _ _ => ?_
  refine (mirrors_isAt (by decide)).same fun several => ?_
  split
  · have cond : Mirrors E 1 0 k id (do return !(← isAtAny [.rparen, .eof])) (do return !(← isAtAny [.rparen, .eof])) :=
      (mirrors_isAtAny _).same fun _ => mirrors_pure rfl
    have specs : Mirrors E 1 1 k (fun _ => ()) (do spec (← current).lead) (do spec' (← current).lead) :=
      mirrors_current.bind fun _ _ _ => mirrors_spec _ _
    refine mirrors_offset.bind fun _ _ _ => mirrors_next.bind fun _ _ _ => ?_
    refine (mirrors_manyWhile cond specs h.fuel h.fuel').bind fun _ _ _ => ?_
    exact ((mirrors_expect (by decide)).weaken (Nat.zero_le 1)).bind fun _ _ _ =>
      mirrors_expectSemi.bind fun _ _ _ => mirrors_pure rfl
  · exact ((mirrors_spec none none).weaken (Nat.zero_le 1)).bind fun _ _ _ => mirrors_pure rfl

/-! ## Statements -/

theorem mirrors_simpleStmt (mode : SimpleMode) :
    Mirrors E 1 1 k (fun p => (p.1.shape, p.2)) (r.simpleStmt mode) (r'.simpleStmt mode) := by
  unfold simpleStmt
  refine (mirrors_list h false).first fun xs ys sames => ?_
  refine mirrors_current.bind fun i j same => ?_
  obtain ⟨token, lit⟩ := Prod.mk.inj same
  extract_lets x rest y rest'
  have length : xs.length = ys.length := by simpa using congrArg List.length sames
  have first : x.shape = y.shape := shape_head sames
  clear_value x y
  have mirrors_rest (u : Unit) : Mirrors E 1 0 k (fun p => (p.1.shape, p.2)) (rest u) (rest' u) := by
    unfold rest rest'
    rw [token]
    split
    · refine mirrors_next.bind fun _ _ _ => ?_
      have bad : Mirrors E 1 0 k (fun p : Stmt × Bool => (p.1.shape, p.2))
          (do fault i.offset "illegal label declaration"; return (.bad x.start (i.offset + 1), false))
          (do fault j.offset "illegal label declaration"; return (.bad y.start (j.offset + 1), false)) :=
        mirrors_fault (steady_pure _)
      rcases Expr.ident_cases first with ⟨id, id', rfl, rfl⟩ | ⟨other, other'⟩
      · cases mode with
        | labelOk => exact h.stmt.bind fun _ _ _ => mirrors_pure rfl
        | _ => exact bad
      · split
        · exact absurd rfl (other _)
        · exact mirrors_fault (steady_pure _)
    · exact mirrors_next.bind fun _ _ _ => (mirrors_rhs h).inner.bind fun _ _ _ => mirrors_pure rfl
    · exact mirrors_next.bind fun _ _ _ => mirrors_pure rfl
    · exact mirrors_next.bind fun _ _ _ => mirrors_pure rfl
    · exact mirrors_pure (by simp only [Stmt.shape, first])
  clear_value rest rest'
  rw [token, length]
  split
  · refine mirrors_next.bind fun _ _ _ => mirrors_offset.bind fun _ _ _ => ?_
    refine (mirrors_isAt (by decide)).same fun range => ?_
    split
    · refine mirrors_next.bind fun _ _ _ => (mirrors_rhs h).inner.bind fun _ _ _ => mirrors_pure ?_
      simp [Stmt.shape, Expr.shape, length]
    · refine ((mirrors_list h true).weaken (Nat.zero_le 1)).bind fun _ _ sames => mirrors_pure ?_
      simp [Stmt.shape, length, sames]
  · split
    · exact mirrors_faultExpected (mirrors_rest ()).steady
    · exact mirrors_rest ()

omit [End r] in
theorem mirrors_callExpr (what : Text) : Mirrors E 1 0 k Option.isSome (r.callExpr what) (r'.callExpr what) := by
  unfold callExpr
  refine (mirrors_rhs h).inner.bind fun x y same => ?_
  extract_lets rest rest'
  have mirrors_rest (u : Unit) : Mirrors E 1 0 k Option.isSome (rest u) (rest' u) := by
    have inner : x.unparen.shape = y.unparen.shape := by rw [shape_unparen, shape_unparen, same]
    unfold rest rest'
    generalize x.unparen = x, y.unparen = y at inner
    split
    · obtain ⟨_, _, _, _, _, rfl⟩ := Expr.exists_call (inner.symm.trans (by rw [Expr.shape]))
      exact mirrors_pure rfl
    · obtain ⟨_, _, rfl⟩ := Expr.exists_bad inner.symm
      exact mirrors_pure rfl
    · exact Faulty.mirrors (.after mayEnd_get.steady fun _ => (faulty_fault _ _).first fun _ => steady_pure _)
  rw [isParen_eq, isParen_eq, same]
  split
  · exact mirrors_fault (mirrors_rest ()).steady
  · exact mirrors_rest ()

omit [End r] h in
theorem mirrors_asExpr {s s' : Option Stmt} (same : s.map Stmt.shape = s'.map Stmt.shape) (want : Text) :
    Mirrors E 1 0 k Option.isSome (asExpr s want) (asExpr s' want) := by
  match s, s', same with
  | none, none, _ => exact mirrors_pure rfl
  | some s, some s', same =>
    by_cases expr : ∃ v, s.shape = .expr v
    · obtain ⟨v, shape⟩ := expr
      obtain ⟨x, rfl, -⟩ := Stmt.exists_expr shape
      obtain ⟨y, rfl, -⟩ := Stmt.exists_expr ((Option.some.inj same).symm.trans shape)
      exact mirrors_pure rfl
    · unfold asExpr
      split
      · cases ‹some s = none›
      · next x eq =>
        cases eq
        exact absurd ⟨x.shape, rfl⟩ expr
      · next eq =>
        cases eq
        exact mirrors_fault (steady_pure _)

omit [End r] h in
theorem isTypeSwitchGuard_eq {s : Option Stmt} (notLone : s.map Stmt.shape ≠ some (.expr .guard))
    (notAssigned : ∀ op, s.map Stmt.shape ≠ some (.assign 1 op [.guard])) : isTypeSwitchGuard s = pure false := by
  unfold isTypeSwitchGuard
  split
  · exact absurd rfl notLone
  · exact absurd rfl (notAssigned _)
  · rfl

omit [End r] h in
theorem mirrors_isTypeSwitchGuard {s s' : Option Stmt} (same : s.map Stmt.shape = s'.map Stmt.shape) :
    Mirrors E 1 0 k id (isTypeSwitchGuard s) (isTypeSwitchGuard s') := by
  by_cases lone : s.map Stmt.shape = some (.expr .guard)
  · have found {s : Option Stmt} (shape : s.map Stmt.shape = some (.expr .guard)) : isTypeSwitchGuard s = pure true := by
      obtain ⟨s, rfl, same⟩ := Option.map_eq_some_iff.1 shape
      obtain ⟨x, rfl, guard⟩ := Stmt.exists_expr same
      obtain ⟨x, l, r, rfl⟩ := Expr.exists_guard guard
      rfl
    rw [found lone, found (same ▸ lone)]
    exact mirrors_pure rfl
  by_cases assigned : ∃ op, s.map Stmt.shape = some (.assign 1 op [.guard])
  · obtain ⟨op, shape⟩ := assigned
    have found {s : Option Stmt} (shape : s.map Stmt.shape = some (.assign 1 op [.guard])) :
        ∃ y o x l r, s = some (.assign [y] o op [.assert x l none r]) := by
      obtain ⟨s, rfl, same⟩ := Option.map_eq_some_iff.1 shape
      obtain ⟨lhs, o, rhs, rfl, length, guards⟩ := Stmt.exists_assign same
      obtain ⟨y, rfl⟩ := List.length_eq_one_iff.1 length
      obtain ⟨x, rfl, guard⟩ := List.map_eq_singleton_iff.1 guards
      obtain ⟨x, l, r, rfl⟩ := Expr.exists_guard guard
      exact ⟨y, o, x, l, r, rfl⟩
    obtain ⟨y, o, x, l, r, rfl⟩ := found shape
    obtain ⟨y', o', x', l', r', rfl⟩ := found (same ▸ shape)
    unfold isTypeSwitchGuard
    dsimp only
    split
    · exact mirrors_pure rfl
    · exact mirrors_fault (steady_pure _)
    · exact mirrors_pure rfl
  · have notAssigned (op : Token) : s.map Stmt.shape ≠ some (.assign 1 op [.guard]) := fun shape => assigned ⟨op, shape⟩
    rw [isTypeSwitchGuard_eq lone notAssigned, isTypeSwitchGuard_eq (same ▸ lone) (same ▸ notAssigned)]
    exact mirrors_pure rfl

theorem mirrors_ifHeader : Mirrors E 1 0 k (fun _ => ()) r.ifHeader r'.ifHeader := by
  unfold ifHeader
  refine mirrors_offset.bind fun _ _ _ => (mirrors_isAt (by decide)).same fun lacking => ?_
  split
  · exact mirrors_fault (steady_pure _)
  refine Mirrors.withLevel ?_ _ fun _ _ _ => rfl
  refine (mirrors_isAt_inner _).same fun lone => ?_
  extract_lets finish header simple header' simple'
  have mirrors_finish (init init' : Option Stmt) {cond cond' : Option Stmt} (conds : cond.map Stmt.shape = cond'.map Stmt.shape)
      {semi semi' : Option Item} (semis : semi.isSome = semi'.isSome) :
      Mirrors E 1 0 k (fun _ => ()) (finish (init, cond, semi)) (finish (init', cond', semi')) := by
    refine (mirrors_asExpr conds _).bind fun x x' _ => ?_
    extract_lets done done'
    have mirrors_done (u : Unit) : Mirrors E 1 0 k (fun _ => ()) (done u) (done' u) :=
      mirrors_offset.bind fun _ _ _ => mirrors_pure rfl
    have steady := (mirrors_done ()).steady
    match cond, cond', conds, semi, semi', semis with
    | none, none, _, some _, some _, _ =>
      dsimp only
      split <;> exact mirrors_fault steady
    | none, none, _, none, none, _ | some _, some _, _, none, none, _ | some _, some _, _, some _, some _, _ =>
      exact mirrors_done ()
  clear_value finish
  have mirrors_header {init init' : Option Stmt} (inits : init.map Stmt.shape = init'.map Stmt.shape) :
      Mirrors E 1 0 k (fun _ => ()) (header init) (header' init') := by
    refine (mirrors_isAt (by decide)).same fun lone => ?_
    split
    · exact mirrors_finish none none inits rfl
    refine mirrors_current.bind fun i j same => ?_
    extract_lets further further'
    have mirrors_further {semi semi' : Option Item} (semis : semi.isSome = semi'.isSome) :
        Mirrors E 1 0 k (fun _ => ()) (further semi) (further' semi') := by
      refine (mirrors_isAt (by decide)).same fun lacking => ?_
      split
      · exact mirrors_finish init init' rfl semis
      · exact ((mirrors_simpleStmt h .basic).weaken (Nat.zero_le 1)).bind fun _ _ same =>
          mirrors_finish init init' (by simpa using (Prod.mk.inj same).1) semis
    rw [(Prod.mk.inj same).1]
    split
    · exact mirrors_next.bind fun _ _ _ => mirrors_further rfl
    · exact (mirrors_expect (by decide)).bind fun _ _ _ => mirrors_further rfl
  have mirrors_simple (u : Unit) : Mirrors E 1 0 k (fun _ => ()) (simple u) (simple' u) :=
    ((mirrors_simpleStmt h .basic).weaken (Nat.zero_le 1)).bind fun _ _ same =>
      mirrors_header (by simpa using (Prod.mk.inj same).1)
  clear_value header header' simple simple'
  split
  · exact mirrors_header rfl
  · refine (mirrors_isAt (by decide)).same fun declares => ?_
    split
    · exact mirrors_next.bind fun _ _ _ => mirrors_offset.bind fun _ _ _ => mirrors_fault (mirrors_simple ()).steady
    · exact mirrors_simple ()

theorem mirrors_ifRule : Mirrors E 1 1 k Stmt.shape r.ifRule r'.ifRule := by
  unfold ifRule
  refine (mirrors_expect (by decide)).first fun _ _ _ => (mirrors_ifHeader h).bind fun (_, _) (_, _) _ => ?_
  refine (mirrors_block h).inner.bind fun _ _ _ => (mirrors_isAt (by decide)).same fun otherwise => ?_
  split
  · refine mirrors_next.bind fun _ _ _ => mirrors_token.same fun t => ?_
    split
    · exact (h.ifStmt.weaken (Nat.zero_le 1)).bind fun _ _ _ => mirrors_pure rfl
    · exact ((mirrors_block h).weaken (Nat.zero_le 1)).inner.bind fun _ _ _ => mirrors_expectSemi.bind fun _ _ _ =>
        mirrors_pure rfl
    · exact mirrors_offset.bind fun _ _ _ => mirrors_faultExpected (steady_pure _)
  · exact mirrors_expectSemi.bind fun _ _ _ => mirrors_pure rfl

theorem mirrors_caseClause : Mirrors E 1 1 k (fun _ => ()) r.caseClause r'.caseClause := by
  unfold caseClause
  refine mirrors_offset.bind fun _ _ _ => (mirrors_isAt (by decide)).same fun case => ?_
  extract_lets isDefault rest rest'
  have mirrors_rest (vs vs' : List Expr) : Mirrors E 1 0 k (fun _ => ()) (rest vs) (rest' vs') :=
    ((mirrors_expect (by decide)).weaken (Nat.zero_le 1)).bind fun _ _ _ => (mirrors_stmtList h).bind fun _ _ _ =>
      mirrors_pure rfl
  clear_value rest rest'
  split
  · exact (mirrors_expect (by decide)).first fun _ _ _ => mirrors_rest _ _
  · exact mirrors_next.first fun _ _ _ => ((mirrors_list h true).weaken (Nat.zero_le 1)).bind fun _ _ _ => mirrors_rest _ _

theorem mirrors_switchStmt : Mirrors E 1 1 k Stmt.shape r.switchStmt r'.switchStmt := by
  unfold switchStmt
  refine (mirrors_expect (by decide)).first fun _ _ _ => (mirrors_isAt (by decide)).same fun lone => ?_
  extract_lets rest header rest' header'
  have mirrors_rest (init init' : Option Stmt) {tag tag' : Option Stmt} (tags : tag.map Stmt.shape = tag'.map Stmt.shape) :
      Mirrors E 1 0 k Stmt.shape (rest (init, tag)) (rest' (init', tag')) := by
    refine (mirrors_isTypeSwitchGuard tags).same fun guard => ?_
    refine ((mirrors_expect (by decide)).weaken (Nat.zero_le 1)).bind fun _ _ _ => ?_
    refine (mirrors_manyWhile (mirrors_isAtAny _) (mirrors_caseClause h) h.fuel h.fuel').bind fun _ _ _ => ?_
    refine ((mirrors_expect (by decide)).weaken (Nat.zero_le 1)).bind fun _ _ _ => mirrors_expectSemi.bind fun _ _ _ => ?_
    match guard, tag, tag', tags with
    | true, some _, some _, _ => exact mirrors_pure rfl
    | true, none, none, _ => exact mirrors_pure rfl
    | false, _, _, tags => exact (mirrors_asExpr tags _).bind fun _ _ _ => mirrors_pure rfl
  have mirrors_header {s s' : Option Stmt} (same : s.map Stmt.shape = s'.map Stmt.shape) :
      Mirrors E 1 0 k (fun p => p.2.map Stmt.shape) (header s) (header' s') := by
    refine (mirrors_isAt_inner _).same fun several => ?_
    split
    · refine mirrors_next.bind fun _ _ _ => (mirrors_isAt (by decide)).same fun untagged => ?_
      dsimp only
      split
      · exact mirrors_pure rfl
      · exact ((mirrors_simpleStmt h .basic).weaken (Nat.zero_le 1)).bind fun _ _ same =>
          mirrors_pure (congrArg some (Prod.mk.inj same).1)
    · exact mirrors_pure same
  clear_value rest rest' header header'
  split
  · exact mirrors_rest none none rfl
  · refine Mirrors.bind (e := 0) (v := fun p => p.2.map Stmt.shape) (Mirrors.withLevel ?_ _ fun _ _ _ => rfl)
      fun (init, _) (init', _) tags => mirrors_rest init init' tags
    refine (mirrors_isAt_inner _).same fun empty => ?_
    split
    · exact mirrors_header rfl
    · exact ((mirrors_simpleStmt h .basic).weaken (Nat.zero_le 1)).bind fun _ _ same =>
        mirrors_header (by simpa using (Prod.mk.inj same).1)

theorem mirrors_commClause : Mirrors E 1 1 k (fun _ => ()) r.commClause r'.commClause := by
  unfold commClause
  refine mirrors_offset.bind fun _ _ _ => (mirrors_isAt (by decide)).same fun case => ?_
  extract_lets rest rest'
  have mirrors_rest (c c' : Option Stmt) : Mirrors E 1 0 k (fun _ => ()) (rest c) (rest' c') :=
    ((mirrors_expect (by decide)).weaken (Nat.zero_le 1)).bind fun _ _ _ => (mirrors_stmtList h).bind fun _ _ _ =>
      mirrors_pure rfl
  clear_value rest rest'
  split
  · refine mirrors_next.first fun _ _ _ => ((mirrors_list h false).weaken (Nat.zero_le 1)).bind fun xs ys sames => ?_
    have length : xs.length = ys.length := by simpa using congrArg List.length sames
    refine mirrors_current.bind fun i j same => ?_
    -- a statement with not too many expressions before it
    have counted {n : Nat} (o o' : Nat) (m : Text) {p q : Parse Stmt} (hp : Mirrors E 1 0 k (fun _ => ()) p q) :
        Mirrors E 1 0 k (fun _ => ()) (if n < ys.length then faultExpected o m >>= fun _ => p else p)
          (if n < ys.length then faultExpected o' m >>= fun _ => q else q) := by
      split
      · exact mirrors_faultExpected hp.steady
      · exact hp
    dsimp only
    rw [(Prod.mk.inj same).1, length]
    split
    · exact counted _ _ _ (mirrors_next.bind fun _ _ _ => (mirrors_rhs h).inner.bind fun _ _ _ => mirrors_rest _ _)
    · exact counted _ _ _ (mirrors_next.bind fun _ _ _ => (mirrors_rhs h).inner.bind fun _ _ _ => mirrors_rest _ _)
    · exact counted _ _ _ (mirrors_next.bind fun _ _ _ => (mirrors_rhs h).inner.bind fun _ _ _ => mirrors_rest _ _)
    · exact counted _ _ _ (mirrors_rest _ _)
  · exact (mirrors_expect (by decide)).first fun _ _ _ => mirrors_rest _ _

theorem mirrors_selectStmt : Mirrors E 1 1 k Stmt.shape r.selectStmt r'.selectStmt := by
  unfold selectStmt
  refine (mirrors_expect (by decide)).first fun _ _ _ =>
    ((mirrors_expect (by decide)).weaken (Nat.zero_le 1)).bind fun _ _ _ => ?_
  refine (mirrors_manyWhile (mirrors_isAtAny _) (mirrors_commClause h) h.fuel h.fuel').bind fun _ _ _ => ?_
  exact ((mirrors_expect (by decide)).weaken (Nat.zero_le 1)).bind fun _ _ _ => mirrors_expectSemi.bind fun _ _ _ =>
    mirrors_pure rfl

theorem mirrors_forHeader : Mirrors E 1 0 k (fun p => (p.2.1.map Stmt.shape, p.2.2.2)) r.forHeader r'.forHeader := by
  unfold forHeader
  refine (mirrors_isAt (by decide)).same fun lone => ?_
  split
  · exact mirrors_pure rfl
  refine Mirrors.withLevel ?_ _ fun _ _ _ => rfl
  refine (mirrors_isAt_inner _).same fun empty => (mirrors_isAt (by decide)).same fun range => ?_
  extract_lets rest rest'
  have mirrors_rest {s s' : Option Stmt} (same : s.map Stmt.shape = s'.map Stmt.shape) (isRange : Bool) :
      Mirrors E 1 0 k (fun p => (p.2.1.map Stmt.shape, p.2.2.2)) (rest (s, isRange)) (rest' (s', isRange)) := by
    refine (mirrors_isAt_inner _).same fun semicolon => ?_
    split
    · refine mirrors_next.bind fun _ _ _ => (mirrors_isAt_inner _).same fun endless => ?_
      extract_lets post post'
      have mirrors_post {c c' : Option Stmt} (same : c.map Stmt.shape = c'.map Stmt.shape) :
          Mirrors E 1 0 k (fun p => (p.2.1.map Stmt.shape, p.2.2.2)) (post c) (post' c') := by
        refine mirrors_expectSemi.bind fun _ _ _ => (mirrors_isAt (by decide)).same fun lacking => ?_
        have ended (p p' : Option Stmt) : Mirrors E 1 0 k
            (fun p : Option Stmt × Option Stmt × Option Stmt × Bool => (p.2.1.map Stmt.shape, p.2.2.2))
            (pure (s, c, p, false)) (pure (s', c', p', false)) := mirrors_pure (by simp [same])
        dsimp only
        split
        · exact ended _ _
        · exact ((mirrors_simpleStmt h .basic).weaken (Nat.zero_le 1)).bind fun _ _ _ => ended _ _
      clear_value post post'
      split
      · exact mirrors_post rfl
      · exact ((mirrors_simpleStmt h .basic).weaken (Nat.zero_le 1)).bind fun _ _ same =>
          mirrors_post (by simpa using (Prod.mk.inj same).1)
    · exact mirrors_pure (by simp [same])
  clear_value rest rest'
  split
  · exact mirrors_rest rfl false
  · split
    · refine mirrors_offset.bind fun _ _ _ => mirrors_next.bind fun _ _ _ => (mirrors_rhs h).inner.bind fun _ _ _ => ?_
      exact mirrors_rest (by simp [Stmt.shape, Expr.shape]) true
    · refine ((mirrors_simpleStmt h .rangeOk).weaken (Nat.zero_le 1)).bind fun p q same => ?_
      obtain ⟨s, isRange⟩ := p
      obtain ⟨s', isRange'⟩ := q
      obtain ⟨shapes, ranges⟩ := Prod.mk.inj same
      obtain rfl : isRange = isRange' := ranges
      exact mirrors_rest (by simpa using shapes) isRange

theorem mirrors_forStmt : Mirrors E 1 1 k Stmt.shape r.forStmt r'.forStmt := by
  unfold forStmt
  refine (mirrors_expect (by decide)).first fun _ _ _ => ?_
  refine (mirrors_forHeader h).bind fun (init, cond, post, isRange) (init', cond', post', isRange') same => ?_
  obtain ⟨conds, ranges⟩ := Prod.mk.inj same
  obtain rfl : isRange = isRange' := ranges
  dsimp only at conds
  refine ((mirrors_block h).weaken (Nat.zero_le 1)).inner.bind fun b b' _ => mirrors_expectSemi.bind fun _ _ _ => ?_
  by_cases range : isRange = true ∧ ∃ n op t, cond.map Stmt.shape = some (.assign n op [.unary t])
  · obtain ⟨rfl, n, op, t, shape⟩ := range
    have found {s : Option Stmt} (shape : s.map Stmt.shape = some (.assign n op [.unary t])) :
        ∃ lhs p q x, s = some (.assign lhs p op [.unary q t x]) ∧ lhs.length = n := by
      obtain ⟨s, rfl, same⟩ := Option.map_eq_some_iff.1 shape
      obtain ⟨lhs, p, rhs, rfl, length, unary⟩ := Stmt.exists_assign same
      obtain ⟨y, rfl, ranged⟩ := List.map_eq_singleton_iff.1 unary
      obtain ⟨q, x, rfl⟩ := Expr.exists_unary ranged
      exact ⟨lhs, p, q, x, rfl, length⟩
    obtain ⟨lhs, p, q, x, rfl, length⟩ := found shape
    obtain ⟨lhs', p', q', x', rfl, length'⟩ := found (conds ▸ shape)
    match lhs, lhs', length.trans length'.symm with
    | [], [], _ | [_], [_], _ | [_, _], [_, _], _ => exact mirrors_pure rfl
    | _ :: _ :: _ :: _, _ :: _ :: _ :: _, _ => exact mirrors_faultExpected (steady_pure _)
  · have notRange {s : Option Stmt} (same : cond.map Stmt.shape = s.map Stmt.shape) (lhs : List Expr) (p : Nat) (op : Token)
        (q : Nat) (t : Token) (x : Expr) (isRange : isRange = true) : s ≠ some (.assign lhs p op [.unary q t x]) := by
      rintro rfl
      exact range ⟨isRange, lhs.length, op, t, by simp [same, Stmt.shape, Expr.shape]⟩
    split
    · exact absurd rfl (notRange rfl _ _ _ _ _ _ rfl)
    · split
      · exact absurd rfl (notRange conds _ _ _ _ _ _ rfl)
      · exact (mirrors_asExpr conds _).bind fun _ _ _ => mirrors_pure rfl

omit [End r] in
theorem mirrors_callStmt {keyword : Token} (inner : keyword ≠ .eof) :
    Mirrors E 1 1 k Stmt.shape (r.callStmt keyword) (r'.callStmt keyword) := by
  unfold callStmt
  refine (mirrors_expect inner).first fun _ _ _ => (mirrors_callExpr h _).bind fun c c' same => ?_
  refine mirrors_expectSemi.bind fun _ _ _ => ?_
  match c, c', same with
  | none, none, _ => exact mirrors_pure rfl
  | some _, some _, _ =>
    dsimp only
    refine mirrors_pure ?_
    split <;> rfl

theorem mirrors_returnStmt : Mirrors E 1 1 k Stmt.shape r.returnStmt r'.returnStmt := by
  unfold returnStmt
  refine (mirrors_expect (by decide)).first fun _ _ _ => (mirrors_isAtAny _).same fun lone => ?_
  extract_lets rest rest'
  have mirrors_rest (xs xs' : List Expr) : Mirrors E 1 0 k Stmt.shape (rest xs) (rest' xs') :=
    mirrors_expectSemi.bind fun _ _ _ => mirrors_pure rfl
  split
  · exact mirrors_rest _ _
  · exact ((mirrors_list h true).weaken (Nat.zero_le 1)).bind fun _ _ _ => mirrors_rest _ _

omit [End r] h in
theorem mirrors_branchStmt {keyword : Token} (inner : keyword ≠ .eof) :
    Mirrors E 1 1 k Stmt.shape (branchStmt keyword) (branchStmt keyword) := by
  unfold branchStmt
  refine (mirrors_expect inner).first fun _ _ _ => (mirrors_isAt (by decide)).same fun named => ?_
  extract_lets takesLabel rest rest'
  have mirrors_rest (l l' : Option Ident) : Mirrors E 1 0 k Stmt.shape (rest l) (rest' l') :=
    mirrors_expectSemi.bind fun _ _ _ => mirrors_pure rfl
  split
  · exact (mirrors_ident.weaken (Nat.zero_le 1)).bind fun _ _ _ => mirrors_rest _ _
  · exact mirrors_rest _ _

theorem mirrors_stmtRule :
    Mirrors E 1 0 k Stmt.shape r.stmtRule r'.stmtRule ∧ PassesUnless E .rbrace k Stmt.shape r.stmtRule r'.stmtRule := by
  unfold stmtRule
  refine mirrors_currentUnless (fun i j token here => ?_) fun i j token lit other => ?_
  · rw [token, here]
    exact mirrors_pure rfl
  rw [token]
  generalize j.token = t at other
  split
  · refine (mirrors_simpleStmt h .labelOk).first fun (s, _) (s', _) same => ?_
    have shapes : s.shape = s'.shape := (Prod.mk.inj same).1
    rcases Stmt.labeled_cases shapes with ⟨l, c, b, l', c', b', rfl, rfl⟩ | ⟨other, other'⟩
    · exact mirrors_pure rfl
    · dsimp only
      split
      · exact absurd rfl (other _ _ _)
      · exact mirrors_expectSemi.bind fun _ _ _ => mirrors_pure shapes
  · have declared {keyword : Token} (inner : keyword ≠ .eof) (noImport : keyword ≠ .kImport) :
        Mirrors E 1 1 k Stmt.shape (do return .decl (← r.genDecl keyword)) (do return .decl (← r'.genDecl keyword)) :=
      (mirrors_genDecl h inner noImport).first fun _ _ _ => mirrors_pure rfl
    split
    · exact declared (by decide) (by decide)
    · exact declared (by decide) (by decide)
    · exact declared (by decide) (by decide)
    · exact mirrors_callStmt h (by decide)
    · exact mirrors_callStmt h (by decide)
    · exact mirrors_returnStmt h
    · exact mirrors_branchStmt (by decide)
    · exact mirrors_branchStmt (by decide)
    · exact mirrors_branchStmt (by decide)
    · exact mirrors_branchStmt (by decide)
    · exact (mirrors_block h).inner.first fun _ _ same => mirrors_expectSemi.bind fun _ _ _ => mirrors_pure same
    · exact h.ifStmt
    · exact mirrors_switchStmt h
    · exact mirrors_selectStmt h
    · exact mirrors_forStmt h
    · exact mirrors_next.first fun _ _ _ => mirrors_pure rfl
    · exact absurd rfl other
    · exact mirrors_faultExpected fun I => by mvcgen

end

/-! ## Closing the circle -/

theorem faulty_giveUp : Faulty (giveUp : Parse α) := by
  refine ⟨fun _ => keeps_giveUp, fun run => ?_⟩
  obtain ⟨_, _, here, run⟩ := run_bind_eq_ok.1 run
  cases run

/-- **Rules in two places.** What the rules of some depth read of the tokens of an expression on their own without faults, the
rules of any larger depth read in a file. -/
theorem parallel_ofDepth {fuel fuel' depth depth' : Nat} (deep : depth ≤ depth') (enough : k ≤ fuel) (enough' : k ≤ fuel') :
    Parallel E k (ofDepth fuel depth) (ofDepth fuel' depth') := by
  induction depth generalizing depth' with
  | zero =>
    have gaveUp {α γ : Type} {room eaten : Nat} {v : α → γ} {q : Parse α} :
        Mirrors E room eaten k v giveUp q := faulty_giveUp.mirrors
    exact ⟨by cases depth' <;> exact enough, by cases depth' <;> exact enough', fun _ => gaveUp, gaveUp, gaveUp, gaveUp,
      fun _ _ _ run clean => absurd clean (faulty_giveUp.faults run), gaveUp, fun _ _ => gaveUp⟩
  | succ depth ih =>
    obtain ⟨depth', rfl⟩ := Nat.exists_eq_succ_of_ne_zero (Nat.ne_zero_of_lt deep)
    have h := ih (Nat.le_of_succ_le_succ deep)
    have := ends_ofDepth fuel depth
    exact ⟨enough, enough', mirrors_binaryRule h, mirrors_unaryRule h, mirrors_typeRule h, (mirrors_stmtRule h).1,
      (mirrors_stmtRule h).2, mirrors_ifRule h, fun t t' => (mirrors_literalValueRule h t t').weaken (Nat.zero_le 1)⟩

end DocAccessors.Source.Grammar.Rules
