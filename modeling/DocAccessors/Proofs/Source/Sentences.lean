import DocAccessors.Proofs.Source.Phrases

/-!
# Reading declarations and statements

What the rules of the grammar read, for the kinds of declarations and statements that generated code is made of.
-/

namespace DocAccessors.Source.Grammar.Rules

variable {c : Site} {u : Token} {r : Rules} {xs ys : List Symbol} {n a b : Text}

/-! ## Statements -/

theorem takes_returnStmt {xss : List (List Symbol)} (some_phrase : xss ≠ []) (enough : xss.length ≤ r.fuel)
    (first : firstToken (separated xss) .semicolon ∉ [.semicolon, .rbrace])
    (each : ∀ xs ∈ xss, ∀ v, v = .comma ∨ v = .semicolon → Takes { c with rhs := true } r.expr xs v fun _ => True) :
    Takes c r.returnStmt ((Token.kReturn, a) :: (separated xss ++ [lineEnd])) u fun _ => True := by
  unfold returnStmt
  refine takes_expect rfl fun o => takes_notAtAny (by rwa [firstToken_append]) ?_
  dsimp only
  rw [if_neg Bool.false_ne_true]
  exact (takes_list some_phrase enough (by simp) each).bind fun ys _ => takes_expectSemi fun _ => takes_pure trivial

/-- The definition of a variable. -/
theorem takes_simpleStmt_define (hx : Takes { c with rhs := false } r.expr xs .define fun _ => True)
    (hy : Takes { c with rhs := true } r.expr ys u fun _ => True) (stop : u ≠ .comma) :
    Takes c (r.simpleStmt .labelOk) (xs ++ (Token.define, a) :: ys) u fun p => ∃ l o op e, p.1 = .assign l o op e := by
  unfold simpleStmt
  refine (takes_list_one (by simp) hx).bind fun l _ => takes_current fun i token => ?_
  replace token : i.token = .define := token
  rw [token, if_pos (by decide)]
  refine takes_next (takes_offset fun o => takes_look (g := (· == .kRange)) (fun _ => rfl) rfl ?_)
  rw [if_neg (by simp)]
  exact (takes_list_one stop hy).last fun ys _ => takes_pure ⟨_, _, _, _, rfl⟩

/-- A name in the header of a control statement. -/
theorem takes_simpleStmt_header (hx : Takes { c with rhs := false } r.expr xs .lbrace fun x => ∃ i, x = .ident i) :
    Takes c (r.simpleStmt .basic) xs .lbrace fun p => ∃ i, p.1 = .expr (.ident i) := by
  unfold simpleStmt
  refine (takes_list_one (by simp) hx).last ?_
  rintro _ ⟨_, rfl, i, rfl⟩
  refine takes_current fun j token => ?_
  replace token : j.token = .lbrace := token
  rw [token, if_neg (by decide)]
  dsimp only
  rw [if_neg (by simp)]
  exact takes_pure ⟨i, rfl⟩

theorem takes_stmtList {xss : List (List Symbol)} (enough : xss.length ≤ r.fuel) (stop : u ∈ [.kCase, .kDefault, .rbrace])
    (each : ∀ xs ∈ xss, (∀ v, firstToken xs v ∉ [.kCase, .kDefault, .rbrace, .eof]) ∧ ∀ v, Takes c r.stmt xs v fun _ => True) :
    Takes c r.stmtList xss.flatten u fun _ => True := by
  unfold stmtList
  refine (takes_manyWhile (g := fun t => ! [Token.kCase, .kDefault, .rbrace, .eof].contains t) (fun _ => rfl) ?_
    (fun xs hxs => ⟨fun v => ?_, fun v _ => (each xs hxs).2 v⟩) enough).imp fun _ _ => trivial
  · fin_cases stop <;> rfl
  · simpa using (each xs hxs).1 v

theorem takes_block {xss : List (List Symbol)} (enough : xss.length ≤ r.fuel)
    (each : ∀ xs ∈ xss, (∀ v, firstToken xs v ∉ [.kCase, .kDefault, .rbrace, .eof]) ∧ ∀ v, Takes c r.stmt xs v fun _ => True) :
    Takes c r.block ((Token.lbrace, a) :: (xss.flatten ++ [(Token.rbrace, b)])) u fun _ => True := by
  unfold block
  refine takes_expect rfl fun o => (takes_stmtList enough (by simp) each).bind fun _ _ => ?_
  exact takes_expect? rfl fun _ => takes_pure trivial

/-- The clause for one value, with one statement. -/
theorem takes_caseClause (some_step : 1 ≤ r.fuel) (stop : u ∈ [.kCase, .kDefault, .rbrace])
    (hx : Takes { c with rhs := true } r.expr xs .colon fun _ => True)
    (first : ∀ v, firstToken ys v ∉ [.kCase, .kDefault, .rbrace, .eof]) (hy : ∀ v, Takes c r.stmt ys v fun _ => True) :
    Takes c r.caseClause ((Token.kCase, a) :: (xs ++ (Token.colon, b) :: ys)) u fun _ => True := by
  unfold caseClause
  refine takes_offset fun o => takes_isAt rfl ?_
  dsimp only
  rw [if_neg (by decide)]
  refine takes_next ((takes_list_one (by simp) hx).bind fun _ _ => takes_expect rfl fun _ => ?_)
  have stmts : Takes c r.stmtList [ys].flatten u fun _ => True := by
    refine takes_stmtList some_step stop fun zs hzs => ?_
    rw [List.mem_singleton.1 hzs]
    exact ⟨first, hy⟩
  rw [List.flatten_singleton] at stmts
  exact stmts.last fun _ _ => takes_pure trivial

/-- A switch over a name. -/
theorem takes_switchStmt {xss : List (List Symbol)} (enough : xss.length ≤ r.fuel)
    (hx : Takes ⟨false, true⟩ r.expr xs .lbrace fun x => ∃ i, x = .ident i)
    (first : firstToken xs .lbrace ∉ [.lbrace, .semicolon])
    (each : ∀ ys ∈ xss, (∀ v, firstToken ys v = .kCase) ∧ ∀ v ∈ [.kCase, .kDefault, .rbrace],
      Takes c r.caseClause ys v fun _ => True) :
    Takes c r.switchStmt ((Token.kSwitch, n) :: (xs ++ (Token.lbrace, a) :: (xss.flatten ++ [(Token.rbrace, b), lineEnd]))) u fun _ => True := by
  unfold switchStmt
  refine takes_expect rfl fun o => ?_
  simp only [List.mem_cons, List.not_mem_nil, or_false, not_or] at first
  refine takes_notAt (by rw [firstToken_append]; exact first.1) ?_
  dsimp only
  rw [if_neg Bool.false_ne_true]
  refine Takes.bind (P := fun p => ∃ i, p = (none, some (.expr (.ident i)))) (Takes.header ?_) ?_
  · refine takes_notAt first.2 ?_
    rw [if_neg Bool.false_ne_true]
    refine (takes_simpleStmt_header hx).last ?_
    rintro ⟨_, x⟩ ⟨i, rfl⟩
    rw [pure_bind]
    refine takes_notAt (by simp) ?_
    rw [if_neg Bool.false_ne_true]
    exact takes_pure ⟨i, rfl⟩
  · rintro _ ⟨i, rfl⟩
    have guard : isTypeSwitchGuard (some (.expr (.ident i))) = pure false := rfl
    dsimp only
    rw [guard, pure_bind]
    refine takes_expect rfl fun _ => ?_
    refine (takes_manyWhile (g := [Token.kCase, .kDefault].contains) (P := fun _ => True) (fun _ => rfl) rfl
      (fun ys hys => ?_) enough).bind
      fun clauses _ => takes_expect rfl fun _ => takes_expectSemi fun _ => takes_pure trivial
    obtain ⟨starts, reads⟩ := each ys hys
    refine ⟨fun v => by rw [starts]; decide, fun v hv => reads v ?_⟩
    rcases hv with rfl | more
    · simp
    · simp at more ⊢
      tauto

/-! ## One statement -/

theorem takes_stmtRule_return (hx : Takes c r.returnStmt ((Token.kReturn, a) :: xs) u fun _ => True) :
    Takes c r.stmtRule ((Token.kReturn, a) :: xs) u fun _ => True := by
  unfold stmtRule
  refine takes_current fun i token => ?_
  replace token : i.token = .kReturn := token
  rw [token, if_neg (by decide)]
  exact hx

theorem takes_stmtRule_switch (hx : Takes c r.switchStmt ((Token.kSwitch, a) :: xs) u fun _ => True) :
    Takes c r.stmtRule ((Token.kSwitch, a) :: xs) u fun _ => True := by
  unfold stmtRule
  refine takes_current fun i token => ?_
  replace token : i.token = .kSwitch := token
  rw [token, if_neg (by decide)]
  exact hx

theorem takes_stmtRule_define (first : firstToken xs .define = .ident)
    (hx : Takes { c with rhs := false } r.expr xs .define fun _ => True)
    (hy : Takes { c with rhs := true } r.expr ys .semicolon fun _ => True) :
    Takes c r.stmtRule (xs ++ (Token.define, a) :: (ys ++ [lineEnd])) u fun _ => True := by
  unfold stmtRule
  refine takes_current fun i token => ?_
  replace token : i.token = .ident := token.trans (by rw [firstToken_append]; exact first)
  rw [token, if_pos (by decide)]
  have stmt : Takes c (r.simpleStmt .labelOk) (xs ++ (Token.define, a) :: ys) .semicolon fun p => ∃ l o op e, p.1 = .assign l o op e :=
    takes_simpleStmt_define hx hy (by decide)
  rw [← List.cons_append, ← List.append_assoc]
  refine stmt.bind ?_
  rintro ⟨_, x⟩ ⟨l, o, op, e, rfl⟩
  exact takes_expectSemi fun _ => takes_pure trivial

/-! ## Declarations -/

/-- Values behind an assignment token. -/
theorem takes_values (hx : Takes { c with rhs := true } r.expr xs .semicolon fun _ => True) :
    Takes c (do if ← isAt .assign then do next; r.list true else return []) ((Token.assign, a) :: xs) .semicolon fun _ => True :=
  takes_isAt rfl (takes_next ((takes_list_one (by simp) hx).imp fun _ _ => trivial))

/-- The definition of a constant. -/
theorem takes_valueSpec_const (none_type : Takes c r.type? [] .assign fun t => t = none)
    (hx : Takes { c with rhs := true } r.expr xs .semicolon fun _ => True) {doc : Option CommentGroup} :
    Takes c (r.valueSpec .kConst doc) ((Token.ident, n) :: (Token.assign, a) :: (xs ++ [lineEnd])) u fun _ => True := by
  unfold valueSpec
  refine takes_ident rfl fun i => takes_manyWhile_none (g := (· == .comma)) (fun _ => rfl) (by simp) ?_
  dsimp only
  rw [if_pos (by decide)]
  refine takes_notAtAny (by simp) ?_
  rw [if_neg Bool.false_ne_true]
  refine none_type.none ?_
  rintro _ rfl
  rw [← List.cons_append]
  refine Takes.bind (takes_values hx) fun _ _ => ?_
  rw [pure_bind]
  exact takes_expectSemi fun _ => takes_pure trivial

/-- The definition of a variable, possibly with its type. -/
theorem takes_valueSpec_var {doc : Option CommentGroup} (ht : xs = [] ∨
    (firstToken xs .assign ≠ .assign ∧ firstToken xs .assign ≠ .comma ∧
      Takes c r.type? xs .assign fun t => ∃ x, t = some x ∧ IsPlain x))
    (hx : Takes { c with rhs := true } r.expr ys .semicolon fun _ => True) :
    Takes c (r.valueSpec .kVar doc) ((Token.ident, n) :: (xs ++ (Token.assign, a) :: (ys ++ [lineEnd]))) u fun _ => True := by
  unfold valueSpec
  refine takes_ident rfl fun i => takes_manyWhile_none (g := (· == .comma)) (fun _ => rfl) ?_ ?_
  · rcases ht with rfl | ⟨-, comma, -⟩
    · rfl
    · simpa using comma
  dsimp only
  rw [if_neg (by decide)]
  have rest (t : Option Expr) : Takes c (do
      let vs ← (do if ← isAt .assign then do next; r.list true else return [])
      let __x ← pure (t, vs)
      let comment ← expectSemi
      return Spec.valueSpec doc [i] __x.1 __x.2 comment) ((Token.assign, a) :: (ys ++ [lineEnd])) u fun _ => True := by
    rw [← List.cons_append]
    refine Takes.bind (takes_values hx) fun _ _ => ?_
    rw [pure_bind]
    exact takes_expectSemi fun _ => takes_pure trivial
  rcases ht with rfl | ⟨first, -, ht⟩
  · refine takes_isAt rfl ?_
    rw [if_pos rfl, pure_bind]
    exact rest _
  · refine takes_notAt (by rw [firstToken_append]; exact first) ?_
    rw [if_neg Bool.false_ne_true]
    refine (takes_type ht).bind fun t _ => ?_
    rw [pure_bind]
    exact rest _

theorem takes_importSpec {doc : Option CommentGroup} :
    Takes c (importSpec doc) [(Token.string, n), lineEnd] u fun _ => True := by
  unfold importSpec
  refine takes_current fun i token => ?_
  replace token : i.token = .string := token
  rw [token]
  dsimp only
  rw [pure_bind]
  refine takes_current fun p token => ?_
  replace token : p.token = .string := token
  rw [token, if_pos (by decide)]
  refine takes_next ?_
  rw [pure_bind]
  exact takes_expectSemi fun _ => takes_pure trivial

/-- A declaration of one specification. -/
theorem takes_genDecl {keyword : Token} (first : firstToken xs u ≠ .lparen)
    (hx : Takes c (match keyword with
      | .kImport => importSpec none
      | .kType => r.typeSpec none
      | _ => r.valueSpec keyword none) xs u fun _ => True) :
    Takes c (r.genDecl keyword) ((keyword, a) :: xs) u fun _ => True := by
  unfold genDecl
  refine takes_current fun i _ => takes_expect rfl fun o => takes_notAt first ?_
  dsimp only
  rw [if_neg Bool.false_ne_true]
  exact hx.last fun _ _ => takes_pure trivial

/-! ## Functions -/

theorem takes_result_params (first : firstToken xs u = .lparen) (hx : Takes c (r.parameters false) xs u fun _ => True) :
    Takes c r.result xs u fun _ => True := by
  unfold result
  exact takes_isAt first (hx.last fun _ _ => takes_pure trivial)

theorem takes_result_type {P : Expr → Prop} (first : firstToken xs u ≠ .lparen)
    (hx : Takes c r.type? xs u fun t => ∃ x, t = some x ∧ P x) :
    Takes c r.result xs u fun _ => True := by
  unfold result
  refine takes_notAt first ?_
  rw [if_neg Bool.false_ne_true]
  refine hx.last ?_
  rintro _ ⟨x, rfl, -⟩
  exact takes_pure trivial

/-- A method. -/
theorem takes_funcDecl {recv params res body : List Symbol} (first : firstToken recv .ident = .lparen)
    (start_params : ∀ v, firstToken params v = .lparen) (start_body : firstToken body .semicolon = .lbrace)
    (hr : Takes c (r.parameters true) recv .ident fun _ => True)
    (hp : ∀ v, Takes c (r.parameters true) params v fun _ => True)
    (ht : Takes c r.result res .lbrace fun _ => True) (hb : Takes c r.block body .semicolon fun _ => True) :
    Takes c r.funcDecl ((Token.kFunc, a) :: (recv ++ (Token.ident, n) :: (params ++ (res ++ (body ++ [lineEnd]))))) u fun _ => True := by
  unfold funcDecl
  refine takes_current fun i _ => takes_expect rfl fun o => takes_isAt (by rw [firstToken_append]; exact first) ?_
  rw [if_pos rfl]
  refine Takes.bind hr fun receiver _ => ?_
  rw [pure_bind]
  refine takes_ident rfl fun name => ?_
  have none : Takes c r.typeParameters [] (firstToken (params ++ (res ++ (body ++ [lineEnd]))) u) fun _ => True := by
    unfold typeParameters
    refine takes_notAt ?_ (takes_pure trivial)
    rw [firstToken_nil, firstToken_append, start_params]
    decide
  have results : Takes c r.result res (firstToken (body ++ [lineEnd]) u) fun _ => True := by
    rw [firstToken_append, firstToken_cons]
    exact start_body ▸ ht
  refine none.none fun tparams _ => (hp _).bind fun ps _ => results.bind fun rs _ => ?_
  have here : firstToken (body ++ [lineEnd]) u = .lbrace := by rw [firstToken_append]; exact start_body
  refine takes_token here ?_
  refine Takes.bind hb fun b _ => takes_expectSemi fun _ => ?_
  rw [pure_bind]
  exact takes_pure trivial

/-! ## Files -/

theorem takes_decl_gen {keyword : Token} (known : keyword = .kConst ∨ keyword = .kVar)
    (hx : Takes c (r.genDecl keyword) ((keyword, a) :: xs) u fun _ => True) :
    Takes c r.decl ((keyword, a) :: xs) u fun _ => True := by
  unfold decl
  refine takes_current fun i token => ?_
  replace token : i.token = keyword := token
  rw [token]
  rcases known with rfl | rfl <;> exact hx.last fun _ _ => takes_pure trivial

theorem takes_decl_func (hx : Takes c r.funcDecl ((Token.kFunc, a) :: xs) u fun _ => True) :
    Takes c r.decl ((Token.kFunc, a) :: xs) u fun _ => True := by
  unfold decl
  refine takes_current fun i token => ?_
  replace token : i.token = .kFunc := token
  rw [token]
  exact hx

/-- The declarations of a file that follow its imports. -/
theorem takes_declsFrom {xss : List (List Symbol)} {last : Token}
    (each : ∀ xs ∈ xss, (∀ v, firstToken xs v ∈ [.kConst, .kVar, .kFunc]) ∧ ∀ v, Takes c r.decl xs v fun _ => True)
    {k : Nat} (enough : xss.length ≤ k) : Takes c (r.declsFrom last k) xss.flatten .eof fun _ => True := by
  induction xss generalizing k last with
  | nil =>
    cases k with
    | zero => exact takes_pure trivial
    | succ k =>
      unfold declsFrom
      refine takes_current fun i token => ?_
      replace token : i.token = .eof := token
      rw [token, if_pos (by decide)]
      exact takes_pure trivial
  | cons xs xss ih =>
    obtain ⟨k, rfl⟩ := Nat.exists_eq_succ_of_ne_zero (Nat.ne_zero_of_lt enough)
    obtain ⟨⟨starts, reads⟩, rest⟩ := List.forall_mem_cons.1 each
    unfold declsFrom
    refine takes_current fun i token => ?_
    have start := starts (firstToken xss.flatten .eof)
    rw [List.flatten_cons, firstToken_append] at token
    rw [← token] at start
    have known : (i.token == .eof) = false ∧ (i.token == .kImport) = false := by
      generalize i.token = t at start
      fin_cases start <;> decide
    rw [known.1, known.2, Bool.false_and, if_neg Bool.false_ne_true]
    dsimp only
    rw [if_neg Bool.false_ne_true, List.flatten_cons]
    exact (reads _).bind fun d _ => (ih rest (Nat.le_of_succ_le_succ enough)).last fun _ _ => takes_pure trivial

theorem takes_stopIfFaulty {f : Unit → Parse β} {Q : β → Prop} (hf : Takes c (f ()) xs u Q) :
    Takes c (stopIfFaulty >>= f) xs u Q := by
  refine Takes.none (P := fun _ => True) ⟨fun {s i rest} before inside follow => ?_⟩ fun _ _ => hf
  obtain ⟨is, items, seen, -⟩ := before.items
  obtain rfl := List.map_eq_nil_iff.1 seen
  refine ⟨(), s, ?_, ⟨items, before.clean, .refl s⟩, trivial⟩
  simp [stopIfFaulty, before.clean]
  rfl

/-- A file of a package clause, imports and declarations. -/
theorem takes_file {comments : List CommentGroup} {iss xss : List (List Symbol)}
    (imports : ∀ xs ∈ iss, (∀ v, firstToken xs v = .kImport) ∧ ∀ v, Takes c (r.genDecl .kImport) xs v fun _ => True)
    (decls : ∀ xs ∈ xss, (∀ v, firstToken xs v ∈ [.kConst, .kVar, .kFunc]) ∧ ∀ v, Takes c r.decl xs v fun _ => True)
    (enough : iss.length ≤ r.fuel) (enough' : xss.length ≤ r.fuel) :
    Takes c (r.file comments) ((Token.kPackage, a) :: (Token.ident, n) :: lineEnd :: (iss.flatten ++ xss.flatten)) .eof fun _ => True := by
  unfold file
  refine takes_stopIfFaulty (takes_current fun i _ => takes_expect rfl fun o => takes_ident rfl fun name => ?_)
  refine takes_expectSemi fun _ => takes_stopIfFaulty ?_
  have other : firstToken xss.flatten .eof ≠ .kImport := by
    cases xss with
    | nil => decide
    | cons ys xss =>
      have start := (decls ys (by simp)).1 (firstToken xss.flatten .eof)
      rw [List.flatten_cons, firstToken_append]
      generalize firstToken ys (firstToken xss.flatten .eof) = t at start
      fin_cases start <;> decide
  have one (xs) (hxs : xs ∈ iss) (v : Token) : Takes c (return Decl.gen (← r.genDecl .kImport)) xs v fun _ => True :=
    ((imports xs hxs).2 v).last fun _ _ => takes_pure trivial
  refine Takes.bind (takes_manyWhile (g := (· == .kImport)) (P := fun _ => True) (fun _ => rfl) (by simpa using other)
    (fun xs hxs => ?_) enough) fun is _ => ?_
  · exact ⟨fun v => by rw [(imports xs hxs).1]; rfl, fun v _ => one xs hxs v⟩
  · exact (takes_declsFrom decls enough').last fun ds _ => takes_pure trivial

end DocAccessors.Source.Grammar.Rules

namespace DocAccessors.Source

open Grammar

/-- **A text is a source file** if the rules read its symbols. -/
theorem File.attemptFlat_of_takes {file : SourceFile} {src : Text} {xs : List Symbol}
    (seen : symbols (lex file.name src).1 = xs ++ [(Token.eof, [])]) (clean : ∀ l ∈ (lex file.name src).1, l.faults = [])
    (takes : ∀ comments, Takes {} ((Rules.ofDepth (20 * (xs.length + 1) + 100) (4 * (xs.length + 1) + 20)).file comments) xs .eof
      fun _ => True) : ∃ f, File.attemptFlat file src = (some f, []) := by
  have closed := Item.closed_lex file.name src
  have items := Item.ofLexemes_symbols (fun o => (file.place o).line) closed
  have fine := (Item.ofLexemes_spec (fun o => (file.place o).line) closed).2 clean
  rw [seen] at items
  unfold File.attemptFlat attemptRule
  generalize Item.ofLexemes (fun o => (file.place o).line) (lex file.name src).1 = made at items fine
  obtain ⟨is, comments⟩ := made
  dsimp only at items fine ⊢
  have length : is.length = xs.length + 1 := by rw [← List.length_map (f := Item.symbol), items]; simp
  obtain ⟨js, ks, rfl, before, last⟩ := List.map_eq_append_iff.1 items
  obtain ⟨f, rfl, token⟩ := List.map_eq_singleton_iff.1 last
  obtain ⟨fine_js, fine_f⟩ := List.forall_mem_append.1 fine
  rw [length]
  obtain ⟨g, gs, split⟩ := List.exists_cons_of_ne_nil (List.concat_ne_nil f js)
  have fine_g : g.faults = [] := fine g (by rw [split]; simp)
  have before' : State.Before xs f [] { file, items := g :: gs, faults := [] } :=
    ⟨⟨js, split.symm, before, fine_js⟩, fine_f f (by simp), rfl⟩
  obtain ⟨tree, t, run, past, -⟩ := (takes comments).run before' ⟨rfl, by simp⟩ (congrArg Prod.fst token)
  rw [split]
  dsimp only
  rw [fine_g]
  rw [show (placed file []).reverse = [] from rfl, run]
  refine ⟨tree, ?_⟩
  dsimp only
  rw [past.clean, SyntaxFault.sort_eq_nil.2 List.reverse_nil]

end DocAccessors.Source
