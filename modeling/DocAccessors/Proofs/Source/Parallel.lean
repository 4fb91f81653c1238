import DocAccessors.Proofs.Source.Mirror
import DocAccessors.Proofs.Source.Shape

/-!
# Rules of expressions and types in two places

What the rules for expressions and types read on their own, they read in a file.

* `Rules.Parallel E k r r'`: the rules `r'` for the parts of a construct read in the file what the rules `r` read;
* `mirrors_typeRule`, `mirrors_binaryRule` and so on: then the rules of the next level do.
-/

set_option mvcgen.warning false

namespace DocAccessors.Source.Grammar

/-- The rules for the parts of a construct read in the file what they read of less than `k` tokens on their own. -/
structure Rules.Parallel (E : Seam) (k : Nat) (r r' : Rules) : Prop where
  fuel : k ≤ r.fuel
  fuel' : k ≤ r'.fuel
  binary : ∀ {prec}, 0 < prec → Mirrors E 0 0 k Expr.shape (r.binary prec) (r'.binary prec)
  unary : Mirrors E 0 0 k Expr.shape r.unary r'.unary
  type? : Mirrors E 0 0 k (Option.map Expr.shape) r.type? r'.type?
  stmt : Mirrors E 1 0 k Stmt.shape r.stmt r'.stmt
  passes : PassesUnless E .rbrace k Stmt.shape r.stmt r'.stmt
  ifStmt : Mirrors E 1 1 k Stmt.shape r.ifStmt r'.ifStmt
  literalValue : ∀ t t', Mirrors E 0 0 k Expr.shape (r.literalValue t) (r'.literalValue t')

/-- Lists that look alike are both empty or both not. -/
theorem isEmpty_of_map_eq {f : α → γ} {xs ys : List α} (same : xs.map f = ys.map f) : xs.isEmpty = ys.isEmpty := by
  simpa using congrArg List.isEmpty same

theorem Mirrors.isVariadic {E : Seam} {room eaten k : Nat} {p q : Parse Expr} (hp : Mirrors E room eaten k Expr.shape p q) :
    Mirrors E room eaten k Expr.isVariadic p q := hp.coarsen fun _ _ => Expr.isVariadic_congr

namespace Rules

variable {E : Seam} {k : Nat} {r r' : Rules}

theorem keeps_moreArguments {I : Invariant} [Keep I r] (fuel : Nat) : Keeps I (arrayOrInstance.more r fuel) := by
  induction fuel with
  | zero => mvcgen [arrayOrInstance.more]
  | succ fuel ih => mvcgen [arrayOrInstance.more, ih]

section

variable [End r] (h : Parallel E k r r')
include h

omit [End r] in
theorem mirrors_expr : Mirrors E 0 0 k Expr.shape r.expr r'.expr := h.binary Nat.one_pos

omit [End r] in
theorem mirrors_rhs : Mirrors E 0 0 k Expr.shape r.rhs r'.rhs := (mirrors_expr h).withRhs true

theorem mirrors_exprList : Mirrors E 1 1 k (List.map Expr.shape) r.exprList r'.exprList := by
  unfold exprList
  refine ((mirrors_expr h).inner.eats ends_expr.eats).first fun x y same => ?_
  have more : Mirrors E 1 1 k Expr.shape (do next; r.expr) (do next; r'.expr) :=
    mirrors_next.first fun _ _ _ => (mirrors_expr h).inner
  refine (mirrors_manyWhile (mirrors_isAt_inner .comma) more h.fuel h.fuel').bind fun xs ys sames => ?_
  exact mirrors_pure (by simp [same, sames])

theorem mirrors_list (rhs : Bool) : Mirrors E 1 1 k (List.map Expr.shape) (r.list rhs) (r'.list rhs) :=
  (mirrors_exprList h).withRhs rhs

/-! ## Types -/

omit [End r] in
theorem mirrors_type : Mirrors E 0 0 k Expr.shape r.type r'.type := by
  unfold type
  refine h.type?.options (fun t t' same => mirrors_pure same) ?_
  exact mirrors_offset.bind fun _ _ _ => mirrors_faultExpected fun I => by mvcgen

omit [End r] in
/-- What is made of a type, if that has a shape of its own. -/
theorem mirrors_ofType {view : α → γ} {f g : Expr → α} (alike : ∀ t t', t.shape = t'.shape → view (f t) = view (g t')) :
    Mirrors E 0 0 k view (do return f (← r.type)) (do return g (← r'.type)) :=
  (mirrors_type h).bind fun t t' same => mirrors_pure (alike t t' same)

omit [End r] h in
theorem mirrors_typeName {room : Nat} {name name' : Option Ident} (same : name.isSome = name'.isSome) :
    Mirrors E room 0 k Expr.shape (typeName name) (typeName name') := by
  have rest (id id' : Ident) : Mirrors E room 0 k Expr.shape
      (do if ← isAt .period then do next; return .selector (.ident id) (← ident) else return .ident id)
      (do if ← isAt .period then do next; return .selector (.ident id') (← ident) else return .ident id') := by
    refine (mirrors_isAt (by decide)).same fun qualified => ?_
    split
    · exact mirrors_next.bind fun _ _ _ => mirrors_ident.bind fun _ _ _ => mirrors_pure rfl
    · exact mirrors_pure rfl
  unfold typeName
  match name, name' with
  | none, none => exact mirrors_ident.bind fun id id' _ => rest id id'
  | some id, some id' => exact rest id id'

omit [End r] in
theorem mirrors_typeArguments : Mirrors E 1 0 k (List.map Expr.shape)
    (listUntil (text "type argument list") .rbrack r.type r.fuel)
    (listUntil (text "type argument list") .rbrack r'.type r'.fuel) :=
  mirrors_listUntil (mirrors_type h).inner h.fuel h.fuel'

omit [End r] in
theorem mirrors_typeInstance (t t' : Expr) : Mirrors E 0 0 k Expr.shape (r.typeInstance t) (r'.typeInstance t') := by
  unfold typeInstance
  refine (mirrors_expect (by decide)).bind fun _ _ _ => ?_
  refine Mirrors.before (mirrors_typeArguments h).nested
    (fun args => .first (ends_expectClosing rfl _).eats fun _ I => by mvcgen) fun args args' same => ?_
  refine (mirrors_expectClosing rfl _).bind fun _ _ _ => ?_
  rw [isEmpty_of_map_eq same]
  split
  · exact mirrors_faultExpected (steady_pure _)
  · exact mirrors_pure rfl

omit [End r] in
theorem mirrors_qualifiedName {name name' : Option Ident} (same : name.isSome = name'.isSome) :
    Mirrors E 0 0 k Expr.shape (r.qualifiedName name) (r'.qualifiedName name') := by
  unfold qualifiedName
  refine (mirrors_typeName same).bind fun t t' same => ?_
  refine (mirrors_isAt (by decide)).same fun generic => ?_
  split
  · exact mirrors_typeInstance h t t'
  · exact mirrors_pure same

theorem mirrors_arrayType (lbrack lbrack' : Nat) {length length' : Option Expr} (same : length.isSome = length'.isSome) :
    Mirrors E 0 0 k Expr.shape (r.arrayType lbrack length) (r'.arrayType lbrack' length') := by
  unfold arrayType
  extract_lets rest rest'
  have eats_rest (n : Option Expr) : Eats (rest n) := by
    refine .second (fun _ => keeps_isAt _) fun comma => ?_
    dsimp only
    split
    · exact (Ends.after (fun _ => keeps_offset) fun _ => ends_fault fun I => by mvcgen).eats
    · exact .first (eats_expect (by decide)) fun _ I => by mvcgen
  have mirrors_rest (n n' : Option Expr) : Mirrors E 0 0 k Expr.shape (rest n) (rest' n') := by
    refine Mirrors.looks (fun s => ⟨_, rfl⟩) (eats_rest n) (mirrors_isAt_inner .comma) ?_
    rintro comma _ (rfl : comma = _)
    split
    · exact mirrors_offset.bind fun _ _ _ => mirrors_fault fun I => by mvcgen
    · exact (mirrors_expect (by decide)).bind fun _ _ _ => mirrors_ofType h fun _ _ _ => rfl
  clear_value rest rest'
  match length, length' with
  | some n, some n' => exact mirrors_rest _ _
  | none, none =>
    refine Mirrors.before (e := 0) (v := fun _ => ()) ?_ eats_rest fun n n' _ => mirrors_rest n n'
    refine Mirrors.nested (mirrors_token.same fun t => ?_)
    split
    · exact mirrors_offset.bind fun _ _ _ => mirrors_next.bind fun _ _ _ => mirrors_pure rfl
    · exact mirrors_pure rfl
    · exact (mirrors_rhs h).inner.bind fun _ _ _ => mirrors_pure rfl

theorem mirrors_moreArguments {j n n' : Nat} (le : j ≤ k) (enough : j ≤ n) (enough' : j ≤ n') :
    Mirrors E 1 0 j (fun p => (p.1.length, p.2.isSome)) (arrayOrInstance.more r n) (arrayOrInstance.more r' n') := by
  induction j generalizing n n' with
  | zero => exact mirrors_zero fun I => keeps_moreArguments n
  | succ j ih =>
    obtain ⟨n, rfl⟩ := Nat.exists_eq_succ_of_ne_zero (Nat.ne_zero_of_lt enough)
    obtain ⟨n', rfl⟩ := Nat.exists_eq_succ_of_ne_zero (Nat.ne_zero_of_lt enough')
    unfold arrayOrInstance.more
    refine (mirrors_isAt_inner .comma).same fun goesOn => ?_
    split
    · refine mirrors_offset.bind fun _ _ _ => (mirrors_next.less fun _ _ _ => ?_).weaken (Nat.zero_le 1)
      refine (mirrors_isAt_inner .rbrack).same fun closes => ?_
      split
      · exact mirrors_pure rfl
      · refine ((mirrors_rhs h).inner.mono (by omega)).bind fun x y _ => ?_
        exact (ih (by omega) (by omega) (by omega)).bind fun p q same => mirrors_pure (by simpa using same)
    · exact mirrors_pure rfl

theorem mirrors_arrayOrInstance (name name' : Ident) :
    Mirrors E 0 1 k (fun p => (p.1.isSome, p.2.shape)) (r.arrayOrInstance name) (r'.arrayOrInstance name') := by
  unfold arrayOrInstance
  refine (mirrors_expect (by decide)).first fun _ _ _ => ?_
  refine Mirrors.before (e := 0) (v := fun p => (p.1.length, p.2.isSome)) ?_
    (fun _ => .first (eats_expect (by decide)) fun _ I => by mvcgen) ?_
  · refine Mirrors.nested ((mirrors_isAt_inner .rbrack).same fun empty => ?_)
    split
    · exact mirrors_pure rfl
    · refine (mirrors_rhs h).inner.bind fun x y _ => ?_
      refine (mirrors_moreArguments h (Nat.le_refl k) h.fuel h.fuel').bind fun p q same => ?_
      exact mirrors_pure (by simpa using same)
  · rintro ⟨args, trailing⟩ ⟨args', trailing'⟩ same
    obtain ⟨length, commas⟩ := Prod.mk.inj same
    refine (mirrors_expect (by decide)).bind fun _ _ _ => ?_
    rcases args with _ | ⟨x, _ | ⟨x₂, xs⟩⟩ <;> rcases args' with _ | ⟨y, _ | ⟨y₂, ys⟩⟩ <;> try cases length
    · exact mirrors_ofType h fun _ _ _ => rfl
    · refine h.type?.options (fun t t' _ => ?_) (mirrors_pure rfl)
      rcases trailing with _ | o <;> rcases trailing' with _ | o' <;> try cases commas
      · exact mirrors_pure rfl
      · exact mirrors_fault (steady_pure _)
    · exact mirrors_pure rfl

/-- What is asked of an entry of a parameter list. -/
def Param.shape (p : Param) : Bool × Option Bool := (p.name.isSome, p.type.map Expr.isVariadic)

omit [End r] h in
theorem mirrors_names {n n' : Nat} (enough : k ≤ n) (enough' : k ≤ n') :
    Mirrors E 1 0 k (List.map fun _ => ()) (manyWhile (isAt .comma) (do next; ident) n)
      (manyWhile (isAt .comma) (do next; ident) n') :=
  mirrors_manyWhile (mirrors_isAt_inner .comma) (mirrors_next.first fun _ _ _ => mirrors_ident.weaken (Nat.zero_le 1)) enough
    enough'

omit [End r] h in
theorem faulty_parenthesized {p : Parse Expr} (steady : Steady p) : Faulty (parenthesized p) := by
  unfold parenthesized
  refine .after (fun _ => keeps_offset) fun o => (faulty_fault _ _).first fun _ I => ?_
  have keeps := steady I
  mvcgen [keeps]

theorem mirrors_fieldDecl : Mirrors E 1 1 k (fun _ => ()) r.fieldDecl r'.fieldDecl := by
  unfold fieldDecl
  refine mirrors_current.bind fun i j _ => ?_
  extract_lets doc pointer rest embedded doc' rest' embedded'
  have mirrors_rest (x x' : List Ident × Expr) : Mirrors E 1 0 k (fun _ => ()) (rest x) (rest' x') := by
    refine mirrors_current.bind fun i j same => ?_
    extract_lets tagged tagged'
    have mirrors_tagged (t t' : Option Ident) : Mirrors E 1 0 k (fun _ => ()) (tagged t) (tagged' t') :=
      mirrors_expectSemi.bind fun _ _ _ => mirrors_pure rfl
    rw [(Prod.mk.inj same).1]
    split
    · exact mirrors_next.bind fun _ _ _ => mirrors_tagged _ _
    · exact mirrors_tagged _ _
  have mirrors_embedded (t t' : Expr) : Mirrors E 1 0 k (fun _ => ()) (embedded t) (embedded' t') :=
    mirrors_rest ([], t) ([], t')
  have steady_rest (x : List Ident × Expr) : Steady (rest x) := (mirrors_rest x x).steady
  have steady_pointer {p : Parse Expr} (steady : Steady p) : Steady (pointer p) := fun I => by
    have keeps := steady I
    mvcgen [pointer, keeps]
  have mirrors_pointer {p q : Parse Expr} (hp : Mirrors E 1 0 k Expr.shape p q) :
      Mirrors E 1 1 k (fun _ => ()) (pointer p) (pointer q) := by
    unfold pointer
    exact mirrors_offset.bind fun _ _ _ => mirrors_next.first fun _ _ _ => hp.bind fun _ _ _ => mirrors_pure rfl
  clear_value rest rest' embedded embedded' pointer
  refine mirrors_token.same fun t => ?_
  split
  · refine mirrors_ident.first fun name name' _ => ?_
    refine (mirrors_isAtAny _).same fun plain => ?_
    split
    · refine (mirrors_isAt (by decide)).same fun qualified => ?_
      split
      · exact (mirrors_qualifiedName h (by rfl)).inner.bind fun _ _ _ => mirrors_embedded _ _
      · exact mirrors_embedded _ _
    · refine (mirrors_names h.fuel h.fuel').bind fun more more' same => ?_
      refine (mirrors_isAt (by decide)).same fun bracket => ?_
      rw [isEmpty_of_map_eq same]
      split
      · exact ((mirrors_arrayOrInstance h name name').inner.weaken (Nat.zero_le 1)).bind fun _ _ _ => mirrors_rest _ _
      · exact (mirrors_type h).inner.bind fun _ _ _ => mirrors_rest _ _
  · refine (mirrors_pointer ?_).first fun _ _ _ => mirrors_rest _ _
    refine (mirrors_isAt (by decide)).same fun parens => ?_
    split
    · exact (faulty_parenthesized fun _ => keeps_qualifiedName none).mirrors
    · exact (mirrors_qualifiedName h rfl).inner
  · refine ((faulty_parenthesized fun I => ?_).first fun _ => steady_rest _).mirrors
    have keeps := steady_pointer (fun I => keeps_qualifiedName (r := r) none) I
    mvcgen [keeps]
  · refine mirrors_offset.bind fun _ _ _ => mirrors_faultExpected fun I => ?_
    have keeps x := steady_rest x I
    mvcgen [keeps]

theorem mirrors_structType : Mirrors E 0 0 k Expr.shape r.structType r'.structType := by
  unfold structType
  refine (mirrors_expect (by decide)).bind fun _ _ _ => ?_
  refine (mirrors_expect (by decide)).bind fun _ _ _ => ?_
  refine Mirrors.before (mirrors_manyWhile (mirrors_isAtAny _) (mirrors_fieldDecl h) h.fuel h.fuel')
    (fun _ => .first (eats_expect (by decide)) fun _ I => by mvcgen) fun _ _ _ => ?_
  exact (mirrors_expect (by decide)).bind fun _ _ _ => mirrors_pure rfl

omit [End r] in
theorem mirrors_pointerType : Mirrors E 0 0 k Expr.shape r.pointerType r'.pointerType := by
  unfold pointerType
  exact (mirrors_expect (by decide)).bind fun _ _ _ => mirrors_ofType h fun _ _ _ => rfl

omit [End r] in
theorem mirrors_dotsType : Mirrors E 0 0 k Expr.shape r.dotsType r'.dotsType := by
  unfold dotsType
  exact (mirrors_expect (by decide)).bind fun _ _ _ => mirrors_ofType h fun _ _ _ => rfl

omit [End r] in
theorem mirrors_embeddedTerm : Mirrors E 0 0 k Expr.shape r.embeddedTerm r'.embeddedTerm := by
  unfold embeddedTerm
  refine mirrors_offset.bind fun _ _ _ => ?_
  refine (mirrors_isAt (by decide)).same fun tilde => ?_
  split
  · exact mirrors_next.bind fun _ _ _ => mirrors_ofType h fun _ _ _ => rfl
  · exact h.type?.options (fun t t' same => mirrors_pure same) (mirrors_faultExpected fun I => by mvcgen)

theorem mirrors_unionRest {x x' : Expr} (same : x.isVariadic = x'.isVariadic) {j n n' : Nat} (le : j ≤ k) (enough : j ≤ n)
    (enough' : j ≤ n') : Mirrors E 0 0 j Expr.isVariadic (r.unionRest x n) (r'.unionRest x' n') := by
  induction j generalizing x x' n n' with
  | zero => exact mirrors_zero fun I => keeps_unionRest x n
  | succ j ih =>
    obtain ⟨n, rfl⟩ := Nat.exists_eq_succ_of_ne_zero (Nat.ne_zero_of_lt enough)
    obtain ⟨n', rfl⟩ := Nat.exists_eq_succ_of_ne_zero (Nat.ne_zero_of_lt enough')
    unfold unionRest
    refine (mirrors_isAt (by decide)).same fun goesOn => ?_
    split
    · refine mirrors_offset.bind fun _ _ _ => (mirrors_next.less fun _ _ _ => ?_).weaken (Nat.zero_le 1)
      refine ((mirrors_embeddedTerm h).mono (by omega)).bind fun y y' same' => ?_
      exact ih (by rfl) (by omega) (by omega) (by omega)
    · exact mirrors_pure same

theorem mirrors_embeddedElem {x x' : Option Expr} (same : x.map Expr.isVariadic = x'.map Expr.isVariadic) :
    Mirrors E 0 0 k Expr.isVariadic (r.embeddedElem x) (r'.embeddedElem x') := by
  unfold embeddedElem
  match x, x', same with
  | none, none, _ =>
    exact (mirrors_embeddedTerm h).isVariadic.bind fun y y' same => mirrors_unionRest h same (Nat.le_refl k) h.fuel h.fuel'
  | some x, some x', same => exact mirrors_unionRest h (Option.some.inj same) (Nat.le_refl k) h.fuel h.fuel'

/-! ### Parameters -/

theorem mirrors_paramDecl {name name' : Option Ident} (same : name.isSome = name'.isSome) (unions : Bool) :
    Mirrors E 1 0 k Param.shape (r.paramDecl name unions) (r'.paramDecl name' unions) := by
  unfold paramDecl
  extract_lets finish rest finish' rest'
  have mirrors_finish {p p' : Param} (same : p.shape = p'.shape) : Mirrors E 1 0 k Param.shape (finish p) (finish' p') := by
    obtain ⟨name, type⟩ := p
    obtain ⟨name', type'⟩ := p'
    obtain ⟨named, types⟩ := Prod.mk.inj same
    match type, type', types with
    | none, none, _ => exact mirrors_pure same
    | some t, some t', types =>
      refine (mirrors_isAt (by decide)).same fun union => ?_
      split
      · exact (mirrors_embeddedElem h types).inner.bind fun x x' same' =>
          mirrors_pure (Prod.ext named (congrArg some same'))
      · exact mirrors_pure same
  clear_value finish finish'
  have mirrors_typed {n n' : Option Ident} (named : n.isSome = n'.isSome) {p q : Parse Expr}
      (hp : Mirrors E 0 0 k Expr.isVariadic p q) :
      Mirrors E 1 0 k Param.shape (p >>= fun t => finish ⟨n, some t⟩) (q >>= fun t => finish' ⟨n', some t⟩) :=
    hp.inner.bind fun t t' same => mirrors_finish (by simp [Param.shape, named, same])
  have mirrors_ended {n n' : Option Ident} (named : n.isSome = n'.isSome) {p q : Parse Expr}
      (hp : Mirrors E 0 0 k Expr.isVariadic p q) :
      Mirrors E 1 0 k Param.shape (do return ⟨n, some (← p)⟩) (do return ⟨n', some (← q)⟩) :=
    hp.inner.bind fun t t' same => mirrors_pure (Prod.ext named (congrArg some same))
  have mirrors_rest (id id' : Ident) : Mirrors E 1 0 k Param.shape (rest id) (rest' id') := by
    refine mirrors_token.same fun t => ?_
    split
    · exact mirrors_typed (by rfl) (mirrors_type h).isVariadic
    · split
      · refine ((mirrors_arrayOrInstance h id id').weaken (Nat.zero_le 1)).inner.bind fun (kept, t) (kept', t') same => ?_
        obtain ⟨named, typed⟩ := Prod.mk.inj same
        exact mirrors_finish (by simpa [Param.shape, Expr.isVariadic_congr typed] using named)
      · exact mirrors_ended (by rfl) (mirrors_dotsType h).isVariadic
      · exact mirrors_typed (by rfl) (mirrors_qualifiedName h (by rfl)).isVariadic
      · split
        · exact mirrors_ended (by rfl) (mirrors_embeddedElem h rfl)
        · exact mirrors_pure rfl
      · split
        · exact mirrors_ended (by rfl) (mirrors_embeddedElem h (by rfl))
        · exact mirrors_pure rfl
      · exact mirrors_pure rfl
  clear_value rest rest'
  refine (mirrors_isAt (by decide)).same fun tilde => ?_
  have none_eq : name.isNone = name'.isNone := by simp [← Option.not_isSome, same]
  rw [none_eq, same]
  split
  · exact mirrors_ended (by rfl) (mirrors_embeddedElem h rfl)
  · refine (mirrors_isAt (by decide)).same fun named => ?_
    split
    · match name, name', same with
      | none, none, _ => exact mirrors_ident.bind fun id id' _ => mirrors_rest id id'
      | some id, some id', _ => exact mirrors_rest id id'
    · refine mirrors_token.same fun t => ?_
      split
      · exact mirrors_typed (by rfl) (mirrors_type h).isVariadic
      · split
        · exact mirrors_ended (by rfl) (mirrors_dotsType h).isVariadic
        · exact mirrors_offset.bind fun _ _ _ => mirrors_faultExpected fun I => by mvcgen

theorem mirrors_params (unions : Bool) (closing : Token) {name name' : Option Ident} {type type' : Option Expr}
    (named : name.isSome = name'.isSome) (typed : type.map Expr.isVariadic = type'.map Expr.isVariadic) {j n n' : Nat}
    (le : j ≤ k)
    (enough : j ≤ n) (enough' : j ≤ n') :
    Mirrors E 1 0 j (List.map Param.shape) (r.params unions closing name type n) (r'.params unions closing name' type' n') := by
  induction j generalizing name name' type type' n n' with
  | zero => exact mirrors_zero fun I => keeps_params unions closing name type n
  | succ j ih =>
    obtain ⟨n, rfl⟩ := Nat.exists_eq_succ_of_ne_zero (Nat.ne_zero_of_lt enough)
    obtain ⟨n', rfl⟩ := Nat.exists_eq_succ_of_ne_zero (Nat.ne_zero_of_lt enough')
    unfold params
    refine (mirrors_isAt_inner closing).same fun closes => ?_
    refine (mirrors_isAt_inner .eof).same fun atEof => ?_
    have none_eq : name.isNone = name'.isNone := by simp [← Option.not_isSome, named]
    extract_lets rest given rest' given'
    have mirrors_rest {p p' : Param} (same : p.shape = p'.shape) :
        Mirrors E 1 0 (j + 1) (List.map Param.shape) (rest p) (rest' p') := by
      obtain ⟨named, typed⟩ := Prod.mk.inj same
      have here : (if p.name.isNone && p.type.isNone then [] else [p]).map Param.shape =
          (if p'.name.isNone && p'.type.isNone then [] else [p']).map Param.shape := by
        have untyped := congrArg Option.isSome typed
        rw [Option.isSome_map, Option.isSome_map] at untyped
        rw [← Option.not_isSome, ← Option.not_isSome, named, untyped, Option.not_isSome, Option.not_isSome]
        split
        · rfl
        · simp [same]
      refine (mirrors_atComma _ closing).same fun goesOn => ?_
      split
      · refine (mirrors_next.less fun _ _ _ => ?_).weaken (Nat.zero_le 1)
        refine (ih rfl rfl (by omega) (by omega) (by omega)).bind fun ps ps' sames => ?_
        exact mirrors_pure (by rw [List.map_append, List.map_append, here, sames])
      · exact mirrors_pure here
    clear_value rest rest'
    have mirrors_given {t t' : Expr} (same : t.isVariadic = t'.isVariadic) :
        Mirrors E 1 0 (j + 1) (List.map Param.shape) (given t) (given' t') :=
      @mirrors_rest ⟨name, some t⟩ ⟨name', some t'⟩ (by simp [Param.shape, named, same])
    rw [none_eq]
    split
    · exact mirrors_pure rfl
    · rcases type with _ | t
      · obtain rfl := Option.map_eq_none_iff.1 typed.symm
        exact ((mirrors_paramDecl h named unions).mono le).bind fun p p' same => mirrors_rest same
      · obtain ⟨t', rfl, variadic⟩ := Option.map_eq_some_iff.1 typed.symm
        dsimp only
        split
        · exact (((mirrors_embeddedElem h typed).inner).mono le).bind fun t t' same =>
            mirrors_given same
        · exact mirrors_given variadic.symm

/-- What is asked of a parameter of a list. -/
def TypedParam.shape (p : TypedParam) : Bool × Bool := (p.shares, p.type.isVariadic)

omit [End r] h in
theorem distribute_alike {ps ps' : List Param} (same : ps.map Param.shape = ps'.map Param.shape) (stop stop' : Nat) :
    (distribute stop ps).1.map TypedParam.shape = (distribute stop' ps').1.map TypedParam.shape ∧
      (distribute stop ps).2.1.map Expr.isVariadic = (distribute stop' ps').2.1.map Expr.isVariadic ∧
      (distribute stop ps).2.2.isSome = (distribute stop' ps').2.2.isSome := by
  induction ps generalizing ps' with
  | nil =>
    obtain rfl : ps' = [] := by simpa using same.symm
    exact ⟨rfl, rfl, rfl⟩
  | cons p ps ih =>
    obtain ⟨p', ps', rfl, first, others⟩ := List.map_eq_cons_iff.1 same.symm
    obtain ⟨name, type⟩ := p
    obtain ⟨name', type'⟩ := p'
    obtain ⟨named, typed⟩ := Prod.mk.inj first
    obtain ⟨rests, laters, bads⟩ := ih others.symm
    unfold distribute
    generalize distribute stop ps = d, distribute stop' ps' = d' at rests laters bads
    obtain ⟨rest, later, bad⟩ := d
    obtain ⟨rest', later', bad'⟩ := d'
    match type, type', typed with
    | some t, some t', typed =>
      cases name <;> cases name' <;> simp_all [TypedParam.shape]
    | none, none, _ =>
      match later, later', laters with
      | some t, some t', laters => simp_all [TypedParam.shape]
      | none, none, _ => simp_all [TypedParam.shape, Expr.isVariadic, dots?]

omit [End r] h in
theorem length_groupParams_alike {ps ps' : List TypedParam} (same : ps.map TypedParam.shape = ps'.map TypedParam.shape)
    (names names' : List Ident) : (groupParams names ps).length = (groupParams names' ps').length := by
  induction ps generalizing ps' names names' with
  | nil =>
    obtain rfl : ps' = [] := by simpa using same.symm
    rfl
  | cons p ps ih =>
    obtain ⟨p', ps', rfl, first, others⟩ := List.map_eq_cons_iff.1 same.symm
    unfold groupParams
    rw [(Prod.mk.inj first).1]
    split
    · exact ih others.symm _ _
    · simp [ih others.symm [] []]

omit [End r] h in
theorem misplacedDots?_alike {ts ts' : List Expr} (same : ts.map Expr.isVariadic = ts'.map Expr.isVariadic) (dotsOk : Bool) :
    (misplacedDots? dotsOk ts).isSome = (misplacedDots? dotsOk ts').isSome := by
  induction ts generalizing ts' with
  | nil =>
    obtain rfl : ts' = [] := by simpa using same.symm
    rfl
  | cons t ts ih =>
    obtain ⟨t', ts', rfl, first, others⟩ := List.map_eq_cons_iff.1 same.symm
    have dots : (dots? t).isSome = (dots? t').isSome := first.symm
    match ts, ts', others with
    | [], [], _ =>
      unfold misplacedDots?
      split
      · rfl
      · exact dots
    | _ :: _, _ :: _, others => simp only [misplacedDots?, Option.isSome_or, dots, ih others.symm]

omit [End r] h in
theorem length_filter_alike {ps ps' : List Param} (same : ps.map Param.shape = ps'.map Param.shape)
    (f : Bool × Option Bool → Bool) :
    (ps.filter fun p => f p.shape).length = (ps'.filter fun p => f p.shape).length := by
  have counted (ps : List Param) : (ps.filter fun p => f p.shape).length = ((ps.map Param.shape).filter f).length := by
    rw [List.filter_map, List.length_map]
    rfl
  rw [counted, counted, same]

theorem mirrors_paramList {name name' : Option Ident} {type type' : Option Expr} (named : name.isSome = name'.isSome)
    (typed : type.map Expr.isVariadic = type'.map Expr.isVariadic) (closing : Token) (dotsOk : Bool) :
    Mirrors E 1 0 k List.length (r.paramList name type closing dotsOk) (r'.paramList name' type' closing dotsOk) := by
  unfold paramList
  extract_lets typeParams checkDots rest rest'
  have mirrors_checkDots {ts ts' : List Expr} (same : ts.map Expr.isVariadic = ts'.map Expr.isVariadic) :
      Mirrors E 1 0 k (fun _ => ()) (checkDots ts) (checkDots ts') := by
    have dots := misplacedDots?_alike same dotsOk
    unfold checkDots
    match misplacedDots? dotsOk ts, misplacedDots? dotsOk ts', dots with
    | none, none, _ => exact mirrors_pure rfl
    | some o, some o', _ => exact (faulty_fault _ _).mirrors
  clear_value checkDots typeParams
  have mirrors_rest (o o' : Nat) : Mirrors E 1 0 k List.length (rest o) (rest' o') := by
    refine (mirrors_params h _ closing named typed (Nat.le_refl k) h.fuel h.fuel').bind fun ps ps' same => ?_
    rw [isEmpty_of_map_eq same]
    split
    · exact mirrors_pure rfl
    have namings := length_filter_alike same fun s => s.1 && s.2.isSome
    have typings := length_filter_alike same fun s => s.2.isSome
    have lengths : ps.length = ps'.length := by simpa using congrArg List.length same
    simp only [Param.shape, Option.isSome_map] at namings typings
    rw [namings, typings, lengths]
    extract_lets named typed lacking types unnamed types' unnamed'
    refine mirrors_offset.bind fun stop stop' _ => ?_
    split
    · -- without names, the entries are types
      have shapes (ps : List Param) : (ps.map fun p => p.type.getD (.ident (p.name.getD ⟨0, text "_"⟩))).map Expr.isVariadic =
          (ps.map Param.shape).map fun s => s.2.getD false := by
        rw [List.map_map, List.map_map]
        refine List.map_congr_left fun p _ => ?_
        simp only [Function.comp_apply, Param.shape]
        cases p.type <;> simp [Expr.isVariadic, dots?]
      have types_alike : types.map Expr.isVariadic = types'.map Expr.isVariadic := by rw [shapes, shapes, same]
      have mirrors_unnamed (u : Unit) : Mirrors E 1 0 k List.length (unnamed u) (unnamed' u) :=
        (mirrors_checkDots types_alike).bind fun _ _ _ => mirrors_pure (by simp [types, types', lengths])
      split
      · split <;> exact mirrors_fault (mirrors_unnamed ()).steady
      · exact mirrors_unnamed ()
    · obtain ⟨typeds, -, bads⟩ := distribute_alike same stop stop'
      generalize distribute stop ps = d, distribute stop' ps' = d' at typeds bads
      obtain ⟨tps, later, bad⟩ := d
      obtain ⟨tps', later', bad'⟩ := d'
      have types_alike : (tps.map (·.type)).map Expr.isVariadic = (tps'.map (·.type)).map Expr.isVariadic := by
        have shapes := congrArg (List.map Prod.snd) typeds
        simpa [TypedParam.shape, Function.comp_def] using shapes
      dsimp -zeta only
      extract_lets grouped grouped'
      have mirrors_grouped (u : Unit) : Mirrors E 1 0 k List.length (grouped u) (grouped' u) :=
        (mirrors_checkDots types_alike).bind fun _ _ _ => mirrors_pure (length_groupParams_alike typeds [] [])
      have steady := (mirrors_grouped ()).steady
      split
      · match bad, bad', bads with
        | none, none, _ => exact mirrors_grouped ()
        | some _, some _, _ =>
          dsimp only
          split <;> exact mirrors_fault steady
      · exact mirrors_grouped ()
  clear_value rest rest'
  match name, type, name', type', named, typed with
  | some _, _, some _, _, _, _ => exact mirrors_rest _ _
  | none, some _, none, some _, _, _ => exact mirrors_rest _ _
  | none, none, none, none, _, _ => exact mirrors_offset.bind fun _ _ _ => mirrors_rest _ _

theorem mirrors_typeParameters : Mirrors E 0 0 k Option.isSome r.typeParameters r'.typeParameters := by
  unfold typeParameters
  refine (mirrors_isAt (by decide)).same fun given => ?_
  split
  · refine mirrors_offset.bind fun _ _ _ => mirrors_next.bind fun _ _ _ => ?_
    refine (mirrors_isAt (by decide)).same fun empty => ?_
    extract_lets rest rest'
    have eats_rest (fields : List Field) : Eats (rest fields) := .first (eats_expect (by decide)) fun _ I => by mvcgen
    have mirrors_rest {fields fields' : List Field} (same : fields.length = fields'.length) :
        Mirrors E 0 0 k Option.isSome (rest fields) (rest' fields') := by
      refine (mirrors_expect (by decide)).bind fun _ _ _ => ?_
      have empty : fields.isEmpty = fields'.isEmpty := by rw [Bool.eq_iff_iff]; simp [← List.length_eq_zero_iff, same]
      rw [empty]
      split
      · exact mirrors_fault (steady_pure _)
      · exact mirrors_pure rfl
    split
    · exact mirrors_rest rfl
    · exact Mirrors.before (mirrors_paramList h rfl rfl .rbrack false) eats_rest fun fields fields' same => mirrors_rest same
  · exact mirrors_pure rfl

theorem mirrors_parameters (dotsOk : Bool) : Mirrors E 0 1 k (fun _ => ()) (r.parameters dotsOk) (r'.parameters dotsOk) := by
  unfold parameters
  refine (mirrors_expect (by decide)).first fun _ _ _ => ?_
  have closes (o : Nat) (fields : List Field) : Eats (expect .rparen >>= fun c => pure (FieldList.mk (some o) fields (some c))) :=
    .first (eats_expect (by decide)) fun _ => steady_pure _
  have mirrors_closes (o o' : Nat) (fields fields' : List Field) : Mirrors E 0 0 k (fun _ => ())
      (expect .rparen >>= fun c => pure (FieldList.mk (some o) fields (some c)))
      (expect .rparen >>= fun c => pure (FieldList.mk (some o') fields' (some c))) :=
    (mirrors_expect (by decide)).bind fun _ _ _ => mirrors_pure rfl
  refine Mirrors.before (mirrors_isAt_inner .rparen) (fun empty => ?_) ?_
  · dsimp only
    split
    · exact closes _ _
    · exact .second (fun _ => keeps_paramList _ _ _ _) (closes _)
  · rintro empty _ (rfl : empty = _)
    dsimp only
    split
    · exact mirrors_closes _ _ _ _
    · exact Mirrors.before (mirrors_paramList h rfl rfl .rparen dotsOk) (closes _) fun _ _ _ => mirrors_closes _ _ _ _

theorem mirrors_result : Mirrors E 0 0 k (fun _ => ()) r.result r'.result := by
  unfold result
  refine (mirrors_isAt (by decide)).same fun several => ?_
  split
  · exact ((mirrors_parameters h false).weaken (Nat.zero_le 1)).bind fun _ _ _ => mirrors_pure rfl
  · exact h.type?.options (fun _ _ _ => mirrors_pure rfl) (mirrors_pure rfl)

theorem mirrors_funcType : Mirrors E 0 0 k Expr.shape r.funcType r'.funcType := by
  unfold funcType
  refine (mirrors_expect (by decide)).bind fun _ _ _ => ?_
  refine (mirrors_typeParameters h).bind fun l l' same => ?_
  extract_lets rest rest'
  have mirrors_rest (u : Unit) : Mirrors E 0 0 k Expr.shape (rest u) (rest' u) :=
    ((mirrors_parameters h true).weaken (Nat.zero_le 1)).bind fun _ _ _ => (mirrors_result h).bind fun _ _ _ => mirrors_pure rfl
  match l, l', same with
  | none, none, _ => exact mirrors_rest ()
  | some _, some _, _ => exact mirrors_fault (mirrors_rest ()).steady

/-- What is asked of a method or an embedded type. -/
def Field.shape (f : Field) : Bool × Shape := (f.names.isEmpty, f.type.shape)

theorem mirrors_methodSpec : Mirrors E 1 1 k Field.shape r.methodSpec r'.methodSpec := by
  unfold methodSpec
  refine mirrors_current.bind fun i j _ => ?_
  extract_lets doc method embedded doc' method' embedded'
  have mirrors_method (id id' : Ident) : Mirrors E 1 0 k Field.shape (method id) (method' id') :=
    ((mirrors_parameters h true).weaken (Nat.zero_le 1)).inner.bind fun _ _ _ =>
      (mirrors_result h).inner.bind fun _ _ _ => mirrors_pure rfl
  have mirrors_embedded {t t' : Expr} (same : t.shape = t'.shape) : Mirrors E 1 0 k Field.shape (embedded t) (embedded' t') :=
    mirrors_pure (Prod.ext rfl same)
  clear_value method method' embedded embedded'
  refine ((mirrors_typeName rfl).eats ends_typeName.eats).first fun t t' same => ?_
  rcases Expr.ident_cases same with ⟨id, id', rfl, rfl⟩ | ⟨other, other'⟩
  · refine mirrors_token.same fun token => ?_
    split
    · refine mirrors_offset.bind fun _ _ _ => mirrors_next.bind fun _ _ _ => ?_
      refine (mirrors_expr h).nested.inner.bind fun x x' same => ?_
      extract_lets generic indexed generic' indexed'
      refine (mirrors_isAtAny _).same fun ends => ?_
      have named : generic.isSome = generic'.isSome := by
        rcases Expr.ident_cases same with ⟨name, name', rfl, rfl⟩ | ⟨other, other'⟩
        · rfl
        · unfold generic generic'
          split
          · exact absurd rfl (other _)
          · rfl
      have mirrors_indexed (xs xs' : List Expr) : Mirrors E 1 0 k Field.shape (indexed xs) (indexed' xs') :=
        (mirrors_expectClosing rfl _).bind fun _ _ _ => mirrors_pure rfl
      clear_value generic generic' indexed indexed'
      split
      · refine Faulty.mirrors (.after (fun _ => keeps_paramList _ _ _ _) fun _ => ?_)
        exact .after (fun _ => keeps_expect _) fun _ => (faulty_fault _ _).first fun _ => (mirrors_method id id').steady
      · next notGeneric =>
        split
        · obtain ⟨name, rfl⟩ := Option.isSome_iff_exists.1 named
          exact absurd rfl (notGeneric name rfl)
        · refine (mirrors_atComma _ _).same fun goesOn => ?_
          split
          · exact (mirrors_next.bind fun _ _ _ => mirrors_typeArguments h).nested.bind fun _ _ _ => mirrors_indexed _ _
          · exact mirrors_indexed _ _
    · exact mirrors_method id id'
    · exact mirrors_pure rfl
  · split
    · exact absurd rfl (other _)
    · refine (mirrors_isAt (by decide)).same fun generic => ?_
      split
      · exact (mirrors_typeInstance h t t').inner.bind fun _ _ same => mirrors_embedded same
      · exact mirrors_embedded same

omit h in
theorem ends_embeddedTerm : Ends r.embeddedTerm := by
  unfold embeddedTerm
  refine .after (fun _ => keeps_offset) fun start => .after (fun _ => keeps_isAt _) fun tilde => ?_
  split
  · exact .after (fun _ => keeps_next) fun _ => ends_type.bind fun _ => mayEnd_pure _
  · exact End.type?.bind (fun _ => mayEnd_pure _) (ends_faultExpected fun I => by mvcgen)

theorem mirrors_interfaceElems {j n n' : Nat} (le : j ≤ k) (enough : j ≤ n) (enough' : j ≤ n') :
    Mirrors E 1 0 j (fun _ => ()) (r.interfaceElems n) (r'.interfaceElems n') := by
  induction j generalizing n n' with
  | zero => exact mirrors_zero fun I => keeps_interfaceElems n
  | succ j ih =>
    obtain ⟨n, rfl⟩ := Nat.exists_eq_succ_of_ne_zero (Nat.ne_zero_of_lt enough)
    obtain ⟨n', rfl⟩ := Nat.exists_eq_succ_of_ne_zero (Nat.ne_zero_of_lt enough')
    unfold interfaceElems
    extract_lets embedded
    have rest := ih (by omega) (Nat.le_of_succ_le_succ enough) (Nat.le_of_succ_le_succ enough')
    have mirrors_embedded (i : Nat) (t t' : Expr) : Mirrors E 1 0 i (fun _ => ()) (embedded t) (embedded t') :=
      mirrors_expectSemi.bind fun _ _ _ => mirrors_pure rfl
    clear_value embedded
    have mirrors_more (t t' : Expr) : Mirrors E 1 0 j (fun _ => ())
        (do let f ← embedded t; return f :: (← r.interfaceElems n))
          (do let f ← embedded t'; return f :: (← r'.interfaceElems n')) :=
      (mirrors_embedded j t t').bind fun _ _ _ => rest.bind fun _ _ _ => mirrors_pure rfl
    refine mirrors_token.same fun t => ?_
    split
    · refine (((mirrors_methodSpec h).mono le).less fun f f' same => ?_).weaken (Nat.zero_le 1)
      obtain ⟨unnamed, typed⟩ := Prod.mk.inj same
      extract_lets finish finish'
      have mirrors_finish (t t' : Expr) : Mirrors E 1 0 j (fun _ => ()) (finish t) (finish' t') :=
        mirrors_expectSemi.bind fun _ _ _ => rest.bind fun _ _ _ => mirrors_pure rfl
      rw [unnamed]
      split
      · exact (((mirrors_embeddedElem h (by simpa using Expr.isVariadic_congr typed)).inner).mono (by omega)).bind
          fun _ _ _ => mirrors_finish _ _
      · exact mirrors_finish _ _
    · have eats : Eats (r.embeddedElem none) := .first ends_embeddedTerm.eats fun _ _ => keeps_unionRest _ _
      exact (((((mirrors_embeddedElem h rfl).eats eats).inner).mono le).less fun t t' _ => mirrors_more t t').weaken
        (Nat.zero_le 1)
    · refine ((h.type?.inner).mono le).found End.type? (fun t t' same => ?_) (mirrors_pure rfl)
      exact (((mirrors_embeddedElem h (by simpa using Expr.isVariadic_congr same)).inner).mono (by omega)).bind
        fun t t' _ => mirrors_more t t'

theorem mirrors_interfaceType : Mirrors E 0 0 k Expr.shape r.interfaceType r'.interfaceType := by
  unfold interfaceType
  refine (mirrors_expect (by decide)).bind fun _ _ _ => ?_
  refine (mirrors_expect (by decide)).bind fun _ _ _ => ?_
  refine Mirrors.before (mirrors_interfaceElems h (Nat.le_refl k) h.fuel h.fuel')
    (fun _ => .first (eats_expect (by decide)) fun _ I => by mvcgen) fun _ _ _ => ?_
  exact (mirrors_expect (by decide)).bind fun _ _ _ => mirrors_pure rfl

omit [End r] in
theorem mirrors_mapType : Mirrors E 0 0 k Expr.shape r.mapType r'.mapType := by
  unfold mapType
  refine (mirrors_expect (by decide)).bind fun _ _ _ => ?_
  refine (mirrors_expect (by decide)).bind fun _ _ _ => ?_
  refine (mirrors_type h).bind fun _ _ _ => ?_
  exact (mirrors_expect (by decide)).bind fun _ _ _ => mirrors_ofType h fun _ _ _ => rfl

omit [End r] in
theorem mirrors_chanType : Mirrors E 0 0 k Expr.shape r.chanType r'.chanType := by
  have typed (o o' : Nat) (a a' : Option Nat) (dir : ChanDir) : Mirrors E 0 0 k Expr.shape
      (do return .chanType o a dir (← r.type)) (do return .chanType o' a' dir (← r'.type)) :=
    mirrors_ofType h fun _ _ same => by simp only [Expr.shape, same]
  unfold chanType
  refine mirrors_offset.bind fun _ _ _ => ?_
  refine (mirrors_isAt (by decide)).same fun chan => ?_
  split
  · refine mirrors_next.bind fun _ _ _ => (mirrors_isAt (by decide)).same fun sends => ?_
    split
    · exact mirrors_offset.bind fun _ _ _ => mirrors_next.bind fun _ _ _ => typed _ _ _ _ _
    · exact typed _ _ _ _ _
  · exact (mirrors_expect (by decide)).bind fun _ _ _ => (mirrors_expect (by decide)).bind fun _ _ _ => typed _ _ _ _ _

theorem mirrors_typeRule : Mirrors E 0 0 k (Option.map Expr.shape) r.typeRule r'.typeRule := by
  have found {p q : Parse Expr} (hp : Mirrors E 0 0 k Expr.shape p q) :
      Mirrors E 0 0 k (Option.map Expr.shape) (do return some (← p)) (do return some (← q)) :=
    hp.bind fun _ _ same => mirrors_pure (congrArg some same)
  unfold typeRule
  refine Mirrors.token (fun t => ?_) fun t ht => ?_
  · split
    · refine (mirrors_typeName rfl).bind fun t t' same => ?_
      refine (mirrors_isAt (by decide)).same fun generic => ?_
      dsimp only
      split
      · exact found (mirrors_typeInstance h t t')
      · exact mirrors_pure (congrArg some same)
    · exact (mirrors_expect (by decide)).bind fun _ _ _ => found (mirrors_arrayType h _ _ rfl)
    · exact found (mirrors_structType h)
    · exact found (mirrors_pointerType h)
    · exact found (mirrors_funcType h)
    · exact found (mirrors_interfaceType h)
    · exact found (mirrors_mapType h)
    · exact found (mirrors_chanType h)
    · exact found (mirrors_chanType h)
    · refine mirrors_offset.bind fun _ _ _ => mirrors_next.bind fun _ _ _ => ?_
      refine (mirrors_type h).bind fun t t' same => ?_
      exact (mirrors_expect (by decide)).bind fun _ _ _ => mirrors_pure (by simp [Expr.shape, same])
    · exact mirrors_pure rfl
  · simp only [followers, List.mem_cons, List.not_mem_nil, or_false] at ht
    rcases ht with rfl | rfl | rfl <;> exact mirrors_pure rfl

end

end Rules

end DocAccessors.Source.Grammar
