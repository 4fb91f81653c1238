import Mathlib
import DocAccessors.Source.Parse

/-!
# What reading by the grammar keeps

All rules of the grammar are made of a few steps: going on to the next item, reporting a fault, and setting a switch.
What these steps keep, every rule keeps, however deep constructs are nested.

* `Invariant`: a property of states that the steps keep;
* `Keeps I p`: where the invariant `I` holds before the rule `p`, it holds after it;
* `Rules.keeps_ofDepth`: the rules of every depth keep every invariant.
-/

set_option mvcgen.warning false

namespace DocAccessors.Source.Grammar

open Std.Do

/-- A property of states that the steps of reading keep. -/
structure Invariant where
  Holds : State → Prop
  next : ⦃fun s => ⌜Holds s⌝⦄ next ⦃⇓? _ s => ⌜Holds s⌝⦄
  fault : ∀ o m, ⦃fun s => ⌜Holds s⌝⦄ fault o m ⦃⇓? _ s => ⌜Holds s⌝⦄
  level : ∀ s l, Holds s → Holds { s with level := l }
  inRhs : ∀ s b, Holds s → Holds { s with inRhs := b }
  sync : ∀ s o n, Holds s → Holds { s with syncOffset := o, syncCount := n }

/-- Where the invariant holds before a rule, it holds after it, unless reading stops. -/
abbrev Keeps (I : Invariant) (p : Parse α) : Prop := ⦃fun s => ⌜I.Holds s⌝⦄ p ⦃⇓? _ s => ⌜I.Holds s⌝⦄

variable {I : Invariant}

theorem Keeps.bind {p : Parse α} {f : α → Parse β} (hp : Keeps I p) (hf : ∀ a, Keeps I (f a)) :
    Keeps I (p >>= f) := by
  mvcgen [hp, hf]

/-! ## Steps -/

@[spec]
theorem keeps_next : Keeps I next := I.next

@[spec]
theorem keeps_fault (o : Nat) (m : Text) : Keeps I (fault o m) := I.fault o m

@[spec]
theorem keeps_current : Keeps I current := by mvcgen [current]

@[spec]
theorem keeps_token : Keeps I token := by mvcgen [token]

@[spec]
theorem keeps_offset : Keeps I offset := by mvcgen [offset]

@[spec]
theorem keeps_isAt (t : Token) : Keeps I (isAt t) := by mvcgen [isAt]

@[spec]
theorem keeps_isAtAny (ts : List Token) : Keeps I (isAtAny ts) := by mvcgen [isAtAny]

@[spec]
theorem keeps_faultExpected (o : Nat) (m : Text) : Keeps I (faultExpected o m) := by mvcgen [faultExpected]

@[spec]
theorem keeps_expect (t : Token) : Keeps I (expect t) := by mvcgen [expect]

@[spec]
theorem keeps_expect? (t : Token) : Keeps I (expect? t) := by mvcgen [expect?]

@[spec]
theorem keeps_expectClosing (t : Token) (inside : Text) : Keeps I (expectClosing t inside) := by
  mvcgen [expectClosing]

@[spec]
theorem keeps_atComma (inside : Text) (t : Token) : Keeps I (atComma inside t) := by mvcgen [atComma]

@[spec]
theorem keeps_advanceTo (ts : List Token) (fuel : Nat) : Keeps I (advanceTo ts fuel) := by
  induction fuel with
  | zero => mvcgen [advanceTo]
  | succ fuel ih => mvcgen [advanceTo, ih] <;> exact I.sync _ _ _ ‹_›

@[spec]
theorem keeps_advance (ts : List Token) : Keeps I (advance ts) := by mvcgen [advance]

@[spec]
theorem keeps_expectSemi : Keeps I expectSemi := by mvcgen [expectSemi]

@[spec]
theorem keeps_ident : Keeps I ident := by mvcgen [ident]

/-! ## Switches and lists -/

section

variable {p : Parse α} (hp : Keeps I p)
include hp

theorem keeps_withLevel (f : Int → Int) : Keeps I (withLevel f p) := by
  mvcgen [withLevel, hp] <;> exact I.level _ _ ‹_›

theorem keeps_withRhs (rhs : Bool) : Keeps I (withRhs rhs p) := by
  mvcgen [withRhs, hp] <;> exact I.inRhs _ _ ‹_›

theorem keeps_nested : Keeps I (nested p) := keeps_withLevel hp _

theorem keeps_manyWhile {cond : Parse Bool} (hc : Keeps I cond) (fuel : Nat) : Keeps I (manyWhile cond p fuel) := by
  induction fuel with
  | zero => mvcgen [manyWhile]
  | succ fuel ih => mvcgen [manyWhile, hc, hp, ih]

theorem keeps_listUntil (inside : Text) (closing : Token) (fuel : Nat) :
    Keeps I (listUntil inside closing p fuel) := by
  induction fuel with
  | zero => mvcgen [listUntil]
  | succ fuel ih => mvcgen [listUntil, hp, ih]

end

theorem keeps_names (fuel : Nat) : Keeps I (manyWhile (isAt .comma) (do next; ident) fuel) :=
  keeps_manyWhile (Keeps.bind keeps_next fun _ => keeps_ident) (keeps_isAt .comma) fuel

/-- The rules for the parts of a construct keep the invariant. -/
class Rules.Keep (I : Invariant) (r : Rules) : Prop where
  binary : ∀ prec, Keeps I (r.binary prec)
  unary : Keeps I r.unary
  type? : Keeps I r.type?
  stmt : Keeps I r.stmt
  ifStmt : Keeps I r.ifStmt
  literalValue : ∀ type, Keeps I (r.literalValue type)

attribute [spec] Rules.Keep.binary Rules.Keep.unary Rules.Keep.type? Rules.Keep.stmt Rules.Keep.ifStmt
  Rules.Keep.literalValue

namespace Rules

variable {r : Rules} [Keep I r]

@[spec]
theorem keeps_expr : Keeps I r.expr := Keep.binary 1

@[spec]
theorem keeps_rhs : Keeps I r.rhs := keeps_withRhs keeps_expr true

@[spec]
theorem keeps_exprList : Keeps I r.exprList := by
  have more := keeps_manyWhile (Keeps.bind keeps_next fun _ => keeps_expr (r := r)) (keeps_isAt (I := I) .comma) r.fuel
  mvcgen [exprList, more]

@[spec]
theorem keeps_list (rhs : Bool) : Keeps I (r.list rhs) := keeps_withRhs keeps_exprList rhs

/-! ## Types -/

@[spec]
theorem keeps_type : Keeps I r.type := by mvcgen [type]

@[spec]
theorem keeps_typeName (name : Option Ident) : Keeps I (typeName name) := by mvcgen [typeName]

theorem keeps_typeArguments :
    Keeps I (listUntil (text "type argument list") .rbrack r.type r.fuel) := keeps_listUntil keeps_type _ _ _

@[spec]
theorem keeps_typeInstance (t : Expr) : Keeps I (r.typeInstance t) := by
  have args := keeps_nested (keeps_typeArguments (I := I) (r := r))
  mvcgen [typeInstance, args]

@[spec]
theorem keeps_qualifiedName (name : Option Ident) : Keeps I (r.qualifiedName name) := by
  mvcgen [qualifiedName]
  exact fun _ _ => inferInstance

@[spec]
theorem keeps_arrayType (lbrack : Nat) (length : Option Expr) : Keeps I (r.arrayType lbrack length) := by
  mvcgen [arrayType, nested, withLevel] <;> exact I.level _ _ ‹_›

@[spec]
theorem keeps_arrayOrInstance (name : Ident) : Keeps I (r.arrayOrInstance name) := by
  have more (fuel : Nat) : Keeps I (arrayOrInstance.more r fuel) := by
    induction fuel with
    | zero => mvcgen [arrayOrInstance.more]
    | succ fuel ih => mvcgen [arrayOrInstance.more, ih]
  mvcgen [arrayOrInstance, nested, withLevel, more] <;> exact I.level _ _ ‹_›

@[spec]
theorem keeps_fieldDecl : Keeps I r.fieldDecl := by
  have more := keeps_names (I := I) r.fuel
  mvcgen [fieldDecl, more, parenthesized] <;> exact fun _ _ => inferInstance

@[spec]
theorem keeps_structType : Keeps I r.structType := by
  have fields := keeps_manyWhile (keeps_fieldDecl (r := r)) (keeps_isAtAny (I := I) [.ident, .mul, .lparen]) r.fuel
  mvcgen [structType, fields]

@[spec]
theorem keeps_pointerType : Keeps I r.pointerType := by mvcgen [pointerType]

@[spec]
theorem keeps_dotsType : Keeps I r.dotsType := by mvcgen [dotsType]

@[spec]
theorem keeps_embeddedTerm : Keeps I r.embeddedTerm := by mvcgen [embeddedTerm]

@[spec]
theorem keeps_unionRest (x : Expr) (fuel : Nat) : Keeps I (r.unionRest x fuel) := by
  induction fuel generalizing x with
  | zero => mvcgen [unionRest]
  | succ fuel ih => mvcgen [unionRest, ih]

@[spec]
theorem keeps_embeddedElem (x : Option Expr) : Keeps I (r.embeddedElem x) := by
  mvcgen [embeddedElem]
  exact fun _ _ => inferInstance

@[spec]
theorem keeps_paramDecl (name : Option Ident) (unions : Bool) : Keeps I (r.paramDecl name unions) := by
  cases name <;> mvcgen [paramDecl]

@[spec]
theorem keeps_params (unions : Bool) (closing : Token) (name : Option Ident) (type : Option Expr) (fuel : Nat) :
    Keeps I (r.params unions closing name type fuel) := by
  induction fuel generalizing name type with
  | zero => mvcgen [params]
  | succ fuel ih => cases type <;> mvcgen [params, ih]

@[spec]
theorem keeps_paramList (name : Option Ident) (type : Option Expr) (closing : Token) (dotsOk : Bool) :
    Keeps I (r.paramList name type closing dotsOk) := by
  unfold paramList
  dsimp only
  mvcgen

@[spec]
theorem keeps_typeParameters : Keeps I r.typeParameters := by mvcgen [typeParameters]

@[spec]
theorem keeps_parameters (dotsOk : Bool) : Keeps I (r.parameters dotsOk) := by mvcgen [parameters]

@[spec]
theorem keeps_result : Keeps I r.result := by mvcgen [result]

@[spec]
theorem keeps_funcType : Keeps I r.funcType := by mvcgen [funcType]

@[spec]
theorem keeps_methodSpec : Keeps I r.methodSpec := by
  have args := keeps_typeArguments (I := I) (r := r)
  mvcgen [methodSpec, nested, withLevel, args] <;> exact I.level _ _ ‹_›

@[spec]
theorem keeps_interfaceElems (fuel : Nat) : Keeps I (r.interfaceElems fuel) := by
  induction fuel with
  | zero => mvcgen [interfaceElems]
  | succ fuel ih => mvcgen [interfaceElems, ih]

@[spec]
theorem keeps_interfaceType : Keeps I r.interfaceType := by mvcgen [interfaceType]

@[spec]
theorem keeps_mapType : Keeps I r.mapType := by mvcgen [mapType]

@[spec]
theorem keeps_chanType : Keeps I r.chanType := by mvcgen [chanType]

@[spec]
theorem keeps_typeRule : Keeps I r.typeRule := by mvcgen [typeRule]

/-! ## Expressions -/

theorem keeps_stmtList : Keeps I r.stmtList := by
  unfold stmtList
  exact keeps_manyWhile Keep.stmt (by mvcgen) r.fuel

attribute [spec] keeps_stmtList

@[spec]
theorem keeps_block : Keeps I r.block := by mvcgen [block]

@[spec]
theorem keeps_funcTypeOrLit : Keeps I r.funcTypeOrLit := by
  have body := keeps_nested (keeps_block (I := I) (r := r))
  mvcgen [funcTypeOrLit, body]

@[spec]
theorem keeps_operand : Keeps I r.operand := by
  have inner := keeps_nested (keeps_rhs (I := I) (r := r))
  mvcgen [operand, inner]
  exact fun _ _ => inferInstance

@[spec]
theorem keeps_typeAssertion (x : Expr) : Keeps I (r.typeAssertion x) := by mvcgen [typeAssertion]

@[spec]
theorem keeps_sliceBounds (fuel : Nat) : Keeps I (r.sliceBounds fuel) := by
  induction fuel with
  | zero => mvcgen [sliceBounds]
  | succ fuel ih => mvcgen [sliceBounds, ih]

@[spec]
theorem keeps_indexOrSlice (x : Expr) : Keeps I (r.indexOrSlice x) := by
  have more := keeps_manyWhile (I := I) (p := do
    next
    if ← isAtAny [.rbrack, .eof] then return none else return some (← r.type)) (by mvcgen) (keeps_isAt .comma) r.fuel
  unfold indexOrSlice
  refine Keeps.bind (keeps_expect .lbrack) fun lbrack => ?_
  refine Keeps.bind (keeps_isAt .rbrack) fun empty => ?_
  split
  · mvcgen
  · refine Keeps.bind (keeps_nested (by mvcgen [more])) fun ⟨first, bounds, args⟩ => ?_
    refine Keeps.bind (keeps_expect .rbrack) fun rbrack => ?_
    dsimp only
    split <;> mvcgen

@[spec]
theorem keeps_callArgs (fuel : Nat) : Keeps I (r.callArgs fuel) := by
  induction fuel with
  | zero => mvcgen [callArgs]
  | succ fuel ih => mvcgen [callArgs, ih]

@[spec]
theorem keeps_callOrConversion (f : Expr) : Keeps I (r.callOrConversion f) := by
  have args := keeps_nested (keeps_callArgs (I := I) (r := r) r.fuel)
  mvcgen [callOrConversion, args]

@[spec]
theorem keeps_value : Keeps I r.value := by
  mvcgen [value] <;> exact fun _ _ => inferInstance

@[spec]
theorem keeps_element : Keeps I r.element := by mvcgen [element]

@[spec]
theorem keeps_literalValueRule (type : Option Expr) : Keeps I (r.literalValueRule type) := by
  have elements := keeps_nested (keeps_listUntil (keeps_element (I := I) (r := r)) (text "composite literal") .rbrace
    r.fuel)
  mvcgen [literalValueRule, elements]

@[spec]
theorem keeps_primaryRest (x : Expr) (fuel : Nat) : Keeps I (r.primaryRest x fuel) := by
  induction fuel generalizing x with
  | zero => mvcgen [primaryRest]
  | succ fuel ih => mvcgen [primaryRest, ih]

@[spec]
theorem keeps_primary (x : Option Expr) : Keeps I (r.primary x) := by
  mvcgen [primary]
  exact fun _ _ => inferInstance

@[spec]
theorem keeps_pushArrow (arrow : Nat) (x : Expr) : Keeps I (pushArrow arrow x) := by
  induction arrow, x using pushArrow.induct with
  | case1 arrow o a dir value _ ih | case2 arrow o a dir value _ ih =>
    unfold pushArrow
    cases value <;> mvcgen [ih]
  | case3 x arrow other =>
    unfold pushArrow
    split
    · exact absurd rfl (other _ _ _ _)
    · mvcgen

@[spec]
theorem keeps_unaryRule : Keeps I r.unaryRule := by
  mvcgen [unaryRule]
  exact fun _ _ => inferInstance

@[spec]
theorem keeps_operator : Keeps I operator := by mvcgen [operator]

@[spec]
theorem keeps_binaryRest (prec : Nat) (x : Expr) (fuel : Nat) : Keeps I (r.binaryRest prec x fuel) := by
  induction fuel generalizing x with
  | zero => mvcgen [binaryRest]
  | succ fuel ih => mvcgen [binaryRest, ih]

@[spec]
theorem keeps_binaryRule (prec : Nat) : Keeps I (r.binaryRule prec) := by
  mvcgen [binaryRule]
  exact fun _ _ => inferInstance

/-! ## Declarations -/

@[spec]
theorem keeps_importSpec (doc : Option CommentGroup) : Keeps I (importSpec doc) := by mvcgen [importSpec]

@[spec]
theorem keeps_valueSpec (keyword : Token) (doc : Option CommentGroup) : Keeps I (r.valueSpec keyword doc) := by
  have more := keeps_names (I := I) r.fuel
  mvcgen [valueSpec, more] <;> exact fun _ _ => inferInstance

@[spec]
theorem keeps_typeSpec (doc : Option CommentGroup) : Keeps I (r.typeSpec doc) := by
  have length (x : Expr) := keeps_nested (Keeps.bind (keeps_primary (I := I) (r := r) (some x)) fun x =>
    keeps_binaryRest (r := r) 1 x r.fuel)
  mvcgen [typeSpec, length]

@[spec]
theorem keeps_genDecl (keyword : Token) : Keeps I (r.genDecl keyword) := by
  unfold genDecl
  extract_lets spec
  have keeps_spec (doc : Option CommentGroup) : Keeps I (spec doc) := by
    unfold spec
    split
    · exact keeps_importSpec doc
    · exact keeps_typeSpec doc
    · exact keeps_valueSpec keyword doc
  refine Keeps.bind keeps_current fun i => ?_
  refine Keeps.bind (keeps_expect keyword) fun o => ?_
  refine Keeps.bind (keeps_isAt .lparen) fun several => ?_
  split
  · refine Keeps.bind keeps_offset fun lparen => ?_
    refine Keeps.bind keeps_next fun _ => ?_
    refine Keeps.bind (keeps_manyWhile (Keeps.bind keeps_current fun _ => keeps_spec _) (by mvcgen) _) fun specs => ?_
    mvcgen
  · refine Keeps.bind (keeps_spec none) fun _ => ?_
    mvcgen

/-! ## Statements -/

@[spec]
theorem keeps_simpleStmt (mode : SimpleMode) : Keeps I (r.simpleStmt mode) := by
  unfold simpleStmt
  refine Keeps.bind (keeps_list false) fun xs => ?_
  refine Keeps.bind keeps_current fun i => ?_
  extract_lets x rest
  clear_value x
  have keeps_rest (u : Unit) : Keeps I (rest u) := by
    unfold rest
    split
    · refine Keeps.bind keeps_next fun _ => ?_
      split <;> mvcgen
    all_goals mvcgen
  split
  · mvcgen
  · split
    · exact Keeps.bind (keeps_faultExpected _ _) fun _ => keeps_rest ()
    · exact keeps_rest ()

@[spec]
theorem keeps_callExpr (what : Text) : Keeps I (r.callExpr what) := by mvcgen [callExpr]

@[spec]
theorem keeps_asExpr (s : Option Stmt) (want : Text) : Keeps I (asExpr s want) := by mvcgen [asExpr]

@[spec]
theorem keeps_ifHeader : Keeps I r.ifHeader := by
  mvcgen [ifHeader, withLevel] <;> exact I.level _ _ ‹_›

@[spec]
theorem keeps_ifRule : Keeps I r.ifRule := by mvcgen [ifRule]

@[spec]
theorem keeps_caseClause : Keeps I r.caseClause := by mvcgen [caseClause]

@[spec]
theorem keeps_isTypeSwitchGuard (s : Option Stmt) : Keeps I (isTypeSwitchGuard s) := by mvcgen [isTypeSwitchGuard]

@[spec]
theorem keeps_switchStmt : Keeps I r.switchStmt := by
  have clauses := keeps_manyWhile (keeps_caseClause (r := r)) (keeps_isAtAny (I := I) [.kCase, .kDefault]) r.fuel
  unfold switchStmt
  refine Keeps.bind (keeps_expect .kSwitch) fun o => ?_
  refine Keeps.bind (keeps_isAt .lbrace) fun _ => ?_
  extract_lets rest header
  have keeps_rest (parts : Option Stmt × Option Stmt) : Keeps I (rest parts) := by
    obtain ⟨init, tag⟩ := parts
    refine Keeps.bind (keeps_isTypeSwitchGuard tag) fun isTypeSwitch => ?_
    refine Keeps.bind (keeps_expect .lbrace) fun lbrace => ?_
    refine Keeps.bind clauses fun clauses => ?_
    refine Keeps.bind (keeps_expect .rbrace) fun rbrace => ?_
    refine Keeps.bind keeps_expectSemi fun _ => ?_
    split <;> mvcgen
  clear_value rest
  split
  · exact keeps_rest (none, none)
  · exact Keeps.bind (keeps_withLevel (by mvcgen [header]) _) fun _ => keeps_rest _

@[spec]
theorem keeps_commClause : Keeps I r.commClause := by mvcgen [commClause]

@[spec]
theorem keeps_selectStmt : Keeps I r.selectStmt := by
  have clauses := keeps_manyWhile (keeps_commClause (r := r)) (keeps_isAtAny (I := I) [.kCase, .kDefault]) r.fuel
  mvcgen [selectStmt, clauses]

@[spec]
theorem keeps_forHeader : Keeps I r.forHeader := by
  mvcgen [forHeader, withLevel] <;> exact I.level _ _ ‹_›

@[spec]
theorem keeps_forStmt : Keeps I r.forStmt := by mvcgen [forStmt]

@[spec]
theorem keeps_callStmt (keyword : Token) : Keeps I (r.callStmt keyword) := by mvcgen [callStmt]

@[spec]
theorem keeps_returnStmt : Keeps I r.returnStmt := by mvcgen [returnStmt]

@[spec]
theorem keeps_branchStmt (keyword : Token) : Keeps I (branchStmt keyword) := by mvcgen [branchStmt]

@[spec]
theorem keeps_stmtRule : Keeps I r.stmtRule := by
  mvcgen [stmtRule] <;> exact fun _ _ => inferInstance

/-! ## Closing the circle -/

omit [Keep I r] in
theorem keeps_giveUp : Keeps I (giveUp : Parse α) := by
  unfold giveUp
  refine Keeps.bind (by mvcgen) fun s => ?_
  exact fun _ _ => trivial

omit [Keep I r] in
/-- **What the steps keep, the rules of every depth keep.** -/
theorem keeps_ofDepth (fuel depth : Nat) : Keep I (ofDepth fuel depth) := by
  induction depth with
  | zero =>
    exact ⟨fun _ => keeps_giveUp, keeps_giveUp, keeps_giveUp, keeps_giveUp, keeps_giveUp, fun _ => keeps_giveUp⟩
  | succ depth ih =>
    exact ⟨keeps_binaryRule, keeps_unaryRule, keeps_typeRule, keeps_stmtRule, keeps_ifRule, keeps_literalValueRule⟩

end Rules

end DocAccessors.Source.Grammar
