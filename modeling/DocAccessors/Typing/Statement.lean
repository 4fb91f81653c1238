import DocAccessors.Typing.Control
import DocAccessors.Typing.Variable

/-!
# Statements

The statements of function bodies. They declare names and use values; nothing else about them is kept but whether
they are faulty.

* `Rules.stmt`: one statement, with the environment after it;
* `Rules.blockStmts`: the statements of a block;
* `Rules.bodyStmts`: a function body.
-/

namespace DocAccessors.Typing

open DocAccessors.Source (Expr Stmt Token)

/-! ## Environments of statements -/

namespace Env

/-- The environment of the parts of a statement, in a block of their own. Control cannot fall through from them. -/
def part (env : Env) : Env := { env with block := [], flow := { env.flow with fallsThrough := false } }

/-- The environment of a simple statement before a block: no jump leaves it. -/
def simple (env : Env) : Env := { env with flow := {} }

/-- The environment with the flow of control of another one. -/
def withFlow (env other : Env) : Env := { env with flow := other.flow }

/-- The environment of a statement that `break` leaves. -/
def breakable (env : Env) : Env := { env with flow := { env.flow with breaks := true } }

/-- The environment of the body of a loop. -/
def loop (env : Env) : Env := { env with flow := { env.flow with breaks := true, continues := true } }

/-- The environment of statements from which control can fall through to the next clause, or not. -/
def falling (env : Env) (falls : Bool) : Env := { env with flow := { env.flow with fallsThrough := falls } }

end Env

namespace Rules

variable (r : Rules)

/-! ## Simple statements -/

/-- An expression used for its effect. -/
def effect (env : Env) (e : Expr) : Check Unit := do
  let x ← r.raw env {} e
  Check.ensure (x.isInvalid || (x.effect == .statement && (x.isValue || x.mode matches .noValue)))

def condition (env : Env) (e : Expr) : Check Unit := do
  let x ← r.expr env e
  Check.ensure (x.isInvalid || x.type.isInvalid || (← Check.types).all BasicKind.isBoolean x.type)

def assignOperator? : Token → Option Token
  | .addAssign => some .add
  | .subAssign => some .sub
  | .mulAssign => some .mul
  | .quoAssign => some .quo
  | .remAssign => some .rem
  | .andAssign => some .and
  | .orAssign => some .or
  | .xorAssign => some .xor
  | .shlAssign => some .shl
  | .shrAssign => some .shr
  | .andNotAssign => some .andNot
  | _ => none

/-- An assignment or a short declaration. -/
def assignment (env : Env) (lhs : List Expr) (op : Token) (rhs : List Expr) : Check Env := do
  if op == .define then r.define env lhs rhs
  else
    match assignOperator? op, lhs, rhs with
    | some op, [x], [y] =>
      let a ← r.expr env x
      let b ← r.expr env y
      let z ← binaryOf op a b
      if !z.isInvalid then r.assignTo env x z
    | some _, _, _ => Check.fail
    | none, _, _ => r.assignAll env lhs rhs
    return env

/-- An increment or decrement. -/
def incDec (env : Env) (e : Expr) (op : Token) : Check Unit := do
  let x ← r.expr env e
  if x.isInvalid then return
  else if !(← Check.types).all BasicKind.isNumeric x.type then Check.fail
  else
    let one := Operand.ofConstant (.int 1) (.basic .untypedInt)
    let y ← binaryOf (if op == .inc then .add else .sub) x one
    if !y.isInvalid then r.assignTo env e y

/-- A value sent to a channel. -/
def send (env : Env) (c v : Expr) : Check Unit := do
  let c ← r.expr env c
  let v ← r.expr env v
  if c.isInvalid || v.isInvalid then return
  else match (← Check.types).chanElement? false c.type with
    | some t => let _ ← assign v (some t)
    | none => Check.fail

/-- A return. Without values the results must have names, which stand for them at this place. -/
def returnStmt (env : Env) (es : List Expr) : Check Unit := do
  let named := env.results.any fun p => !p.name.isEmpty
  let isVisible (p : Result) : Bool :=
    p.name == text "_" || match env.scope.lookup p.name with
      | some (.variable id _) => id == some p.id
      | _ => false
  if es.isEmpty && named then Check.ensure (env.results.all isVisible)
  else if es.isEmpty || env.results.isEmpty then Check.ensure (es.isEmpty && env.results.isEmpty)
  else match ← r.valuesFor env (env.results.map fun p => some p.type) es false with
    | none => return
    | some xs =>
      for (x, p) in xs.zip env.results do
        let _ ← assign x (some p.type)

/-- A jump without a label, which must be possible where it stands. -/
def branch (env : Env) (keyword : Token) : Check Unit :=
  match keyword with
  | .kBreak => Check.ensure env.flow.breaks
  | .kContinue => Check.ensure env.flow.continues
  | .kFallthrough => Check.ensure env.flow.fallsThrough
  | _ => Check.fail

/-! ## Switches -/

/-- A constant in a case, if it is looked for among the others: truth values and inexact numbers are not. -/
def caseKey? (v : Constant) : Option Constant :=
  match v with
  | .int _ | .string _ => some v
  | .real q => if BinaryFormat.double.round? q == some q then some v else none
  | _ => none

/-- The values of a case, compared with the operand of its switch; a constant of one type must not come up twice. -/
def caseValues (env : Env) (tag : Operand) : List (Constant × Ty) → List Expr → Check (List (Constant × Ty))
  | seen, [] => return seen
  | seen, e :: es => do
    let v ← r.expr env e
    if tag.isInvalid || v.isInvalid then caseValues env tag seen es
    else
      let (v, t) ← matchTypes v tag
      if v.isInvalid || t.isInvalid then caseValues env tag seen es
      else
        let _ ← comparison .eql v t
        let ts ← Check.types
        match v.constant?.bind caseKey? with
        | none => caseValues env tag seen es
        | some c =>
          Check.ensure (!seen.any fun s => s.1 == c && ts.same s.2 v.type)
          caseValues env tag ((c, v.type) :: seen) es

/-- Whether at most one of some clauses is the default. -/
def hasOneDefault (clauses : List Stmt) : Bool :=
  clauses.countP (fun c => match c with
    | .caseClause _ d _ _ _ => d
    | .commClause _ comm _ _ => comm.isNone
    | _ => false) ≤ 1

/-- The clauses of a switch over values; control can fall through from all but the last one. -/
def caseClauses (env : Env) (tag : Operand) : List (Constant × Ty) → List Stmt → Check Unit
  | _, [] => return
  | seen, .caseClause _ _ values _ body :: cs => do
    let seen ← r.caseValues env tag seen values
    r.block (env.inner.falling (!cs.isEmpty)) body
    caseClauses env tag seen cs
  | seen, _ :: cs => caseClauses env tag seen cs

/-- The operand of a switch; without one it is the truth. -/
def switchTag (env : Env) (tag : Option Expr) : Check Operand := do
  match tag with
  | none => return .ofConstant (.bool true) (.basic .bool)
  | some e =>
    let x ← assign (← r.expr env e) none
    let ts ← Check.types
    if x.isInvalid || ts.isComparable x.type || ts.hasNil x.type then return x else Check.failed

/-! ## Type switches -/

/-- Whether an expression is the predeclared value for nothing. -/
def isNilName (env : Env) (e : Expr) : Check Bool := do
  match e.unparen with
  | .ident i =>
    match ← lookup? env i.name with
    | some .nil => return true
    | _ => return false
  | _ => return false

/-- A type of a case, or the value for nothing. -/
inductive CaseType where
  | nothing
  | type (t : Ty)

def CaseType.same (ts : TypeTable) : CaseType → CaseType → Bool
  | .nothing, .nothing => true
  | .type t, .type u => !t.isInvalid && !u.isInvalid && ts.same t u
  | _, _ => false

/-- The types of a case, which must be possible for the operand of its switch; none may come up twice. Those that came
before are given and returned with them. -/
def caseTypes (env : Env) (x : Operand) : List CaseType → List Expr → Check (List CaseType × List CaseType)
  | seen, [] => return (seen, [])
  | seen, e :: es => do
    let c ←
      if ← isNilName env e then pure CaseType.nothing
      else do
        let t ← r.variableType env e
        let ts ← Check.types
        Check.ensure (x.isInvalid || t.isInvalid || canAssert ts x.type t)
        pure (.type t)
    let ts ← Check.types
    Check.ensure (!seen.any (c.same ts))
    let (seen, rest) ← caseTypes env x (c :: seen) es
    return (seen, c :: rest)

/-- The clauses of a switch over types: the variables that they declare for its operand. In a case with one type the
variable has that type. -/
def typeClauses (env : Env) (name : Option Text) (x : Operand) : List CaseType → List Stmt → Check (List Nat)
  | _, [] => return []
  | seen, .caseClause _ _ values _ body :: cs => do
    let (seen, types) ← r.caseTypes env x seen values
    let t := match types with
      | [.type t] => t
      | _ => x.type
    match name with
    | none =>
      r.block env.inner body
      typeClauses env name x seen cs
    | some n =>
      let id ← Check.fresh
      let inner ← env.inner.declare n (.variable (some id) t)
      r.block inner body
      return id :: (← typeClauses env name x seen cs)
  | seen, _ :: cs => typeClauses env name x seen cs

/-- The operand of a switch over types, and the name that it gets in the clauses. -/
def typeGuard? : Stmt → Option (Option Text × Expr)
  | .expr (.assert x _ none _) => some (none, x)
  | .assign [.ident i] _ .define [.assert x _ none _] => some (some i.name, x)
  | _ => none

/-- A switch over types. The name of its operand must be used in one of the clauses. -/
def typeSwitch (env : Env) (guard : Stmt) (clauses : List Stmt) : Check Unit := do
  match typeGuard? guard with
  | none => Check.fail
  | some (name, e) =>
    Check.ensure (name != some (text "_"))
    let name := name.filter (· != text "_")
    let x ← r.expr env e
    let ts ← Check.types
    let x ← if x.isInvalid || ts.isInterface x.type then pure x else Check.failed
    Check.ensure (hasOneDefault clauses)
    let ids ← r.typeClauses env name x [] clauses
    let s : State ← get
    Check.ensure (name.isNone || ids.any s.used.contains)

/-! ## Selections -/

/-- Whether a statement can be that of a clause: it sends, or it receives and may assign what it gets. -/
def isCommunication (s : Stmt) : Bool :=
  let receives (e : Expr) : Bool := match e.unparen with
    | .unary _ .arrow _ => true
    | _ => false
  match s with
  | .send _ _ _ => true
  | .assign _ _ _ [e] => receives e
  | .expr e => receives e
  | _ => false

/-! ## Loops -/

/-- The types of the one or two values of a range clause. -/
def rangeTypes? (env : Env) (ts : TypeTable) (x : Operand) : Option (List Ty) := do
  let int := Ty.basic .int
  let common ← ts.common? x.type
  match common with
  | .basic k =>
    if k.isString then some [int, .basic .rune]
    else if k.isInteger && 22 ≤ env.version then some [x.type]
    else none
  | .array _ e | .slice e => some [int, e]
  | .pointer e =>
    match ts.under e with
    | .array _ e => some [int, e]
    | _ => none
  | .map k v => some [k, v]
  | .chan dir e => if dir == .send then none else some [e]
  | .func _ [(_, yield)] [] _ =>
    match ← ts.common? yield with
    | .func _ ps [(_, result)] _ =>
      if 23 ≤ env.version && ps.length ≤ 2 && ts.same result (.basic .bool) then some (ps.map Prod.snd) else none
    | _ => none
  | _ => none

/-- The operand for a variable of a range clause: the numbers up to one of no type get the type of the variable. -/
def rangeOperand (ts : TypeTable) (x : Operand) (t : Ty) : Operand :=
  if ts.isBasic BasicKind.isInteger x.type then x else .ofType t

/-- Assigns the values of a range clause. An integer stays an integer. -/
def rangeAssign (env : Env) (x : Operand) (e : Expr) (t : Ty) : Check Unit := do
  let target ← r.target env e
  let ts ← Check.types
  let y ← assign (rangeOperand ts x t) target
  let isCount := ts.isBasic BasicKind.isInteger x.type
  Check.ensure (!isCount || y.isInvalid || y.type.isInvalid || ts.isBasic BasicKind.isInteger y.type)

/-- Declares the variables of a range clause, at least one. -/
def rangeDefine (env : Env) (x : Operand) (vars : List (Expr × Ty)) : Check Env := do
  let isNew (e : Expr) : Bool := match e with
    | .ident i => i.name != text "_"
    | _ => false
  Check.ensure (vars.any fun v => isNew v.1)
  let ts ← Check.types
  vars.foldlM (fun out (e, t) => do
    match e with
    | .ident i => localVar out i.name (← initialType none (rangeOperand ts x t))
    | _ =>
      Check.fail
      return out) env

/-- A loop over a range. -/
def range (self : Env → Stmt → Check Env) (env : Env) (key value : Option Expr) (op : Option (Nat × Token)) (e : Expr)
    (body : Stmt) : Check Unit := do
  let x ← r.expr env e
  let vars := key.toList ++ value.toList
  let ts ← Check.types
  match if x.isInvalid then none else rangeTypes? env ts x with
  | none => Check.ensure x.isInvalid
  | some types =>
    Check.ensure (vars.length ≤ types.length)
    let inner ← match op with
      | some (_, .define) => rangeDefine env.inner x (vars.zip types)
      | _ => do
        for (v, t) in vars.zip types do
          r.rangeAssign env x v t
        if vars.isEmpty && ts.isBasic BasicKind.isInteger x.type then
          let _ ← assign x none
        pure env.inner
    let _ ← self inner.loop body

/-! ## All statements -/

/-- The simple statement before a block, if there is one: the environment after it. -/
def simpleStmt (self : Env → Stmt → Check Env) (env : Env) (s : Option Stmt) : Check Env := do
  match s with
  | none => return env
  | some s => return (← self env.simple s).withFlow env

/-- Whether a statement is a short declaration. -/
def isDefinition : Stmt → Bool
  | .assign _ _ .define _ => true
  | _ => false

/-- One statement: the environment after it. -/
def stmt (self : Env → Stmt → Check Env) (env : Env) (s : Stmt) : Check Env := do
  let part := env.part
  match s with
  | .bad _ _ | .badDecl _ _ | .empty _ _ => return env
  | .decl d => r.localDecl env d
  | .labeled _ _ s => self env s
  | .assign lhs _ op rhs => r.assignment env lhs op rhs
  | _ =>
    match s with
    | .expr x | .go _ x | .defer _ x => r.effect env x
    | .send c _ v => r.send env c v
    | .incDec x _ op => r.incDec env x op
    | .return _ es => r.returnStmt env es
    | .branch _ k none => branch env k
    | .block _ ss _ => r.block part ss
    | .ifElse _ init cond body otherwise =>
      let inner ← simpleStmt self part init
      r.condition inner cond
      for s in body :: otherwise.toList do
        let _ ← self inner s
    | .switch _ init tag _ clauses _ =>
      let inner := (← simpleStmt self part init).breakable
      let tag ← r.switchTag inner tag
      Check.ensure (hasOneDefault clauses)
      r.caseClauses inner tag [] clauses
    | .typeSwitch _ init guard _ clauses _ =>
      let inner ← simpleStmt self part init
      r.typeSwitch inner.breakable guard clauses
    | .select _ _ clauses _ =>
      Check.ensure (hasOneDefault clauses)
      for c in clauses do
        if let .commClause _ comm _ body := c then
          Check.ensure (comm.all isCommunication)
          let inner ← match comm with
            | some s => self part.breakable s
            | none => pure part.breakable
          r.block inner body
    | .for _ init cond post body =>
      let inner ← simpleStmt self part init
      cond.forM (r.condition inner)
      let _ ← simpleStmt self inner post
      Check.ensure (!post.any isDefinition)
      let _ ← self inner.loop body
    | .range _ key value op _ x body => r.range self part key value op x body
    | _ => pure ()
    return env

/-- One statement up to a depth of nesting. -/
def stmtWithin : Nat → Env → Stmt → Check Env
  | 0, env, _ => return env
  | n + 1, env, s => r.stmt (stmtWithin n) env s

/-- The statements of a block. Control can fall through only from the last one. -/
def blockStmts (env : Env) (ss : List Stmt) : Check Unit := do
  let ss := dropEmptyEnd ss
  let last := ss.length - 1
  let _ ← ss.zipIdx.foldlM (fun out (s, i) => do
    let here := out.falling (env.flow.fallsThrough && i == last)
    r.stmtWithin statementDepth here s) env

/-- A function body: all its variables must be used, its labels must fit, and a function with results must not end
without them. -/
def bodyStmts (env : Env) (ss : List Stmt) : Check Unit := do
  let outer := (← get).locals
  modify fun s => { s with locals := [] }
  r.block env ss
  let s : State ← get
  Check.ensure (s.locals.all s.used.contains)
  set { (← get : State) with locals := outer }
  Check.ensure (labelsFit ss)
  let isPanic (offset : Nat) : Bool := s.panics.contains (env.file, offset)
  Check.ensure (env.results.isEmpty || neverEnds isPanic ss)

end Rules

end DocAccessors.Typing
