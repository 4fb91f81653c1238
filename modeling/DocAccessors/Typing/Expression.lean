import DocAccessors.Typing.Call
import DocAccessors.Typing.Composite

/-!
# Expressions

The type of an expression, and its value when it is constant. `Rules.rawExpr` is the rule for all of them; what it
finds must not be generic, unless that is allowed.
-/

namespace DocAccessors.Typing

open DocAccessors.Source (Expr)

namespace Rules

variable (r : Rules)

/-- What a pointer points to, for all types that its type can stand for. -/
def pointedTo? (ts : TypeTable) (t : Ty) : Option Ty := do
  let elements ← (← ts.specific? t).mapM fun u => match ts.under u.type with
    | .pointer e => some e
    | _ => none
  match elements with
  | [] => none
  | e :: es => if es.all (ts.same e) then some e else none

/-- What a pointer points to, or the type of pointers to a type. -/
def starExpr (env : Env) (e : Expr) : Check Operand := do
  let x ← r.exprOrType env {} e
  if x.isInvalid then return .invalid
  else if x.isType then
    Check.ask (.variable x.type)
    return .ofMode .type (.pointer x.type)
  else if !x.isValue then Check.failed
  else match pointedTo? (← Check.types) x.type with
    | some t => return .ofMode .variable t
    | none => Check.failed

/-- An expression or a type; it may be generic. -/
def openExpr (env : Env) (expected : Expected) (e : Expr) : Check Operand := do
  match e with
  | .bad _ _ => return .invalid
  | .ident i => r.ident env i.name
  | .literal _ kind value => literal kind value
  | .ellipsis _ _ => Check.failed
  | .funcLit t _ body _ => r.funcLit env t body
  | .composite t _ es _ => r.composite env expected.literal t es
  | .paren _ x _ => r.raw env {} x
  | .selector x s => r.selector env x s
  | .index x _ is _ => do settled (← r.indexOperand env x is) expected.target
  | .slice x _ low high max three _ => r.sliceExpr env x low high max three
  | .assert x _ t _ => r.assertion env x t
  | .call f offset args spread _ => r.call env f offset args spread.isSome
  | .star _ x => r.starExpr env x
  | .unary _ op x => do unaryOf op (← r.expr env x) (isComposite x)
  | .binary x _ op y =>
    let a ← r.expr env x
    let b ← r.expr env y
    binaryOf op a b
  | .keyValue _ _ _ => Check.failed
  | .arrayType _ _ _ | .structType _ _ | .funcType _ _ _ | .interfaceType _ _ | .mapType _ _ _ | .chanType _ _ _ _ =>
    let t ← r.typeExpr env e
    return if t.isInvalid then .invalid else .ofMode .type t

def rawExpr (env : Env) (expected : Expected) (e : Expr) : Check Operand := do
  let x ← r.openExpr env expected e
  if expected.generic then return x else settled x expected.target

end Rules

end DocAccessors.Typing
