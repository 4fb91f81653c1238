import DocAccessors.Source.Tree

/-!
# Nesting of scopes

Blocks, clauses, functions, and struct, interface and function types open scopes. A file whose scopes nest too
deeply is refused at the first scope that goes too far, in the order in which the parts of a file are looked at:
an assignment from right to left, everything else from left to right.

* `scopeLimit` is how deep scopes nest, the one of the package included;
* `File.deepScope?` is the offset of the first scope beyond the limit.
-/

namespace DocAccessors.Source

/-- The number of scopes that may be open at once. -/
def scopeLimit : Nat := 1000

mutual

/-- The first scope of an expression beyond the limit, `d` scopes being open around it. -/
def Expr.deepScope? (d : Nat) : Expr → Option Nat
  | .bad .. | .ident .. | .literal .. => none
  | .ellipsis _ x => match x with
    | some x => x.deepScope? d
    | none => none
  | .funcLit t _ body _ =>
    if scopeLimit ≤ d then some t.start
    else match t with
      | .funcType _ ps rs => (ps.deepScope? (d + 1)).or <|
        (match rs with
          | some rs => rs.deepScope? (d + 1)
          | none => none).or (Stmt.deepScopes? (d + 1) body)
      | _ => Stmt.deepScopes? (d + 1) body
  | .composite t _ es _ =>
    (match t with
      | some t => t.deepScope? d
      | none => none).or (Expr.deepScopes? d es)
  | .paren _ x _ => x.deepScope? d
  | .selector x _ => x.deepScope? d
  | .index x _ is _ => (x.deepScope? d).or (Expr.deepScopes? d is)
  | .slice x _ low high max _ _ => (x.deepScope? d).or <|
    (match low with
      | some e => e.deepScope? d
      | none => none).or <|
    (match high with
      | some e => e.deepScope? d
      | none => none).or <|
    match max with
      | some e => e.deepScope? d
      | none => none
  | .assert x _ t _ => (x.deepScope? d).or <|
    match t with
      | some t => t.deepScope? d
      | none => none
  | .call f _ args _ _ => (f.deepScope? d).or (Expr.deepScopes? d args)
  | .star _ x => x.deepScope? d
  | .unary _ _ x => x.deepScope? d
  | .binary x _ _ y => (x.deepScope? d).or (y.deepScope? d)
  | .keyValue k _ v => (k.deepScope? d).or (v.deepScope? d)
  | .arrayType _ n e =>
    (match n with
      | some n => n.deepScope? d
      | none => none).or (e.deepScope? d)
  | .structType o fs => if scopeLimit ≤ d then some o else fs.deepScope? (d + 1)
  | .funcType f (.mk o fs c) rs =>
    if scopeLimit ≤ d then f.or o
    else ((FieldList.mk o fs c).deepScope? (d + 1)).or <|
      match rs with
        | some rs => rs.deepScope? (d + 1)
        | none => none
  | .interfaceType o ms => if scopeLimit ≤ d then some o else ms.deepScope? (d + 1)
  | .mapType _ k v => (k.deepScope? d).or (v.deepScope? d)
  | .chanType _ _ _ v => v.deepScope? d

/-- The first scope of several expressions beyond the limit. -/
def Expr.deepScopes? (d : Nat) : List Expr → Option Nat
  | [] => none
  | x :: xs => (x.deepScope? d).or (Expr.deepScopes? d xs)

def FieldList.deepScope? (d : Nat) : FieldList → Option Nat
  | .mk _ fs _ => Field.deepScopes? d fs

def Field.deepScopes? (d : Nat) : List Field → Option Nat
  | [] => none
  | .mk _ _ t _ _ :: fs => (t.deepScope? d).or (Field.deepScopes? d fs)

/-- The first scope of the entries of a declaration beyond the limit. The scope of the type parameters of an entry
stays open for the entries after it. -/
def Spec.deepScopes? (d : Nat) : List Spec → Option Nat
  | [] => none
  | .importSpec .. :: ss => Spec.deepScopes? d ss
  | .valueSpec _ _ t vs _ :: ss => (Expr.deepScopes? d vs).or <|
    (match t with
      | some t => t.deepScope? d
      | none => none).or (Spec.deepScopes? d ss)
  | .typeSpec _ n ps _ t _ :: ss =>
    match ps with
    | some ps =>
      if scopeLimit ≤ d then some n.offset
      else (ps.deepScope? (d + 1)).or ((t.deepScope? (d + 1)).or (Spec.deepScopes? (d + 1) ss))
    | none => (t.deepScope? d).or (Spec.deepScopes? d ss)

def GenDecl.deepScope? (d : Nat) : GenDecl → Option Nat
  | .mk _ _ _ _ specs _ => Spec.deepScopes? d specs

def Stmt.deepScope? (d : Nat) : Stmt → Option Nat
  | .bad .. | .badDecl .. | .empty .. | .branch .. => none
  | .decl g => g.deepScope? d
  | .labeled _ _ s => s.deepScope? d
  | .expr x => x.deepScope? d
  | .send c _ v => (c.deepScope? d).or (v.deepScope? d)
  | .incDec x _ _ => x.deepScope? d
  | .assign lhs _ op rhs => (Expr.deepScopes? d rhs).or (if op == .define then none else Expr.deepScopes? d lhs)
  | .go _ c => c.deepScope? d
  | .defer _ c => c.deepScope? d
  | .return _ rs => Expr.deepScopes? d rs
  | .block l ss _ => if scopeLimit ≤ d then some l else Stmt.deepScopes? (d + 1) ss
  | .ifElse o init cond body otherwise =>
    if scopeLimit ≤ d then some o
    else
      (match init with
        | some s => s.deepScope? (d + 1)
        | none => none).or <| (cond.deepScope? (d + 1)).or <| (body.deepScope? (d + 1)).or <|
      match otherwise with
        | some s => s.deepScope? (d + 1)
        | none => none
  | .caseClause o _ vs _ body =>
    (Expr.deepScopes? d vs).or (if scopeLimit ≤ d then some o else Stmt.deepScopes? (d + 1) body)
  | .switch o init tag _ clauses _ =>
    if scopeLimit ≤ d then some o
    else match init, tag with
      | some s, some t => (s.deepScope? (d + 1)).or <|
        if scopeLimit ≤ d + 1 then some t.start
        else (t.deepScope? (d + 2)).or (Stmt.deepScopes? (d + 2) clauses)
      | some s, none => (s.deepScope? (d + 1)).or (Stmt.deepScopes? (d + 1) clauses)
      | none, some t => (t.deepScope? (d + 1)).or (Stmt.deepScopes? (d + 1) clauses)
      | none, none => Stmt.deepScopes? (d + 1) clauses
  | .typeSwitch o init guard _ clauses _ =>
    match init with
    | some s =>
      if scopeLimit ≤ d then some o
      else (s.deepScope? (d + 1)).or <|
        if scopeLimit ≤ d + 1 then some guard.start
        else (guard.deepScope? (d + 2)).or (Stmt.deepScopes? (d + 2) clauses)
    | none =>
      if scopeLimit ≤ d then some guard.start
      else (guard.deepScope? (d + 1)).or (Stmt.deepScopes? (d + 1) clauses)
  | .commClause o comm _ body =>
    if scopeLimit ≤ d then some o
    else
      (match comm with
        | some s => s.deepScope? (d + 1)
        | none => none).or (Stmt.deepScopes? (d + 1) body)
  | .select _ _ clauses _ => Stmt.deepScopes? d clauses
  | .for o init cond post body =>
    if scopeLimit ≤ d then some o
    else
      (match init with
        | some s => s.deepScope? (d + 1)
        | none => none).or <|
      (match cond with
        | some x => x.deepScope? (d + 1)
        | none => none).or <|
      (match post with
        | some s => s.deepScope? (d + 1)
        | none => none).or (body.deepScope? (d + 1))
  | .range o key value _ _ x body =>
    if scopeLimit ≤ d then some o
    else (x.deepScope? (d + 1)).or <|
      (match key with
        | some k => k.deepScope? (d + 1)
        | none => none).or <|
      (match value with
        | some v => v.deepScope? (d + 1)
        | none => none).or (body.deepScope? (d + 1))

/-- The first scope of several statements beyond the limit. -/
def Stmt.deepScopes? (d : Nat) : List Stmt → Option Nat
  | [] => none
  | s :: ss => (s.deepScope? d).or (Stmt.deepScopes? d ss)

end

/-- The first scope of a top-level declaration beyond the limit. The scope of a function holds its body. -/
def Decl.deepScope? : Decl → Option Nat
  | .bad .. => none
  | .gen g => g.deepScope? 1
  | .func _ _ receiver _ typeParams params results body =>
    ([receiver, typeParams, some params, results].filterMap id).findSome? (·.deepScope? 2) |>.or <|
      match body with
        | some (.block _ ss _) => Stmt.deepScopes? 2 ss
        | _ => none

/-- The first scope of a file beyond the limit. -/
def File.deepScope? (f : File) : Option Nat := f.decls.findSome? Decl.deepScope?

end DocAccessors.Source
