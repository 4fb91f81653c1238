import DocAccessors.Number.Basic
import DocAccessors.Source.Token

/-!
# Syntax trees

The tree of a source file: expressions and types, statements, declarations, and the comments that document them.
All positions are byte offsets in the file; a part that is not written has none.

* `Expr` covers expressions and types alike, since only the meaning of names tells them apart;
* `Field` is a field of a struct, a method or embedded type of an interface, or a group of parameters;
* `Stmt` and `Spec` are statements and the entries of import, constant, type and variable declarations;
* `Decl` and `File` are top-level declarations and whole files.

`start` and `stop` give the extent of a node.
-/

namespace DocAccessors.Source

/-- A comment with its markers. -/
structure Comment where
  offset : Nat
  text : Text
  deriving DecidableEq, Repr

/-- The offset after a comment. -/
def Comment.stop (c : Comment) : Nat := c.offset + c.text.length

/-- Comments with no blank line and no token between them. -/
abbrev CommentGroup := List Comment

/-- A name and where it stands. -/
structure Ident where
  offset : Nat
  name : Text
  deriving DecidableEq, Repr, Inhabited

/-- The offset after a name. -/
def Ident.stop (i : Ident) : Nat := i.offset + i.name.length

/-- Which way a channel goes. -/
inductive ChanDir where
  | both | send | receive
  deriving DecidableEq, Repr

mutual

/-- An expression or a type. -/
inductive Expr where
  /-- What could not be read. -/
  | bad (start stop : Nat)
  | ident (id : Ident)
  | literal (offset : Nat) (kind : Token) (value : Text)
  /-- `...` or `...T`. -/
  | ellipsis (offset : Nat) (element : Option Expr)
  | funcLit (type : Expr) (lbrace : Nat) (body : List Stmt) (rbrace : Option Nat)
  | composite (type : Option Expr) (lbrace : Nat) (elements : List Expr) (rbrace : Nat)
  | paren (lparen : Nat) (x : Expr) (rparen : Nat)
  | selector (x : Expr) (sel : Ident)
  /-- `x[i]`, or `x[T1, T2]` with several indices. -/
  | index (x : Expr) (lbrack : Nat) (indices : List Expr) (rbrack : Nat)
  | slice (x : Expr) (lbrack : Nat) (low high max : Option Expr) (three : Bool) (rbrack : Nat)
  /-- `x.(T)`, or `x.(type)` without a type. -/
  | assert (x : Expr) (lparen : Nat) (type : Option Expr) (rparen : Nat)
  | call (f : Expr) (lparen : Nat) (args : List Expr) (ellipsis : Option Nat) (rparen : Nat)
  | star (offset : Nat) (x : Expr)
  | unary (offset : Nat) (op : Token) (x : Expr)
  | binary (x : Expr) (opOffset : Nat) (op : Token) (y : Expr)
  | keyValue (key : Expr) (colon : Nat) (value : Expr)
  | arrayType (lbrack : Nat) (length : Option Expr) (element : Expr)
  | structType (offset : Nat) (fields : FieldList)
  | funcType (func : Option Nat) (params : FieldList) (results : Option FieldList)
  | interfaceType (offset : Nat) (methods : FieldList)
  | mapType (offset : Nat) (key value : Expr)
  | chanType (offset : Nat) (arrow : Option Nat) (dir : ChanDir) (value : Expr)

/-- Fields between brackets, or a lone result type without any. -/
inductive FieldList where
  | mk (opening : Option Nat) (fields : List Field) (closing : Option Nat)

/-- A group of names of one type, with its documentation, tag and the comment behind it. -/
inductive Field where
  | mk (doc : Option CommentGroup) (names : List Ident) (type : Expr) (tag : Option Ident)
      (comment : Option CommentGroup)

/-- An entry of a declaration. -/
inductive Spec where
  | importSpec (doc : Option CommentGroup) (name : Option Ident) (path : Ident) (comment : Option CommentGroup)
      (stop : Nat)
  | valueSpec (doc : Option CommentGroup) (names : List Ident) (type : Option Expr) (values : List Expr)
      (comment : Option CommentGroup)
  | typeSpec (doc : Option CommentGroup) (name : Ident) (typeParams : Option FieldList) (assign : Option Nat)
      (type : Expr) (comment : Option CommentGroup)

/-- An import, constant, type or variable declaration. -/
inductive GenDecl where
  | mk (doc : Option CommentGroup) (offset : Nat) (keyword : Token) (lparen : Option Nat) (specs : List Spec)
      (rparen : Option Nat)

/-- A statement. -/
inductive Stmt where
  | bad (start stop : Nat)
  | decl (d : GenDecl)
  | badDecl (start stop : Nat)
  | empty (semicolon : Nat) (isImplicit : Bool)
  | labeled (label : Ident) (colon : Nat) (stmt : Stmt)
  | expr (x : Expr)
  | send (chan : Expr) (arrow : Nat) (value : Expr)
  | incDec (x : Expr) (opOffset : Nat) (op : Token)
  | assign (lhs : List Expr) (opOffset : Nat) (op : Token) (rhs : List Expr)
  | go (offset : Nat) (call : Expr)
  | defer (offset : Nat) (call : Expr)
  | return (offset : Nat) (results : List Expr)
  | branch (offset : Nat) (keyword : Token) (label : Option Ident)
  | block (lbrace : Nat) (stmts : List Stmt) (rbrace : Option Nat)
  | ifElse (offset : Nat) (init : Option Stmt) (cond : Expr) (body : Stmt) (otherwise : Option Stmt)
  /-- A `case` clause, or the `default` clause without values; `isDefault` tells them apart. -/
  | caseClause (offset : Nat) (isDefault : Bool) (values : List Expr) (colon : Nat) (body : List Stmt)
  | switch (offset : Nat) (init : Option Stmt) (tag : Option Expr) (lbrace : Nat) (clauses : List Stmt) (rbrace : Nat)
  | typeSwitch (offset : Nat) (init : Option Stmt) (guard : Stmt) (lbrace : Nat) (clauses : List Stmt) (rbrace : Nat)
  | commClause (offset : Nat) (comm : Option Stmt) (colon : Nat) (body : List Stmt)
  | select (offset : Nat) (lbrace : Nat) (clauses : List Stmt) (rbrace : Nat)
  | for (offset : Nat) (init : Option Stmt) (cond : Option Expr) (post : Option Stmt) (body : Stmt)
  /-- `op` is the assignment token with its offset, when there are variables. -/
  | range (offset : Nat) (key value : Option Expr) (op : Option (Nat × Token)) (rangeOffset : Nat) (x : Expr)
      (body : Stmt)

end

instance : Inhabited Expr := ⟨.bad 0 0⟩
instance : Inhabited Stmt := ⟨.bad 0 0⟩

/-- A top-level declaration. -/
inductive Decl where
  | bad (start stop : Nat)
  | gen (d : GenDecl)
  | func (doc : Option CommentGroup) (offset : Nat) (receiver : Option FieldList) (name : Ident)
      (typeParams : Option FieldList) (params : FieldList) (results : Option FieldList) (body : Option Stmt)

/-- A source file. -/
structure File where
  doc : Option CommentGroup
  /-- The offset of the package clause. -/
  packageOffset : Nat
  name : Ident
  decls : List Decl
  comments : List CommentGroup

/-! ## Projections -/

def FieldList.opening : FieldList → Option Nat
  | .mk o _ _ => o

def FieldList.fields : FieldList → List Field
  | .mk _ fs _ => fs

/-- The closing bracket of a field list. -/
def FieldList.closing : FieldList → Option Nat
  | .mk _ _ c => c

def Field.doc : Field → Option CommentGroup
  | .mk d _ _ _ _ => d

def Field.names : Field → List Ident
  | .mk _ ns _ _ _ => ns

def Field.type : Field → Expr
  | .mk _ _ t _ _ => t

def Field.tag : Field → Option Ident
  | .mk _ _ _ t _ => t

def Field.comment : Field → Option CommentGroup
  | .mk _ _ _ _ c => c

/-- The number of names and embedded types of a field list. -/
def FieldList.count (l : FieldList) : Nat := total (l.fields.map fun f => max 1 f.names.length)

/-- The expression inside all parentheses. -/
def Expr.unparen : Expr → Expr
  | .paren _ x _ => x.unparen
  | x => x

/-! ## Extent -/

def Expr.start : Expr → Nat
  | .bad s _ => s
  | .ident id => id.offset
  | .literal o _ _ => o
  | .ellipsis o _ => o
  | .funcLit t _ _ _ => t.start
  | .composite (some t) _ _ _ => t.start
  | .composite none l _ _ => l
  | .paren l _ _ => l
  | .selector x _ => x.start
  | .index x _ _ _ => x.start
  | .slice x _ _ _ _ _ _ => x.start
  | .assert x _ _ _ => x.start
  | .call f _ _ _ _ => f.start
  | .star o _ => o
  | .unary o _ _ => o
  | .binary x _ _ _ => x.start
  | .keyValue k _ _ => k.start
  | .arrayType l _ _ => l
  | .structType o _ => o
  | .funcType (some f) _ _ => f
  | .funcType none (.mk o _ _) _ => o.getD 0
  | .interfaceType o _ => o
  | .mapType o _ _ => o
  | .chanType o _ _ _ => o

mutual

def Expr.stop : Expr → Nat
  | .bad _ s => s
  | .ident id => id.stop
  | .literal o _ v => o + v.length
  | .ellipsis _ (some x) => x.stop
  | .ellipsis o none => o + 3
  | .funcLit _ l body r => match r with
    | some r => r + 1
    | none => (Stmt.stopLast body).getD (l + 1)
  | .composite _ _ _ r => r + 1
  | .paren _ _ r => r + 1
  | .selector _ s => s.stop
  | .index _ _ _ r => r + 1
  | .slice _ _ _ _ _ _ r => r + 1
  | .assert _ _ _ r => r + 1
  | .call _ _ _ _ r => r + 1
  | .star _ x => x.stop
  | .unary _ _ x => x.stop
  | .binary _ _ _ y => y.stop
  | .keyValue _ _ v => v.stop
  | .arrayType _ _ e => e.stop
  | .structType _ fs => fs.stop
  | .funcType _ ps none => ps.stop
  | .funcType _ _ (some rs) => rs.stop
  | .interfaceType _ ms => ms.stop
  | .mapType _ _ v => v.stop
  | .chanType _ _ _ v => v.stop

def FieldList.stop : FieldList → Nat
  | .mk o fs c => match c with
    | some c => c + 1
    | none => (Field.stopLast fs).getD (o.getD 0)

def Field.stop : Field → Nat
  | .mk _ _ t tag _ => match tag with
    | some tag => tag.stop
    | none => t.stop

def Field.stopLast : List Field → Option Nat
  | [] => none
  | f :: fs => some ((Field.stopLast fs).getD f.stop)

/-- The offset after the last of several expressions. -/
def Expr.stopLast : List Expr → Option Nat
  | [] => none
  | x :: xs => some ((Expr.stopLast xs).getD x.stop)

def Spec.stop : Spec → Nat
  | .importSpec _ _ _ _ s => s
  | .valueSpec _ names type values _ =>
    match Expr.stopLast values with
    | some s => s
    | none => match type with
      | some t => t.stop
      | none => (names.getLast?.map (·.stop)).getD 0
  | .typeSpec _ _ _ _ t _ => t.stop

/-- The offset after the last of several specifications. -/
def Spec.stopLast : List Spec → Option Nat
  | [] => none
  | s :: ss => some ((Spec.stopLast ss).getD s.stop)

def GenDecl.stop : GenDecl → Nat
  | .mk _ _ _ _ specs rparen => match rparen with
    | some r => r + 1
    | none => (Spec.stopLast specs).getD 0

def Stmt.stop : Stmt → Nat
  | .bad _ s => s
  | .decl d => d.stop
  | .badDecl _ s => s
  | .empty s i => if i then s else s + 1
  | .labeled _ _ s => s.stop
  | .expr x => x.stop
  | .send _ _ v => v.stop
  | .incDec _ o _ => o + 2
  | .assign _ o _ rhs => (Expr.stopLast rhs).getD o
  | .go _ c => c.stop
  | .defer _ c => c.stop
  | .return o rs => (Expr.stopLast rs).getD (o + 6)
  | .branch o k l => match l with
    | some l => l.stop
    | none => o + k.spelling.length
  | .block l ss r => match r with
    | some r => r + 1
    | none => (Stmt.stopLast ss).getD (l + 1)
  | .ifElse _ _ _ _ (some e) => e.stop
  | .ifElse _ _ _ b none => b.stop
  | .caseClause _ _ _ c ss => (Stmt.stopLast ss).getD (c + 1)
  | .switch _ _ _ _ _ r => r + 1
  | .typeSwitch _ _ _ _ _ r => r + 1
  | .commClause _ _ c ss => (Stmt.stopLast ss).getD (c + 1)
  | .select _ _ _ r => r + 1
  | .for _ _ _ _ b => b.stop
  | .range _ _ _ _ _ _ b => b.stop

/-- The offset after the last of several statements. -/
def Stmt.stopLast : List Stmt → Option Nat
  | [] => none
  | s :: ss => some ((Stmt.stopLast ss).getD s.stop)

end

def Field.start : Field → Nat
  | .mk _ (n :: _) _ _ _ => n.offset
  | .mk _ [] t _ _ => t.start

/-- The offset of the first byte of a field list. -/
def FieldList.start (l : FieldList) : Nat :=
  match l.opening with
  | some o => o
  | none => (l.fields.head?.map Field.start).getD 0

def GenDecl.start : GenDecl → Nat
  | .mk _ o _ _ _ _ => o

/-- The offset of the first byte of a specification. -/
def Spec.start : Spec → Nat
  | .importSpec _ (some n) _ _ _ => n.offset
  | .importSpec _ none p _ _ => p.offset
  | .valueSpec _ names _ _ _ => (names.head?.map (·.offset)).getD 0
  | .typeSpec _ n _ _ _ _ => n.offset

/-- The offset of the first byte of a statement. -/
def Stmt.start : Stmt → Nat
  | .bad s _ => s
  | .decl d => d.start
  | .badDecl s _ => s
  | .empty s _ => s
  | .labeled l _ _ => l.offset
  | .expr x => x.start
  | .send c _ _ => c.start
  | .incDec x _ _ => x.start
  | .assign lhs o _ _ => (lhs.head?.map Expr.start).getD o
  | .go o _ => o
  | .defer o _ => o
  | .return o _ => o
  | .branch o _ _ => o
  | .block l _ _ => l
  | .ifElse o _ _ _ _ => o
  | .caseClause o _ _ _ _ => o
  | .switch o _ _ _ _ _ => o
  | .typeSwitch o _ _ _ _ _ => o
  | .commClause o _ _ _ => o
  | .select o _ _ _ => o
  | .for o _ _ _ _ => o
  | .range o _ _ _ _ _ _ => o

/-- The offset of the first byte of a top-level declaration. -/
def Decl.start : Decl → Nat
  | .bad s _ => s
  | .gen d => d.start
  | .func _ o _ _ _ _ _ _ => o

/-- The offset after a top-level declaration. -/
def Decl.stop : Decl → Nat
  | .bad _ s => s
  | .gen d => d.stop
  | .func _ _ _ _ _ params results body => match body with
    | some b => b.stop
    | none => match results with
      | some r => r.stop
      | none => params.stop

end DocAccessors.Source
