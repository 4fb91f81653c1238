import DocAccessors.Layout.Expressions
import DocAccessors.Source.Parse

/-!
# Layout of statements and files

* `Nodes.writeStmt` writes a statement, `Nodes.genDecl` and `Nodes.funcDecl` a declaration;
* `Nodes.ofDepth` ties the rules together up to a depth of nesting;
* `Nodes.file` writes a whole file;
* `format` reads a source file and writes it in its canonical layout. It fails only on a text that is not a source
  file.
-/

namespace DocAccessors.Layout

open DocAccessors.Source (Token Expr Field FieldList Ident Stmt Spec GenDecl Decl)

namespace Nodes

/-! ## Headers of control statements -/

/-- Whether a type is written as a name. -/
def isTypeName : Expr → Bool
  | .ident _ => true
  | .selector x _ => isTypeName x
  | _ => false

mutual

/-- Whether an expression holds a composite literal of a named type outside parentheses. -/
def holdsBareLiteral : Expr → Bool
  | .composite t _ _ _ => t.any isTypeName
  | .selector x _ => holdsBareLiteral x
  | .index x _ is _ => holdsBareLiteral x || anyBareLiteral is
  | .slice x _ a b c _ _ => holdsBareLiteral x || optionBareLiteral a || optionBareLiteral b || optionBareLiteral c
  | .assert x _ _ _ => holdsBareLiteral x
  | .call f _ args _ _ => holdsBareLiteral f || anyBareLiteral args
  | .star _ x => holdsBareLiteral x
  | .unary _ _ x => holdsBareLiteral x
  | .binary x _ _ y => holdsBareLiteral x || holdsBareLiteral y
  | .keyValue x _ y => holdsBareLiteral x || holdsBareLiteral y
  | _ => false

/-- Whether one of several expressions holds such a literal. -/
def anyBareLiteral : List Expr → Bool
  | [] => false
  | x :: xs => holdsBareLiteral x || anyBareLiteral xs

/-- Whether an expression that may be missing holds such a literal. -/
def optionBareLiteral : Option Expr → Bool
  | some x => holdsBareLiteral x
  | none => false

end

/-- The expression of a header without parentheses around it, unless they protect a composite literal. -/
def stripHeaderParens : Expr → Expr
  | .paren l x p => if holdsBareLiteral x then .paren l x p else stripHeaderParens x
  | x => x

variable (r : Nodes)

/-- Writes the header of a control statement. -/
def controlClause (isFor : Bool) (init : Option Stmt) (cond : Option Expr) (post : Option Stmt) : Print Unit := do
  space .blank
  let writeCond : Print Unit := match cond with
    | some x => r.expr (stripHeaderParens x)
    | none => pure ()
  if init.isNone && post.isNone then
    writeCond
    if cond.isSome then space .blank
  else
    match init with
    | some s => r.stmt s false
    | none => pure ()
    token .semicolon
    space .blank
    writeCond
    if isFor then
      token .semicolon
      space .blank
      match post with
      | some s =>
        r.stmt s false
        space .blank
      | none => pure ()
    else if cond.isSome then space .blank

/-! ## Blocks -/

/-- How many labels stand before a statement. -/
def labelCount : Stmt → Nat
  | .labeled _ _ s => labelCount s + 1
  | _ => 0

/-- Writes statements, each on a line of its own. `index` counts those written, `line` is the output line of the one
before, `total` the number of all statements. -/
def stmtLines (indented nextIsRbrace : Bool) (total : Nat) : Nat → Nat → List Stmt → Print Unit
  | _, _, [] => pure ()
  | index, line, s :: ss =>
    match s with
    | .empty _ _ => stmtLines indented nextIsRbrace total index line ss
    | s => do
      if ← hasOutput then
        let _ ← linebreak (← lineOf s.start) 1 .ignore (index = 0 || !indented || (← linesSince line))
      let mark ← withMark (r.stmt s (nextIsRbrace && index + 1 = total))
      stmtLines indented nextIsRbrace total (index + 1) (mark.getD line + labelCount s) ss

/-- Writes a list of statements. -/
def stmtList (ss : List Stmt) (indented nextIsRbrace : Bool) : Print Unit := do
  if indented then space .indent
  r.stmtLines indented nextIsRbrace ss.length 0 0 ss
  if indented then space .unindent

/-- Writes a block; it takes up at least two lines. -/
def block (lbrace : Nat) (ss : List Stmt) (rbrace : Nat) (indented : Bool) : Print Unit := do
  tokenAt lbrace .lbrace
  r.stmtList ss indented true
  let _ ← linebreak (← lineOf rbrace) 1 .ignore true
  tokenAt rbrace .rbrace

/-- Whether a list of results is indented as a whole: it has several elements over several lines, or one that does
not start on the line where the one before ends. -/
def indentList (xs : List Expr) : Print Bool := do
  let s ← get
  match xs with
  | x :: _ :: _ =>
    let first := s.lineOf x.start
    let last := s.lineOf ((xs.getLast?.getD x).stop)
    if last ≤ first then return false
    let (_, jumps, several) := xs.foldl (fun ((line, jumps, n) : Nat × Bool × Nat) x =>
      let b := s.lineOf x.start
      let e := s.lineOf x.stop
      (e, jumps || line < b, if b < e then n + 1 else n)) (first, false, 0)
    return jumps || 1 < several
  | _ => return false

/-! ## Declarations -/

/-- Writes the specification of an import. -/
def importSpec (n : Option Ident) (path : Ident) (stop : Nat) : Print Unit := do
  match n with
  | some n =>
    r.expr (.ident n)
    space .blank
  | none => pure ()
  r.expr (.literal path.offset .string path.name)
  setPos stop

/-- Writes a specification that stands alone or in a group of types or imports. -/
def spec (several doIndent : Bool) : Spec → Print Unit
  | .importSpec _ n path _ stop => r.importSpec n path stop
  | .valueSpec _ names type values _ => do
    r.identList names doIndent
    match type with
    | some t =>
      space .blank
      r.expr t
    | none => pure ()
    if !values.isEmpty then
      space .blank
      token .assign
      space .blank
      r.exprList {} values 1
  | .typeSpec _ n typeParams assign type _ => do
    r.expr (.ident n)
    match typeParams with
    | some l => r.parameters l .typeParams
    | none => pure ()
    space (if several then .softTab else .blank)
    if assign.isSome then
      token .assign
      space .blank
    r.expr type

/-- Whether each specification of a group keeps the column for types: a run of specifications with values does if
one of them has a type. -/
def keepTypeColumn (specs : List Spec) : List Bool :=
  let hasValues : Spec → Bool
    | .valueSpec _ _ _ vs _ => !vs.isEmpty
    | _ => false
  let hasType : Spec → Bool
    | .valueSpec _ _ t _ _ => t.isSome
    | _ => false
  (specs.splitBy fun a b => hasValues a && hasValues b).flatMap fun run =>
    run.map fun s => hasValues s && run.any hasType

/-- Writes a specification of constants or variables in a group. -/
def valueSpec (keepType : Bool) : Spec → Print Unit
  | .valueSpec _ names type values comment => do
    r.identList names false
    let mut extra := 3
    if type.isSome || keepType then
      space .softTab
      extra := extra - 1
    match type with
    | some t => r.expr t
    | none => pure ()
    if !values.isEmpty then
      space .softTab
      token .assign
      space .blank
      r.exprList {} values 1
      extra := extra - 1
    if comment.isSome then
      for _ in List.range extra do space .softTab
  | s => r.spec true false s

/-- Writes the specifications of a group, each on a line of its own. -/
def specLines : Bool → Nat → List (Spec × Print Unit) → Print Unit
  | _, _, [] => pure ()
  | first, line, (s, write) :: rest => do
    if !first then
      let _ ← linebreak (← lineOf s.start) 1 .ignore (← linesSince line)
    let mark ← withMark write
    specLines false (mark.getD line) rest

/-- Writes an import, constant, type or variable declaration. -/
def genDecl : GenDecl → Print Unit
  | .mk _ offset keyword lparen specs rparen => do
    tokenAt offset keyword
    space .blank
    match lparen, specs with
    | none, [s] => r.spec false true s
    | _, _ =>
      setPos? lparen
      token .lparen
      if !specs.isEmpty then
        space .indent
        space .formFeed
        let isValue := keyword == .kConst || keyword == .kVar
        let writes := if 1 < specs.length && isValue then
            (specs.zip (keepTypeColumn specs)).map fun (s, keep) => (s, r.valueSpec keep s)
          else specs.map fun s => (s, r.spec (1 < specs.length) false s)
        specLines true 0 writes
        space .unindent
        space .formFeed
      setPos? rparen
      token .rparen

/-! ## All statements -/

/-- The statements of a block, with its braces. -/
def blockParts : Stmt → Nat × List Stmt × Nat
  | .block l ss rb => (l, ss, rb.getD 0)
  | s => (s.start, [s], s.stop)

/-- Writes the body of a control statement. -/
def body (s : Stmt) : Print Unit :=
  let (l, ss, rb) := blockParts s
  r.block l ss rb true

def writeStmt (s : Stmt) (nextIsRbrace : Bool) : Print Unit := do
  setPos s.start
  match s with
  | .bad _ _ => literal .string "BadStmt"
  | .badDecl _ _ => literal .string "BadDecl"
  | .decl d => r.genDecl d
  | .empty _ _ => pure ()
  | .labeled label colon t =>
    space .unindent
    r.expr (.ident label)
    tokenAt colon .colon
    space .indent
    match t with
    | .empty o _ =>
      if nextIsRbrace then r.stmt t nextIsRbrace
      else
        space .newline
        tokenAt o .semicolon
    | _ =>
      let _ ← linebreak (← lineOf t.start) 1 .ignore true
      r.stmt t nextIsRbrace
  | .expr x => r.expr0 x 1
  | .send c arrow v =>
    r.expr0 c 1
    space .blank
    tokenAt arrow .arrow
    space .blank
    r.expr0 v 1
  | .incDec x o op =>
    r.expr0 x 2
    tokenAt o op
  | .assign lhs o op rhs =>
    let depth := if 1 < lhs.length && 1 < rhs.length then 2 else 1
    r.exprList { before := some s.start, after := some o } lhs depth
    space .blank
    tokenAt o op
    space .blank
    r.exprList { before := some o } rhs depth
  | .go _ c =>
    token .kGo
    space .blank
    r.expr c
  | .defer _ c =>
    token .kDefer
    space .blank
    r.expr c
  | .return _ xs =>
    token .kReturn
    if !xs.isEmpty then
      space .blank
      if ← indentList xs then
        space .indent
        r.exprList { noIndent := true } xs 1
        space .unindent
      else r.exprList {} xs 1
  | .branch _ k label =>
    token k
    match label with
    | some l =>
      space .blank
      r.expr (.ident l)
    | none => pure ()
  | .block l ss rb => r.block l ss (rb.getD 0) true
  | .ifElse _ init cond thenPart elsePart =>
    token .kIf
    r.controlClause false init (some cond) none
    r.body thenPart
    match elsePart with
    | some e =>
      space .blank
      token .kElse
      space .blank
      r.stmt e nextIsRbrace
    | none => pure ()
  | .caseClause _ isDefault values colon ss =>
    if isDefault then token .kDefault
    else
      token .kCase
      space .blank
      r.exprList { before := some s.start, after := some colon } values 1
    tokenAt colon .colon
    r.stmtList ss true nextIsRbrace
  | .switch _ init tag l clauses rb =>
    token .kSwitch
    r.controlClause false init tag none
    r.block l clauses rb false
  | .typeSwitch _ init guard l clauses rb =>
    token .kSwitch
    match init with
    | some i =>
      space .blank
      r.stmt i false
      token .semicolon
    | none => pure ()
    space .blank
    r.stmt guard false
    space .blank
    r.block l clauses rb false
  | .commClause _ comm colon ss =>
    match comm with
    | some c =>
      token .kCase
      space .blank
      r.stmt c false
    | none => token .kDefault
    tokenAt colon .colon
    r.stmtList ss true nextIsRbrace
  | .select _ l clauses rb =>
    token .kSelect
    space .blank
    let st ← get
    if clauses.isEmpty && !st.commentBefore (some (st.cursor rb)) then
      tokenAt l .lbrace
      tokenAt rb .rbrace
    else r.block l clauses rb false
  | .for _ init cond post b =>
    token .kFor
    r.controlClause true init cond post
    r.body b
  | .range _ key value op _ x b =>
    token .kFor
    space .blank
    match key, op with
    | some k, some (o, t) =>
      r.expr k
      match value with
      | some v =>
        setPos v.start
        token .comma
        space .blank
        r.expr v
      | none => pure ()
      space .blank
      tokenAt o t
      space .blank
    | _, _ => pure ()
    token .kRange
    space .blank
    r.expr (stripHeaderParens x)
    space .blank
    r.body b

/-- The rules up to a depth of nesting; nothing is written below it. -/
def ofDepth : Nat → Nodes
  | 0 => ⟨fun _ _ _ => pure (), fun _ _ => pure ()⟩
  | n + 1 =>
    let r := ofDepth n
    ⟨r.writeExpr, r.writeStmt⟩

/-! ## Files -/

/-- Writes a function declaration. -/
def funcDecl (offset : Nat) (receiver : Option FieldList) (n : Ident) (typeParams : Option FieldList)
    (params : FieldList) (results : Option FieldList) (body : Option Stmt) : Print Unit := do
  tokenAt offset .kFunc
  space .blank
  let startColumn := (← get).outColumn - 5
  match receiver with
  | some l =>
    r.parameters l .params
    space .blank
  | none => pure ()
  r.expr (.ident n)
  match typeParams with
  | some l => r.parameters l .funcTypeParams
  | none => pure ()
  r.signature params results
  match body with
  | some b =>
    let (l, ss, rb) := blockParts b
    r.funcBody (← distanceFrom offset startColumn) .softTab l ss rb
  | none => pure ()

/-- Writes a top-level declaration. -/
def decl : Decl → Print Unit
  | .bad s _ => do
    setPos s
    literal .string "BadDecl"
  | .gen d => r.genDecl d
  | .func _ o recv n tps ps rs body => r.funcDecl o recv n tps ps rs body

def keyword? : Decl → Option Token
  | .bad _ _ => none
  | .gen (.mk _ _ k _ _ _) => some k
  | .func .. => some .kFunc

def hasDoc : Decl → Bool
  | .bad _ _ => false
  | .gen (.mk doc _ _ _ _ _) => doc.isSome
  | .func doc _ _ _ _ _ _ _ => doc.isSome

/-- Writes declarations; a blank line stands before one with a comment or another keyword than the one before. -/
def declList : Option Token → List Decl → Print Unit
  | _, [] => pure ()
  | before, d :: ds => do
    let k := keyword? d
    if ← hasOutput then
      let least := if before != k || hasDoc d then 2 else 1
      let s ← get
      let spans := s.lineOf d.start != s.lineOf d.stop
      let _ ← linebreak (s.lineOf d.start) least .ignore (k == some .kFunc && spans)
    r.decl d
    declList k ds

def file (f : Source.File) : Print Unit := do
  tokenAt f.packageOffset .kPackage
  space .blank
  r.expr (.ident f.name)
  r.declList none f.decls
  space .newline

end Nodes

/-! ## Canonical layout -/

/-- The source file in canonical layout, or the faults that keep it from being read. -/
def format (src : Text) : Except (List Source.SyntaxFault) Text := do
  let file := Source.sourceFile [] 1 src
  match Source.File.attemptFlat file src with
  | (some tree, []) =>
    let rules := Nodes.ofDepth (2 * src.length + 10)
    return render (outputOf file true 0 tree.comments (rules.file tree))
  | (_, faults) => throw faults

end DocAccessors.Layout
