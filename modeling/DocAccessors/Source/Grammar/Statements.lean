import DocAccessors.Source.Grammar.Rules

/-!
# Rules of declarations and statements

Import, constant, type and variable declarations, and the statements of function bodies. `Rules.ofFuel` closes the
circle: the rules of each level of nesting, down to a level where reading stops.
-/

namespace DocAccessors.Source.Grammar.Rules

variable (r : Rules)

/-! ## Declarations -/

def importSpec (doc : Option CommentGroup) : Parse Spec := do
  let i ← current
  let name ← match i.token with
    | .ident => pure (some (← ident))
    | .period => do next; pure (some ⟨i.offset, "."⟩)
    | _ => pure none
  let p ← current
  let path ← if p.token == .string then do next; pure p.lit
    else if p.token.isLiteral then do
      fault p.offset "import path must be a string"
      next
      pure []
    else do
      fault p.offset "missing import path"
      advance exprEnd
      pure []
  let comment ← expectSemi
  return .importSpec doc name ⟨p.offset, path⟩ comment (p.offset + path.length)

/-- Constants or variables. -/
def valueSpec (keyword : Token) (doc : Option CommentGroup) : Parse Spec := do
  let name ← ident
  let more ← manyWhile (isAt .comma) (do next; ident) r.fuel
  let values : Parse (List Expr) := do
    if ← isAt .assign then
      next
      r.list true
    else return []
  let (type, values) ←
    if keyword == .kConst then
      if ← isAtAny [.eof, .semicolon, .rparen] then pure (none, [])
      else do
        let t ← r.type?
        pure (t, ← values)
    else do
      let t ← if ← isAt .assign then pure none else pure (some (← r.type))
      pure (t, ← values)
  let comment ← expectSemi
  return .valueSpec doc (name :: more) type values comment

def isTypeElem : Expr → Bool
  | .arrayType .. | .structType .. | .funcType .. | .interfaceType .. | .mapType .. | .chanType .. => true
  | .binary x _ _ y => isTypeElem x || isTypeElem y
  | .unary _ op _ => op == .tilde
  | .paren _ x _ => isTypeElem x
  | _ => false

/-- Splits an expression into a name and a constraint, when it can be read as the start of a type parameter
list; a lone name has no constraint. -/
def splitTypeParam (force : Bool) : Expr → Option (Ident × Option Expr)
  | .ident name => some (name, none)
  | .binary x o op y =>
    match op with
    | .mul => match x with
      | .ident name => if force || isTypeElem y then some (name, some (.star o y)) else none
      | _ => none
    | .or => match splitTypeParam (force || isTypeElem y) x with
      | some (name, some lhs) => some (name, some (.binary lhs o op y))
      | _ => none
    | _ => none
  | .call f lparen args ellipsis rparen =>
    match f, args, ellipsis with
    | .ident name, [x], none => if force || isTypeElem x then some (name, some (.paren lparen x rparen)) else none
    | _, _, _ => none
  | _ => none

def typeSpec (doc : Option CommentGroup) : Parse Spec := do
  let name ← ident
  let assign? : Parse (Option Nat) := do
    if ← isAt .assign then
      let o ← offset
      next
      return some o
    else return none
  let (params, assign, type) ←
    if ← isAt .lbrack then do
      let lbrack ← offset
      next
      if ← isAt .ident then do
        let id ← ident
        let x ← if ← isAt .lbrack then pure (.ident id) else nested do
          let x ← r.primary (some (.ident id))
          r.binaryRest 1 x r.fuel
        let comma ← isAt .comma
        let lone ← isAt .rbrack
        match splitTypeParam comma x with
        | some (pname, ptype) =>
          if ptype.isSome || !lone then do
            let fields ← r.paramList (some pname) ptype .rbrack false
            let rbrack ← expect .rbrack
            let assign ← assign?
            pure (some (FieldList.mk (some lbrack) fields (some rbrack)), assign, ← r.type)
          else pure (none, none, ← r.arrayType lbrack (some x))
        | none => pure (none, none, ← r.arrayType lbrack (some x))
      else pure (none, none, ← r.arrayType lbrack none)
    else do
      let assign ← assign?
      pure (none, assign, ← r.type)
  let comment ← expectSemi
  return .typeSpec doc name params assign type comment

/-- An import, constant, type or variable declaration. -/
def genDecl (keyword : Token) : Parse GenDecl := do
  let spec (doc : Option CommentGroup) : Parse Spec :=
    match keyword with
    | .kImport => importSpec doc
    | .kType => r.typeSpec doc
    | _ => r.valueSpec keyword doc
  let doc := (← current).lead
  let o ← expect keyword
  if ← isAt .lparen then
    let lparen ← offset
    next
    let specs ← manyWhile (return !(← isAtAny [.rparen, .eof])) (do spec (← current).lead) r.fuel
    let rparen ← expect .rparen
    let _ ← expectSemi
    return .mk doc o keyword (some lparen) specs (some rparen)
  else
    let s ← spec none
    return .mk doc o keyword none [s] none

/-! ## Statements -/

/-- What a simple statement may be. -/
inductive SimpleMode where
  | basic | labelOk | rangeOk
  deriving DecidableEq

def assignTokens : List Token :=
  [.define, .assign, .addAssign, .subAssign, .mulAssign, .quoAssign, .remAssign, .andAssign, .orAssign, .xorAssign,
    .shlAssign, .shrAssign, .andNotAssign]

/-- A simple statement, and whether it is a range clause. -/
def simpleStmt (mode : SimpleMode) : Parse (Stmt × Bool) := do
  let xs ← r.list false
  let i ← current
  if assignTokens.contains i.token then
    next
    let o ← offset
    if mode == .rangeOk && (← isAt .kRange) && (i.token == .define || i.token == .assign) then
      next
      let x ← r.rhs
      return (.assign xs i.offset i.token [.unary o .kRange x], true)
    else return (.assign xs i.offset i.token (← r.list true), false)
  let x := xs.head?.getD default
  if 1 < xs.length then faultExpected x.start "1 expression"
  match i.token with
  | .colon =>
    next
    match mode, x with
    | .labelOk, .ident label => return (.labeled label i.offset (← r.stmt), false)
    | _, _ =>
      fault i.offset "illegal label declaration"
      return (.bad x.start (i.offset + 1), false)
  | .arrow =>
    next
    return (.send x i.offset (← r.rhs), false)
  | .inc | .dec =>
    next
    return (.incDec x i.offset i.token, false)
  | _ => return (.expr x, false)

/-- The call of a `go` or `defer` statement. -/
def callExpr (what : Text) : Parse (Option Expr) := do
  let x ← r.rhs
  if isParen x then fault x.start (text "expression in " ++ what ++ text " must not be parenthesized")
  match x.unparen with
  | .call f l a e rp => return some (.call f l a e rp)
  | .bad .. => return none
  | y =>
    fault (min y.stop (← get).file.size) (text "expression in " ++ what ++ text " must be function call")
    return none

/-- The expression of a statement that must be one. -/
def asExpr (s : Option Stmt) (want : Text) : Parse (Option Expr) := do
  match s with
  | none => return none
  | some (.expr x) => return some x
  | some s =>
    let found := match s with
      | .assign .. => text "assignment"
      | _ => text "simple statement"
    fault s.start (text "expected " ++ want ++ text ", found " ++ found ++
      text " (missing parentheses around composite literal?)")
    return some (.bad s.start s.stop)

def ifHeader : Parse (Option Stmt × Expr) := do
  let start ← offset
  if ← isAt .lbrace then
    fault start "missing condition in if statement"
    return (none, .bad start start)
  withLevel (fun _ => -1) do
    let init ←
      if ← isAt .semicolon then pure none
      else do
        if ← isAt .kVar then
          next
          fault (← offset) "var declaration not allowed in if initializer"
        pure (some (← r.simpleStmt .basic).1)
    let (init, cond, semi) ←
      if ← isAt .lbrace then pure (none, init, none)
      else do
        let i ← current
        let semi ← if i.token == .semicolon then do next; pure (some i)
          else do
            let _ ← expect .semicolon
            pure none
        let cond ← if ← isAt .lbrace then pure none else pure (some (← r.simpleStmt .basic).1)
        pure (init, cond, semi)
    let x ← asExpr cond "boolean expression"
    match cond, semi with
    | none, some i =>
      if i.lit == text "\n" then fault i.offset "unexpected newline, expecting \x7b after if clause"
      else fault i.offset "missing condition in if statement"
    | _, _ => pure ()
    let o ← offset
    return (init, x.getD (.bad o o))

def ifRule : Parse Stmt := do
  let o ← expect .kIf
  let (init, cond) ← r.ifHeader
  let body ← r.block
  if ← isAt .kElse then
    next
    match ← token with
    | .kIf => return .ifElse o init cond body (some (← r.ifStmt))
    | .lbrace =>
      let b ← r.block
      let _ ← expectSemi
      return .ifElse o init cond body (some b)
    | _ =>
      let p ← offset
      faultExpected p "if statement or block"
      return .ifElse o init cond body (some (.bad p p))
  else
    let _ ← expectSemi
    return .ifElse o init cond body none

/-- A clause of a `switch` statement. -/
def caseClause : Parse Stmt := do
  let o ← offset
  let isDefault := !(← isAt .kCase)
  let values ← if isDefault then do
      let _ ← expect .kDefault
      pure []
    else do
      next
      r.list true
  let colon ← expect .colon
  return .caseClause o isDefault values colon (← r.stmtList)

/-- Whether a statement is the guard of a type switch. -/
def isTypeSwitchGuard (s : Option Stmt) : Parse Bool := do
  match s with
  | some (.expr (.assert _ _ none _)) => return true
  | some (.assign [_] o op [.assert _ _ none _]) =>
    match op with
    | .define => return true
    | .assign =>
      fault o "expected ':=', found '='"
      return true
    | _ => return false
  | _ => return false

def switchStmt : Parse Stmt := do
  let o ← expect .kSwitch
  let (init, tag) ←
    if ← isAt .lbrace then pure (none, none)
    else withLevel (fun _ => -1) do
      let s ← if ← isAt .semicolon then pure none else pure (some (← r.simpleStmt .basic).1)
      if ← isAt .semicolon then
        next
        let tag ← if ← isAt .lbrace then pure none else pure (some (← r.simpleStmt .basic).1)
        return (s, tag)
      else return (none, s)
  let isTypeSwitch ← isTypeSwitchGuard tag
  let lbrace ← expect .lbrace
  let clauses ← manyWhile (isAtAny [.kCase, .kDefault]) r.caseClause r.fuel
  let rbrace ← expect .rbrace
  let _ ← expectSemi
  match isTypeSwitch, tag with
  | true, some guard => return .typeSwitch o init guard lbrace clauses rbrace
  | _, _ => return .switch o init (← asExpr tag "switch expression") lbrace clauses rbrace

/-- A clause of a `select` statement. -/
def commClause : Parse Stmt := do
  let o ← offset
  let comm ←
    if ← isAt .kCase then do
      next
      let lhs ← r.list false
      let x := lhs.head?.getD default
      let i ← current
      match i.token with
      | .arrow =>
        if 1 < lhs.length then faultExpected x.start "1 expression"
        next
        pure (some (.send x i.offset (← r.rhs)))
      | .assign | .define =>
        if 2 < lhs.length then faultExpected x.start "1 or 2 expressions"
        next
        let y ← r.rhs
        pure (some (.assign (lhs.take 2) i.offset i.token [y]))
      | _ =>
        if 1 < lhs.length then faultExpected x.start "1 expression"
        pure (some (.expr x))
    else do
      let _ ← expect .kDefault
      pure none
  let colon ← expect .colon
  return .commClause o comm colon (← r.stmtList)

def selectStmt : Parse Stmt := do
  let o ← expect .kSelect
  let lbrace ← expect .lbrace
  let clauses ← manyWhile (isAtAny [.kCase, .kDefault]) r.commClause r.fuel
  let rbrace ← expect .rbrace
  let _ ← expectSemi
  return .select o lbrace clauses rbrace

/-- The header of a `for` statement: the three statements, and whether the second one is a range clause. -/
def forHeader : Parse (Option Stmt × Option Stmt × Option Stmt × Bool) := do
  if ← isAt .lbrace then return (none, none, none, false)
  withLevel (fun _ => -1) do
    let (s, isRange) ←
      if ← isAt .semicolon then pure (none, false)
      else if ← isAt .kRange then do
        let o ← offset
        next
        let x ← r.rhs
        pure (some (.assign [] o .kRange [.unary o .kRange x]), true)
      else do
        let (s, isRange) ← r.simpleStmt .rangeOk
        pure (some s, isRange)
    if !isRange && (← isAt .semicolon) then
      next
      let cond ← if ← isAt .semicolon then pure none else pure (some (← r.simpleStmt .basic).1)
      let _ ← expectSemi
      let post ← if ← isAt .lbrace then pure none else pure (some (← r.simpleStmt .basic).1)
      return (s, cond, post, false)
    else return (none, s, none, isRange)

def forStmt : Parse Stmt := do
  let o ← expect .kFor
  let (init, cond, post, isRange) ← r.forHeader
  let body ← r.block
  let _ ← expectSemi
  match isRange, cond with
  | true, some (.assign lhs p op [.unary q _ x]) =>
    match lhs with
    | [] => return .range o none none none q x body
    | [k] => return .range o (some k) none (some (p, op)) q x body
    | [k, v] => return .range o (some k) (some v) (some (p, op)) q x body
    | l =>
      faultExpected ((l.getLast?.map Expr.start).getD 0) "at most 2 expressions"
      return .bad o body.stop
  | _, _ => return .for o init (← asExpr cond "boolean or range expression") post body

/-- What a simple statement can start with. -/
def simpleStart : List Token :=
  [.ident, .int, .float, .imag, .char, .string, .kFunc, .lparen, .lbrack, .kStruct, .kMap, .kChan, .kInterface,
    .add, .sub, .mul, .and, .xor, .arrow, .not]

/-- A `go` or `defer` statement. -/
def callStmt (keyword : Token) : Parse Stmt := do
  let o ← expect keyword
  let call ← r.callExpr keyword.spelling
  let _ ← expectSemi
  match call with
  | none => return .bad o (o + keyword.spelling.length)
  | some c => return if keyword == .kGo then .go o c else .defer o c

def returnStmt : Parse Stmt := do
  let o ← expect .kReturn
  let xs ← if ← isAtAny [.semicolon, .rbrace] then pure [] else r.list true
  let _ ← expectSemi
  return .return o xs

/-- A statement that goes on elsewhere. -/
def branchStmt (keyword : Token) : Parse Stmt := do
  let o ← expect keyword
  let takesLabel := keyword == .kGoto || ((keyword == .kContinue || keyword == .kBreak) && (← isAt .ident))
  let label ← if takesLabel then pure (some (← ident)) else pure none
  let _ ← expectSemi
  return .branch o keyword label

def stmtRule : Parse Stmt := do
  let i ← current
  if simpleStart.contains i.token then
    match (← r.simpleStmt .labelOk).1 with
    | .labeled l c s => return .labeled l c s
    | s =>
      let _ ← expectSemi
      return s
  else match i.token with
    | .kConst | .kType | .kVar => return .decl (← r.genDecl i.token)
    | .kGo | .kDefer => r.callStmt i.token
    | .kReturn => r.returnStmt
    | .kBreak | .kContinue | .kGoto | .kFallthrough => branchStmt i.token
    | .lbrace =>
      let b ← r.block
      let _ ← expectSemi
      return b
    | .kIf => r.ifStmt
    | .kSwitch => r.switchStmt
    | .kSelect => r.selectStmt
    | .kFor => r.forStmt
    | .semicolon =>
      next
      return .empty i.offset (i.lit == text "\n")
    | .rbrace => return .empty i.offset true
    | _ =>
      faultExpected i.offset "statement"
      advance stmtStart
      return .bad i.offset (← offset)

/-! ## Closing the circle -/

/-- Gives up reading and keeps the faults. -/
def giveUp : Parse α := do throw (← get).faults

/-- The rules for constructs nested at most `depth` deep; `fuel` bounds the lists. -/
def ofDepth (fuel : Nat) : Nat → Rules
  | 0 => ⟨fuel, fun _ => giveUp, giveUp, giveUp, giveUp, giveUp, fun _ => giveUp⟩
  | depth + 1 =>
    let r := ofDepth fuel depth
    ⟨fuel, r.binaryRule, r.unaryRule, r.typeRule, r.stmtRule, r.ifRule, r.literalValueRule⟩

/-! ## Files -/

/-- A function or method. -/
def funcDecl : Parse Decl := do
  let doc := (← current).lead
  let o ← expect .kFunc
  let receiver ← if ← isAt .lparen then pure (some (← r.parameters true)) else pure none
  let name ← ident
  let tparams ← r.typeParameters
  let params ← r.parameters true
  let results ← r.result
  let body ← match ← token with
    | .lbrace => do
      let b ← r.block
      let _ ← expectSemi
      pure (some b)
    | .semicolon => do
      next
      if ← isAt .lbrace then
        fault (← offset) "unexpected semicolon or newline before \x7b"
        let b ← r.block
        let _ ← expectSemi
        pure (some b)
      else pure none
    | _ => do
      let _ ← expectSemi
      pure none
  return .func doc o receiver name tparams params results body

/-- A top-level declaration. -/
def decl : Parse Decl := do
  let i ← current
  match i.token with
  | .kImport | .kConst | .kVar | .kType => return .gen (← r.genDecl i.token)
  | .kFunc => r.funcDecl
  | _ =>
    faultExpected i.offset "declaration"
    advance declStart
    return .bad i.offset (← offset)

/-- The declarations after the imports; `last` is the token that the one before started with. -/
def declsFrom (last : Token) : Nat → Parse (List Decl)
  | 0 => return []
  | fuel + 1 => do
    let i ← current
    if i.token == .eof then return []
    if i.token == .kImport && last != .kImport then
      fault i.offset "imports must appear before other declarations"
    let d ← r.decl
    return d :: (← declsFrom i.token fuel)

/-- Stops when a fault has been found. -/
def stopIfFaulty : Parse Unit := do
  let s ← get
  if !s.faults.isEmpty then throw s.faults

def file (comments : List CommentGroup) : Parse File := do
  stopIfFaulty
  let doc := (← current).lead
  let o ← expect .kPackage
  let name ← ident
  let _ ← expectSemi
  stopIfFaulty
  let imports ← manyWhile (isAt .kImport) (return .gen (← r.genDecl .kImport)) r.fuel
  let decls ← r.declsFrom .kImport r.fuel
  return ⟨doc, o, name, imports ++ decls, comments⟩

/-- An expression and nothing else. -/
def wholeExpr : Parse Expr := do
  let x ← r.rhs
  if Item.isLineBreak (← current) then next
  let _ ← expect .eof
  return x

end DocAccessors.Source.Grammar.Rules
