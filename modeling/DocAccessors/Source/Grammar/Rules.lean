import DocAccessors.Source.Grammar.Basic

/-!
# Rules of expressions and types

Every rule may need rules of the same or another kind for its parts. `Rules` is a set of such rules; the functions
of this module build the rules of one level of nesting from the rules of the level below.

* types: names, arrays, structs, functions, interfaces, maps, channels, parameter lists;
* expressions: operands, selectors, indices, calls, literals, unary and binary operators.
-/

namespace DocAccessors.Source.Grammar

/-- The rules for the parts of a construct, and how often a list may go on. -/
structure Rules where
  fuel : Nat
  /-- An expression whose operators bind at least as strongly as a number says. -/
  binary : Nat → Parse Expr
  unary : Parse Expr
  /-- A type, if there is one. -/
  type? : Parse (Option Expr)
  stmt : Parse Stmt
  ifStmt : Parse Stmt
  /-- The values between braces of a composite literal of a type. -/
  literalValue : Option Expr → Parse Expr

namespace Rules

variable (r : Rules)

def expr : Parse Expr := r.binary 1

/-- An expression on the right of an assignment. -/
def rhs : Parse Expr := withRhs true r.expr

/-- Expressions with commas between them. -/
def exprList : Parse (List Expr) := do
  let x ← r.expr
  let xs ← manyWhile (isAt .comma) (do next; r.expr) r.fuel
  return x :: xs

/-- Expressions on the left or right of an assignment. -/
def list (rhs : Bool) : Parse (List Expr) := withRhs rhs r.exprList

/-! ## Types -/

def type : Parse Expr := do
  match ← r.type? with
  | some t => return t
  | none =>
    let start ← offset
    faultExpected start "type"
    advance exprEnd
    return .bad start (← offset)

/-- A name, or a name of another package. -/
def typeName (name : Option Ident) : Parse Expr := do
  let id ← match name with
    | some id => pure id
    | none => ident
  if ← isAt .period then
    next
    return .selector (.ident id) (← ident)
  return .ident id

/-- Type arguments between brackets. -/
def typeInstance (t : Expr) : Parse Expr := do
  let opening ← expect .lbrack
  let args ← nested (listUntil "type argument list" .rbrack r.type r.fuel)
  let closing ← expectClosing .rbrack "type argument list"
  if args.isEmpty then
    faultExpected closing "type argument list"
    return .index t opening [.bad (opening + 1) closing] closing
  return .index t opening args closing

/-- A type name, possibly with type arguments. -/
def qualifiedName (name : Option Ident) : Parse Expr := do
  let t ← typeName name
  if ← isAt .lbrack then r.typeInstance t else return t

/-- The rest of an array type after its opening bracket; the length may have been read. -/
def arrayType (lbrack : Nat) (length : Option Expr) : Parse Expr := do
  let length ← match length with
    | some n => pure (some n)
    | none => nested do
      match ← token with
      | .ellipsis =>
        let o ← offset
        next
        return some (.ellipsis o none)
      | .rbrack => return none
      | _ => return some (← r.rhs)
  if ← isAt .comma then
    fault (← offset) "unexpected comma; expecting ]"
    next
  let _ ← expect .rbrack
  return .arrayType lbrack length (← r.type)

/-- After a name and at a bracket: an array type of that name, or type arguments of it. The name is kept in the
first case only. -/
def arrayOrInstance (name : Ident) : Parse (Option Ident × Expr) := do
  let lbrack ← expect .lbrack
  let (args, trailing) ← nested do
    if ← isAt .rbrack then return ([], none)
    let x ← r.rhs
    let rec more (fuel : Nat) : Parse (List Expr × Option Nat) := do
      match fuel with
      | 0 => return ([], none)
      | fuel + 1 =>
        if ← isAt .comma then
          let comma ← offset
          next
          if ← isAt .rbrack then return ([], some comma)
          let y ← r.rhs
          let (ys, t) ← more fuel
          return (y :: ys, t)
        else return ([], none)
    let (xs, t) ← more r.fuel
    return (x :: xs, t)
  let rbrack ← expect .rbrack
  match args with
  | [] => return (some name, .arrayType lbrack none (← r.type))
  | [x] =>
    match ← r.type? with
    | some element =>
      if let some comma := trailing then fault comma "unexpected comma; expecting ]"
      return (some name, .arrayType lbrack (some x) element)
    | none => return (none, .index (.ident name) lbrack [x] rbrack)
  | xs => return (none, .index (.ident name) lbrack xs rbrack)

/-- An embedded type between parentheses, which is not allowed; `p` reads the type. -/
def parenthesized (p : Parse Expr) : Parse Expr := do
  fault (← offset) "cannot parenthesize embedded type"
  next
  let t ← p
  if ← isAt .rparen then next
  return t

def fieldDecl : Parse Field := do
  let doc := (← current).lead
  let pointer (inner : Parse Expr) : Parse Expr := do
    let star ← offset
    next
    return .star star (← inner)
  let (names, type) ← match ← token with
    | .ident =>
      let name ← ident
      if ← isAtAny [.period, .string, .semicolon, .rbrace] then
        let t ← if ← isAt .period then r.qualifiedName (some name) else pure (.ident name)
        pure ([], t)
      else
        let more ← manyWhile (isAt .comma) (do next; ident) r.fuel
        if more.isEmpty && (← isAt .lbrack) then
          let (kept, t) ← r.arrayOrInstance name
          pure (kept.toList, t)
        else pure (name :: more, ← r.type)
    | .mul =>
      let t ← pointer do
        if ← isAt .lparen then parenthesized (r.qualifiedName none) else r.qualifiedName none
      pure ([], t)
    | .lparen =>
      let t ← parenthesized do
        if ← isAt .mul then pointer (r.qualifiedName none) else r.qualifiedName none
      pure ([], t)
    | _ =>
      let start ← offset
      faultExpected start "field name or embedded type"
      advance exprEnd
      pure ([], .bad start (← offset))
  let i ← current
  let tag ← if i.token == .string then do next; pure (some ⟨i.offset, i.lit⟩) else pure none
  let comment ← expectSemi
  return .mk doc names type tag comment

def structType : Parse Expr := do
  let o ← expect .kStruct
  let lbrace ← expect .lbrace
  let fields ← manyWhile (isAtAny [.ident, .mul, .lparen]) r.fieldDecl r.fuel
  let rbrace ← expect .rbrace
  return .structType o (.mk (some lbrace) fields (some rbrace))

def pointerType : Parse Expr := do
  let star ← expect .mul
  return .star star (← r.type)

/-- The type of a variadic parameter. -/
def dotsType : Parse Expr := do
  let o ← expect .ellipsis
  return .ellipsis o (some (← r.type))

/-- A type of a union: `T` or `~T`. -/
def embeddedTerm : Parse Expr := do
  let start ← offset
  if ← isAt .tilde then
    next
    return .unary start .tilde (← r.type)
  match ← r.type? with
  | some t => return t
  | none =>
    faultExpected start "~ term or type"
    advance exprEnd
    return .bad start (← offset)

/-- The rest of a union after a type. -/
def unionRest (x : Expr) : Nat → Parse Expr
  | 0 => return x
  | fuel + 1 => do
    if ← isAt .or then
      let o ← offset
      next
      let y ← r.embeddedTerm
      unionRest (.binary x o .or y) fuel
    else return x

/-- A union of types; the first one may have been read. -/
def embeddedElem (x : Option Expr) : Parse Expr := do
  let x ← match x with
    | some x => pure x
    | none => r.embeddedTerm
  r.unionRest x r.fuel

/-! ### Parameters -/

/-- An entry of a parameter list before it is known which entries are names. -/
structure Param where
  name : Option Ident
  type : Option Expr

/-- What a type can start with when it is not a name. -/
def typeStart : List Token := [.mul, .arrow, .kFunc, .kChan, .kMap, .kStruct, .kInterface, .lparen]

/-- An entry of a parameter list; its name may have been read. Type parameter lists have unions. -/
def paramDecl (name : Option Ident) (unions : Bool) : Parse Param := do
  let finish (p : Param) : Parse Param := do
    match p.type with
    | some t => if unions && (← isAt .or) then return { p with type := some (← r.embeddedElem (some t)) } else return p
    | none => return p
  if name.isNone && unions && (← isAt .tilde) then return ⟨none, some (← r.embeddedElem none)⟩
  if name.isSome || (← isAt .ident) then
    let id ← match name with
      | some id => pure id
      | none => ident
    let t ← token
    if t == .ident || typeStart.contains t then finish ⟨some id, some (← r.type)⟩
    else match t with
      | .lbrack =>
        let (kept, t) ← r.arrayOrInstance id
        finish ⟨kept, some t⟩
      | .ellipsis => return ⟨some id, some (← r.dotsType)⟩
      | .period => finish ⟨none, some (← r.qualifiedName (some id))⟩
      | .tilde => if unions then return ⟨some id, some (← r.embeddedElem none)⟩ else return ⟨some id, none⟩
      | .or =>
        if unions then return ⟨none, some (← r.embeddedElem (some (.ident id)))⟩ else return ⟨some id, none⟩
      | _ => return ⟨some id, none⟩
  else
    let t ← token
    if t == .lbrack || typeStart.contains t then finish ⟨none, some (← r.type)⟩
    else if t == .ellipsis then return ⟨none, some (← r.dotsType)⟩
    else
      faultExpected (← offset) "')'"
      advance exprEnd
      return ⟨none, none⟩

/-- The entries of a parameter list. -/
def params (unions : Bool) (closing : Token) (name0 : Option Ident) (type0 : Option Expr) :
    Nat → Parse (List Param)
  | 0 => return []
  | fuel + 1 => do
    if name0.isNone && ((← isAt closing) || (← isAt .eof)) then return []
    let p ← match type0 with
      | some t => do
        let t ← if unions then r.embeddedElem (some t) else pure t
        pure ⟨name0, some t⟩
      | none => r.paramDecl name0 unions
    let here := if p.name.isNone && p.type.isNone then [] else [p]
    if ← atComma "parameter list" closing then
      next
      return here ++ (← params unions closing none none fuel)
    else return here

/-- A parameter with name and type; `shares` when it has its type from the entry after it. -/
structure TypedParam where
  name : Ident
  type : Expr
  shares : Bool

/-- Gives each entry a name and a type, from right to left: an entry that is only a name has the type of the
entry after it. With them the offset of the leftmost entry that lacks a name or a type. -/
def distribute (stop : Nat) : List Param → List TypedParam × Option Expr × Option Nat
  | [] => ([], none, none)
  | p :: ps =>
    let (rest, later, bad) := distribute stop ps
    match p.type, p.name with
    | some t, some n => (⟨n, t, false⟩ :: rest, some t, bad)
    | some t, none => (⟨⟨t.start, "_"⟩, t, false⟩ :: rest, some t, some t.start)
    | none, n =>
      let n := n.getD ⟨0, "_"⟩
      match later with
      | some t => (⟨n, t, true⟩ :: rest, later, bad)
      | none => (⟨n, .bad n.offset stop, false⟩ :: rest, later, some n.offset)

/-- Entries that share a type become one field. -/
def groupParams (names : List Ident) : List TypedParam → List Field
  | [] => []
  | p :: ps =>
    if p.shares then groupParams (names ++ [p.name]) ps
    else .mk none (names ++ [p.name]) p.type none none :: groupParams [] ps

def dots? : Expr → Option Nat
  | .ellipsis o (some _) => some o
  | _ => none

/-- The offset of the first `...` that is out of place: only the last entry may be variadic, and only if
`dotsOk`. -/
def misplacedDots? (dotsOk : Bool) : List Expr → Option Nat
  | [] => none
  | [t] => if dotsOk then none else dots? t
  | t :: ts => (dots? t).or (misplacedDots? dotsOk ts)

/-- A parameter list up to its closing token; `dotsOk` tells whether the last parameter may be variadic. -/
def paramList (name0 : Option Ident) (type0 : Option Expr) (closing : Token) (dotsOk : Bool) :
    Parse (List Field) := do
  let typeParams := closing == .rbrack
  let start ← match name0, type0 with
    | some n, _ => pure n.offset
    | none, some t => pure t.start
    | none, none => offset
  let ps ← r.params typeParams closing name0 type0 r.fuel
  if ps.isEmpty then return []
  let checkDots (types : List Expr) : Parse Unit := do
    if let some o := misplacedDots? dotsOk types then
      fault o (if dotsOk then text "can only use ... with final parameter" else text "invalid use of ...")
  let named := (ps.filter fun p => p.name.isSome && p.type.isSome).length
  let typed := (ps.filter fun p => p.type.isSome).length
  let lackingName := if ps.length == 1 then text "missing type parameter name or invalid array length"
    else text "missing type parameter name"
  let stop ← offset
  if named == 0 then
    if typeParams then
      if named == typed then fault stop "missing type constraint" else fault start lackingName
    let types := ps.map fun p => p.type.getD (.ident (p.name.getD ⟨0, "_"⟩))
    checkDots types
    return types.map fun t => .mk none [] t none none
  let (tps, _, bad) := distribute stop ps
  if named != ps.length then
    if let some o := bad then
      match typeParams, named == typed with
      | true, true => fault stop "missing type constraint"
      | true, false => fault o lackingName
      | false, true => fault stop "missing parameter type"
      | false, false => fault o "missing parameter name"
  checkDots (tps.map (·.type))
  return groupParams [] tps

def typeParameters : Parse (Option FieldList) := do
  if ← isAt .lbrack then
    let opening ← offset
    next
    let fields ← if ← isAt .rbrack then pure [] else r.paramList none none .rbrack false
    let closing ← expect .rbrack
    if fields.isEmpty then
      fault closing "empty type parameter list"
      return none
    return some (.mk (some opening) fields (some closing))
  else return none

/-- Parameters between parentheses. -/
def parameters (dotsOk : Bool) : Parse FieldList := do
  let opening ← expect .lparen
  let fields ← if ← isAt .rparen then pure [] else r.paramList none none .rparen dotsOk
  let closing ← expect .rparen
  return .mk (some opening) fields (some closing)

/-- The results of a function, if it has any. -/
def result : Parse (Option FieldList) := do
  if ← isAt .lparen then return some (← r.parameters false)
  match ← r.type? with
  | some t => return some (.mk none [.mk none [] t none none] none)
  | none => return none

def funcType : Parse Expr := do
  let o ← expect .kFunc
  if let some l ← r.typeParameters then fault l.start "function type must have no type parameters"
  let params ← r.parameters true
  return .funcType (some o) params (← r.result)

/-- A method of an interface, or the start of an embedded type. -/
def methodSpec : Parse Field := do
  let doc := (← current).lead
  let method (id : Ident) : Parse Field := do
    let params ← r.parameters true
    return .mk doc [id] (.funcType none params (← r.result)) none none
  match ← typeName none with
  | .ident id =>
    match ← token with
    | .lbrack =>
      let lbrack ← offset
      next
      let x ← nested r.expr
      let generic := match x with
        | .ident name => some name
        | _ => none
      match generic, ← isAtAny [.comma, .rbrack] with
      | some name, false =>
        let _ ← r.paramList (some name) none .rbrack false
        let _ ← expect .rbrack
        fault lbrack "interface method must have no type parameters"
        method id
      | _, _ =>
        let more ←
          if ← atComma "type argument list" .rbrack then
            nested do
              next
              listUntil "type argument list" .rbrack r.type r.fuel
          else pure []
        let rbrack ← expectClosing .rbrack "type argument list"
        return .mk doc [] (.index (.ident id) lbrack (x :: more) rbrack) none none
    | .lparen => method id
    | _ => return .mk doc [] (.ident id) none none
  | t => return .mk doc [] (← if ← isAt .lbrack then r.typeInstance t else pure t) none none

/-- The methods and embedded types of an interface. -/
def interfaceElems : Nat → Parse (List Field)
  | 0 => return []
  | fuel + 1 => do
    let embedded (t : Expr) : Parse Field := do
      let comment ← expectSemi
      return .mk none [] t none comment
    match ← token with
    | .ident =>
      let f ← r.methodSpec
      let t ← if f.names.isEmpty then r.embeddedElem (some f.type) else pure f.type
      let comment ← expectSemi
      return .mk f.doc f.names t none comment :: (← interfaceElems fuel)
    | .tilde =>
      let f ← embedded (← r.embeddedElem none)
      return f :: (← interfaceElems fuel)
    | _ =>
      match ← r.type? with
      | some t =>
        let f ← embedded (← r.embeddedElem (some t))
        return f :: (← interfaceElems fuel)
      | none => return []

def interfaceType : Parse Expr := do
  let o ← expect .kInterface
  let lbrace ← expect .lbrace
  let elems ← r.interfaceElems r.fuel
  let rbrace ← expect .rbrace
  return .interfaceType o (.mk (some lbrace) elems (some rbrace))

def mapType : Parse Expr := do
  let o ← expect .kMap
  let _ ← expect .lbrack
  let key ← r.type
  let _ ← expect .rbrack
  return .mapType o key (← r.type)

def chanType : Parse Expr := do
  let o ← offset
  if ← isAt .kChan then
    next
    if ← isAt .arrow then
      let arrow ← offset
      next
      return .chanType o (some arrow) .send (← r.type)
    return .chanType o none .both (← r.type)
  let arrow ← expect .arrow
  let _ ← expect .kChan
  return .chanType o (some arrow) .receive (← r.type)

def typeRule : Parse (Option Expr) := do
  match ← token with
  | .ident =>
    let t ← typeName none
    return some (← if ← isAt .lbrack then r.typeInstance t else pure t)
  | .lbrack =>
    let lbrack ← expect .lbrack
    return some (← r.arrayType lbrack none)
  | .kStruct => return some (← r.structType)
  | .mul => return some (← r.pointerType)
  | .kFunc => return some (← r.funcType)
  | .kInterface => return some (← r.interfaceType)
  | .kMap => return some (← r.mapType)
  | .kChan | .arrow => return some (← r.chanType)
  | .lparen =>
    let lparen ← offset
    next
    let t ← r.type
    let rparen ← expect .rparen
    return some (.paren lparen t rparen)
  | _ => return none

/-! ## Expressions -/

/-- The statements of a block. -/
def stmtList : Parse (List Stmt) :=
  manyWhile (return !(← isAtAny [.kCase, .kDefault, .rbrace, .eof])) r.stmt r.fuel

def block : Parse Stmt := do
  let lbrace ← expect .lbrace
  let stmts ← r.stmtList
  let rbrace ← expect? .rbrace
  return .block lbrace stmts rbrace

/-- A function type, or a function literal when a body follows. -/
def funcTypeOrLit : Parse Expr := do
  let t ← r.funcType
  if ← isAt .lbrace then
    match ← nested r.block with
    | .block lbrace stmts rbrace => return .funcLit t lbrace stmts rbrace
    | _ => return t
  else return t

def operand : Parse Expr := do
  let i ← current
  match i.token with
  | .ident => return .ident (← ident)
  | .int | .float | .imag | .char | .string =>
    next
    return .literal i.offset i.token i.lit
  | .lparen =>
    next
    let x ← nested r.rhs
    let rparen ← expect .rparen
    return .paren i.offset x rparen
  | .kFunc => r.funcTypeOrLit
  | _ =>
    match ← r.type? with
    | some t => return t
    | none =>
      faultExpected i.offset "operand"
      advance stmtStart
      return .bad i.offset (← offset)

/-- A type assertion after its dot. -/
def typeAssertion (x : Expr) : Parse Expr := do
  let lparen ← expect .lparen
  let t ← if ← isAt .kType then do next; pure none else pure (some (← r.type))
  let rparen ← expect .rparen
  return .assert x lparen t rparen

/-- The bounds of a slice after the first one: the offsets of the colons, each with the bound after it. -/
def sliceBounds : Nat → Parse (List (Nat × Option Expr))
  | 0 => return []
  | n + 1 => do
    if ← isAt .colon then
      let colon ← offset
      next
      let bound ← if ← isAtAny [.colon, .rbrack, .eof] then pure none else pure (some (← r.rhs))
      return (colon, bound) :: (← sliceBounds n)
    else return []

/-- An index, a slice or type arguments. -/
def indexOrSlice (x : Expr) : Parse Expr := do
  let lbrack ← expect .lbrack
  if ← isAt .rbrack then
    let rbrack ← offset
    faultExpected rbrack "operand"
    next
    return .index x lbrack [.bad rbrack rbrack] rbrack
  let (first, bounds, args) ← nested do
    let first ← if ← isAt .colon then pure none else pure (some (← r.rhs))
    match ← token with
    | .colon => return (first, ← r.sliceBounds 2, [])
    | .comma =>
      let more ← manyWhile (isAt .comma) (do
        next
        if ← isAtAny [.rbrack, .eof] then return none else return some (← r.type)) r.fuel
      return (first, [], first.toList ++ more.filterMap id)
    | _ => return (first, [], [])
  let rbrack ← expect .rbrack
  match bounds with
  | [(_, high)] => return .slice x lbrack first high none false rbrack
  | [(c1, high), (c2, max)] =>
    if high.isNone then fault c1 "middle index required in 3-index slice"
    if max.isNone then fault c2 "final index required in 3-index slice"
    return .slice x lbrack first (high.or (some (.bad (c1 + 1) c2))) (max.or (some (.bad (c2 + 1) rbrack))) true rbrack
  | _ => return .index x lbrack (if args.isEmpty then first.toList else args) rbrack

/-- The arguments of a call, up to one that is spread. -/
def callArgs : Nat → Parse (List Expr × Option Nat)
  | 0 => return ([], none)
  | fuel + 1 => do
    if (← isAt .rparen) || (← isAt .eof) then return ([], none)
    let x ← r.rhs
    let dots ← if ← isAt .ellipsis then do
        let o ← offset
        next
        pure (some o)
      else pure none
    if ← atComma "argument list" .rparen then
      next
      if dots.isSome then return ([x], dots)
      let (xs, d) ← callArgs fuel
      return (x :: xs, d)
    else return ([x], dots)

def callOrConversion (f : Expr) : Parse Expr := do
  let lparen ← expect .lparen
  let (args, dots) ← nested (r.callArgs r.fuel)
  let rparen ← expectClosing .rparen "argument list"
  return .call f lparen args dots rparen

/-- A value of a composite literal. -/
def value : Parse Expr := do
  if ← isAt .lbrace then r.literalValue none else r.expr

/-- An element of a composite literal. -/
def element : Parse Expr := do
  let x ← r.value
  if ← isAt .colon then
    let colon ← offset
    next
    return .keyValue x colon (← r.value)
  return x

/-- The values between braces of a composite literal. -/
def literalValueRule (type : Option Expr) : Parse Expr := do
  let lbrace ← expect .lbrace
  let elements ← nested (listUntil "composite literal" .rbrace r.element r.fuel)
  let rbrace ← expectClosing .rbrace "composite literal"
  return .composite type lbrace elements rbrace

/-- Whether a brace after an expression opens a composite literal. -/
def opensLiteral (x : Expr) (level : Int) : Bool :=
  match x.unparen with
  | .bad .. | .ident .. | .selector .. | .index .. => 0 ≤ level
  | .arrayType .. | .structType .. | .mapType .. => true
  | _ => false

/-- Whether an expression stands between parentheses. -/
def isParen : Expr → Bool
  | .paren .. => true
  | _ => false

def primaryRest (x : Expr) : Nat → Parse Expr
  | 0 => return x
  | fuel + 1 => do
    match ← token with
    | .period =>
      next
      match ← token with
      | .ident => primaryRest (.selector x (← ident)) fuel
      | .lparen => primaryRest (← r.typeAssertion x) fuel
      | t =>
        let o ← offset
        faultExpected o "selector or type assertion"
        if t != .rbrace then next
        primaryRest (.selector x ⟨o, "_"⟩) fuel
    | .lbrack => primaryRest (← r.indexOrSlice x) fuel
    | .lparen => primaryRest (← r.callOrConversion x) fuel
    | .lbrace =>
      if opensLiteral x (← get).level then
        if isParen x then fault x.unparen.start "cannot parenthesize type in composite literal"
        primaryRest (← r.literalValue (some x)) fuel
      else return x
    | _ => return x

/-- An operand with what follows it. -/
def primary (x : Option Expr) : Parse Expr := do
  let x ← match x with
    | some x => pure x
    | none => r.operand
  r.primaryRest x r.fuel

/-- Moves an arrow into a channel type that was read after it: `<-` before `chan T` makes it a receiving
channel, and an arrow behind `chan` moves on to the element type. The result is the type, with the offset where
an element type that can take the arrow is lacking. -/
def pushArrow (arrow : Nat) : Expr → Parse Expr
  | .chanType _ a dir value => do
    if dir == .receive then faultExpected (a.getD 0) "'chan'"
    if dir == .send then
      match value with
      | .chanType .. => return .chanType arrow (some arrow) .receive (← pushArrow (a.getD 0) value)
      | _ =>
        faultExpected (a.getD 0) "channel type"
        return .chanType arrow (some arrow) .receive value
    else return .chanType arrow (some arrow) .receive value
  | x => return x

/-- An expression with its unary operators. -/
def unaryRule : Parse Expr := do
  let i ← current
  match i.token with
  | .add | .sub | .not | .xor | .and | .tilde =>
    next
    return .unary i.offset i.token (← r.unary)
  | .arrow =>
    next
    match ← r.unary with
    | .chanType o a d v => pushArrow i.offset (.chanType o a d v)
    | x => return .unary i.offset .arrow x
  | .mul =>
    next
    return .star i.offset (← r.unary)
  | _ => r.primary none

def operator : Parse Token := do
  let t ← token
  return if (← get).inRhs && t == .assign then .eql else t

/-- The operators and operands after an expression, as long as they bind at least as strongly as `prec`. -/
def binaryRest (prec : Nat) (x : Expr) : Nat → Parse Expr
  | 0 => return x
  | fuel + 1 => do
    let op ← operator
    if op.precedence < prec then return x
    let o ← expect op
    let y ← r.binary (op.precedence + 1)
    binaryRest prec (.binary x o op y) fuel

/-- An expression whose operators bind at least as strongly as `prec`. -/
def binaryRule (prec : Nat) : Parse Expr := do
  let x ← r.unary
  r.binaryRest prec x r.fuel

end Rules

end DocAccessors.Source.Grammar
