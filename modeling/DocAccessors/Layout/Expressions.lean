import DocAccessors.Layout.Printer
import DocAccessors.Number.Basic
import DocAccessors.Source.Tree

/-!
# Layout of expressions

How expressions and types are written: blanks around operators follow the binding strength and the nesting, lists
keep the line breaks of the source, and the keys of consecutive entries are aligned as long as their sizes are
comparable.

`Nodes` holds the two rules that the others refer back to, for expressions and for statements, so that each rule is
a plain function of them.
-/

namespace DocAccessors.Layout

open DocAccessors.Source (Token Expr Field FieldList Ident Stmt)

/-- The rules for expressions and statements that other rules refer to. -/
structure Nodes where
  /-- An expression that stands where operators bind with a strength, at a depth of nesting. -/
  expr1 : Expr → Nat → Nat → Print Unit
  /-- A statement, and whether a closing brace comes next. -/
  stmt : Stmt → Bool → Print Unit

namespace Nodes

/-- The binding strength of unary operators. -/
def unaryPrec : Nat := 6

/-- The binding strength of selectors, indices and calls. -/
def highestPrec : Nat := 7

/-! ## Numbers -/

/-- The text with the last occurrence of a byte replaced. -/
def replaceLast (b c : UInt8) (t : Text) : Text :=
  match Text.lastIndexOf? t b with
  | some i => t.set i c
  | none => t

/-- A number in its canonical spelling: small letters for bases and exponents, and no leading zeros in an imaginary
integer. -/
def canonicalNumber (t : Text) : Text :=
  match t with
  | 48 :: 88 :: r => replaceLast 80 112 (48 :: 120 :: r)
  | 48 :: 120 :: r => replaceLast 80 112 (48 :: 120 :: r)
  | 48 :: 79 :: r => 48 :: 111 :: r
  | 48 :: 66 :: r => 48 :: 98 :: r
  | 48 :: 111 :: _ | 48 :: 98 :: _ => t
  | _ =>
    if t.any (· == 69) then replaceLast 69 101 t
    else if t.length < 2 || t.getLast? != some 105 || t.any (fun b => b == 46 || b == 101) then t
    else match t.dropWhile fun b => b == 48 || b == 95 with
      | [105] => "0i"
      | r => r

def isNumber : Token → Bool
  | .int | .float | .imag => true
  | _ => false

/-! ## Binary expressions -/

/-- What a binary expression holds outside parentheses: operators of strength 4, of strength 5, and the strength up
to which blanks are needed so that operators do not run together. -/
structure BinaryShape where
  has4 : Bool := false
  has5 : Bool := false
  problem : Nat := 0

/-- What two binary expressions hold together. -/
def BinaryShape.union (a b : BinaryShape) : BinaryShape := ⟨a.has4 || b.has4, a.has5 || b.has5, max a.problem b.problem⟩

def binaryPrec? : Expr → Option Nat
  | .binary _ _ op _ => some op.precedence
  | _ => none

/-- The strength up to which blanks are needed between an operator and its right operand. -/
def operandProblem (op : Token) : Expr → Nat
  | .star _ _ => if op == .quo then 5 else 0
  | .unary _ uop _ =>
    match op, uop with
    | .quo, .mul | .and, .and | .and, .xor => 5
    | .add, .add | .sub, .sub => 4
    | _, _ => 0
  | _ => 0

/-- What a binary expression holds. -/
def binaryShape : Expr → BinaryShape
  | .binary x _ op y =>
    let prec := op.precedence
    let own : BinaryShape := { has4 := prec == 4, has5 := prec == 5, problem := operandProblem op y }
    let left := if (binaryPrec? x).any (prec ≤ ·) then binaryShape x else {}
    let right := if (binaryPrec? y).any (prec < ·) then binaryShape y else {}
    (own.union left).union right
  | _ => {}

/-- Operators that bind less strongly than this have blanks around them. -/
def cutoff (x : Expr) (depth : Nat) : Nat :=
  let s := binaryShape x
  if 0 < s.problem then s.problem + 1
  else if s.has4 && s.has5 then (if depth = 1 then 5 else 4)
  else if depth = 1 then 6 else 4

/-- Parentheses undo one level of nesting. -/
def reduceDepth (depth : Nat) : Nat := max 1 (depth - 1)

/-- The expression inside all parentheses. -/
def stripParens (x : Expr) : Expr := x.unparen

variable (r : Nodes)

/-- An expression inside others. -/
def expr0 (x : Expr) (depth : Nat) : Print Unit := r.expr1 x 0 depth

/-- An expression by itself. -/
def expr (x : Expr) : Print Unit := r.expr1 x 0 1

/-- The size of an expression by itself. -/
def exprSize (limit : Nat) (x : Expr) : Print Nat := sizeOf limit 0 (r.expr x)

/-- A binary expression with operators that bind at least with strength `prec1`. -/
def binaryExpr (x : Expr) (opOffset : Nat) (op : Token) (y : Expr) (prec1 cut depth : Nat) : Print Unit := do
  let prec := op.precedence
  if prec < prec1 then
    token .lparen
    r.expr0 (.binary x opOffset op y) (reduceDepth depth)
    token .rparen
  else
    let blanks := prec < cut
    r.expr1 x prec (depth + if binaryPrec? x == some prec then 0 else 1)
    if blanks then space .blank
    let xline := (← get).pos.line
    let yline ← lineOf y.start
    tokenAt opOffset op
    let broken ← if xline != yline && 0 < xline && 0 < yline then breaksLine yline 1 .indent true else pure false
    if blanks && !broken then space .blank
    r.expr1 y (prec + 1) (depth + 1)
    if broken then space .unindent

/-! ## Lists -/

/-- Where a list of expressions stands: the offsets of what comes before and after it, if they matter. -/
structure ListPlace where
  before : Option Nat := none
  after : Option Nat := none
  /-- Whether a comma may stand after the last element. -/
  commaTerm : Bool := false
  /-- Whether a list over several lines is not indented. -/
  noIndent : Bool := false

/-- The state of writing the elements of a list over several lines. -/
structure ListState where
  /-- The indentation that the first line break brings; `ignore` once it is there. -/
  ws : Space
  /-- The line of the element before; `0` when unknown. -/
  prevLine : Nat
  /-- The element that the last line break stands before. -/
  lastBreak : Int
  /-- The size of the element before, or of its key; `0` when it does not fit on a line. -/
  size : Nat := 0
  /-- The product and the number of the sizes of the elements aligned so far. -/
  product : Nat := 1
  count : Nat := 0

/-- Sizes up to this one are always aligned. -/
def smallSize : Nat := 40

/-- Whether an element is not to be aligned with those before it: the ratio between its size and their geometric
mean is more than five to two, or less than two to five. -/
def ListState.breaksAlignment (s : ListState) (size : Nat) : Bool :=
  if s.size = 0 || size = 0 then true
  else if s.count = 0 || (s.size ≤ smallSize && size ≤ smallSize) then false
  else power (5 * size) s.count < twoTo s.count * s.product ||
    power 5 s.count * s.product < power (2 * size) s.count

/-- The larger limit for the size of an element. -/
def lineLimit : Nat := 1000000

/-- The size of an element of a list, or of its key; `0` when it does not fit on a line. -/
def elementSize (p : ListPlace) (x : Expr) : Print Nat := do
  let size ← r.exprSize lineLimit x
  if size ≤ lineLimit && p.before.isSome && p.after.isSome then
    match x with
    | .keyValue key _ _ => r.exprSize lineLimit key
    | _ => return size
  else return 0

/-- Writes the separator before an element, and the line break that the source has there. -/
def separate (s : ListState) (i : Nat) (x : Expr) (line : Nat) (breaks useFF : Bool) : Print ListState := do
  if i = 0 then return s
  if !breaks then setPos x.start
  token .comma
  if !breaks then
    space .blank
    return s
  let n ← linebreak line 0 s.ws (useFF || s.lastBreak + 1 < i)
  let s := if 0 < n then { s with ws := .ignore, lastBreak := i } else s
  if n = 0 then space .blank
  return if 1 < n then { s with product := 1, count := 0 } else s

/-- Writes one element of a list over several lines. -/
def listElement (p : ListPlace) (depth : Nat) (several : Bool) (s : ListState) (i : Nat) (x : Expr) :
    Print ListState := do
  let line ← lineOf x.start
  let size ← r.elementSize p x
  let useFF := s.breaksAlignment size
  let breaks := 0 < s.prevLine && s.prevLine < line
  let s ← separate s i x line breaks useFF
  match x with
  | .keyValue key colon value =>
    if several && 0 < size && breaks then
      r.expr key
      tokenAt colon .colon
      space .softTab
      r.expr value
    else r.expr0 x depth
  | _ => r.expr0 x depth
  let s := { s with size, prevLine := line }
  return if 0 < size then { s with product := s.product * size, count := s.count + 1 } else s

/-- Writes the elements of a list over several lines. -/
def listElements (p : ListPlace) (depth : Nat) (several : Bool) : ListState → Nat → List Expr → Print ListState
  | s, _, [] => return s
  | s, i, x :: xs => do
    let s ← r.listElement p depth several s i x
    listElements p depth several s (i + 1) xs

def inlineElements (depth : Nat) : Bool → List Expr → Print Unit
  | _, [] => pure ()
  | first, x :: xs => do
    if !first then
      setPos x.start
      token .comma
      space .blank
    r.expr0 x depth
    inlineElements depth false xs

/-- Writes a list of expressions; the line breaks of the source are kept. -/
def exprList (p : ListPlace) (xs : List Expr) (depth : Nat) : Print Unit := do
  match xs with
  | [] => pure ()
  | x :: _ =>
    let s ← get
    let prevLine := (p.before.map s.lineOf).getD 0
    let line := s.lineOf x.start
    let endLine := s.lineOf ((xs.getLast?.getD x).stop)
    if p.before.isSome && prevLine == line && line == endLine then r.inlineElements depth true xs
    else
      let ws : Space := if p.noIndent then .ignore else .indent
      let broken ← if p.before.isSome && prevLine < line then breaksLine line 0 ws true else pure false
      let start : ListState :=
        { ws := if broken then .ignore else ws, prevLine, lastBreak := if broken then 0 else -1 }
      let stop ← r.listElements p depth (1 < xs.length) start 0 xs
      let unindent : Print Unit := if stop.ws == .ignore && !p.noIndent then space .unindent else pure ()
      let closing := (p.after.map s.lineOf).getD 0
      if p.commaTerm && (← get).pos.line < closing then
        token .comma
        unindent
        space .formFeed
      else unindent

def identList (names : List Ident) (indent : Bool) : Print Unit :=
  r.exprList { noIndent := !indent } (names.map Expr.ident) 1

/-! ## Parameters -/

/-- Whether a type after the name of a type parameter would read as part of an array length. -/
def combinesWithName : Expr → Bool
  | .star _ x => !isTypeElem x
  | .binary x _ _ y => combinesWithName x && !isTypeElem y
  | .paren _ x _ => combinesWithName x
  | _ => false
where
  /-- Whether an expression can only be a type. -/
  isTypeElem : Expr → Bool
    | .arrayType .. | .structType .. | .funcType .. | .interfaceType .. | .mapType .. | .chanType .. => true
    | .binary x _ _ y => isTypeElem x || isTypeElem y
    | .unary _ op x => op == .tilde || isTypeElem x
    | .paren _ x _ => isTypeElem x
    | _ => false

/-- What a list of parameters is for. -/
inductive ParamKind where
  | params | funcTypeParams | typeParams
  deriving DecidableEq

/-- Writes the parameters of a list; the indentation that is still due, and the line that the last one ends on. -/
def paramFields : Space → Nat → Bool → List Field → Print (Space × Nat)
  | ws, prevLine, _, [] => return (ws, prevLine)
  | ws, prevLine, first, f :: fs => do
    let s ← get
    let line := s.lineOf f.start
    let breaks := 0 < prevLine && prevLine < line
    if !first then
      if !breaks then setPos f.start
      token .comma
    let broken ← if breaks then breaksLine line 0 ws true else pure false
    if !broken && !first then space .blank
    let ws := if broken then .ignore else ws
    if !f.names.isEmpty then
      r.identList f.names (ws == .indent)
      space .blank
    r.expr (stripParens f.type)
    paramFields ws (s.lineOf f.stop) false fs

/-- Writes a list of parameters between brackets. -/
def parameters (l : FieldList) (kind : ParamKind) : Print Unit := do
  let (opening, closing) : Token × Token := if kind = .params then (.lparen, .rparen) else (.lbrack, .rbrack)
  setPos? l.opening
  token opening
  if !l.fields.isEmpty then
    let s ← get
    let (ws, prevLine) ← r.paramFields .indent ((l.opening.map s.lineOf).getD 0) true l.fields
    let closingLine := (l.closing.map s.lineOf).getD 0
    if 0 < prevLine && prevLine < closingLine then
      token .comma
      let _ ← linebreak closingLine 0 .ignore true
    else if kind = .typeParams && l.count = 1 &&
        l.fields.head?.any fun f => combinesWithName (stripParens f.type) then
      token .comma
    if ws == .ignore then space .unindent
  setPos? l.closing
  token closing

/-- Writes the parameters and results of a function. -/
def signature (params : FieldList) (results : Option FieldList) : Print Unit := do
  r.parameters params .params
  match results with
  | none => pure ()
  | some l =>
    match l.fields with
    | [] => pure ()
    | [.mk _ [] t _ _] =>
      space .blank
      r.expr (stripParens t)
    | _ =>
      space .blank
      r.parameters l .params

/-! ## Fields -/

/-- Whether fields are written on one line: a single one that is short. -/
def isOneLine (fs : List Field) : Print Bool := do
  match fs with
  | [.mk _ names type none none] =>
    let namesSize := if names.isEmpty then 0 else 1
    return namesSize + (← r.exprSize 30 type) ≤ 30
  | _ => return false

/-- Writes a method, or an embedded type of an interface. -/
def method (f : Field) : Print Unit := do
  match f.names, f.type with
  | n :: _, .funcType _ params results =>
    r.expr (.ident n)
    r.signature params results
  | _, t => r.expr t

/-- Writes the field of a struct that has only one short field. -/
def shortField (f : Field) : Print Unit := do
  let mut first := true
  for n in f.names do
    if !first then
      token .comma
      space .blank
    r.expr (.ident n)
    first := false
  if !f.names.isEmpty then space .blank
  r.expr f.type

/-- Writes a field of a struct; `sep` stands between its parts. -/
def structField (sep : Space) (f : Field) : Print Unit := do
  let extra ← if f.names.isEmpty then do
      r.expr f.type
      pure 2
    else do
      r.identList f.names false
      space sep
      r.expr f.type
      pure 1
  let extra ← match f.tag with
    | some tag => do
      if !f.names.isEmpty && sep == .softTab then space sep
      space sep
      r.expr (.literal tag.offset .string tag.name)
      pure 0
    | none => pure extra
  if f.comment.isSome then
    for _ in List.range extra do space sep

/-- Writes fields, each on a line of its own; `line` is the output line of the field before. -/
def fieldLines (write : Field → Print Unit) : Bool → Nat → List Field → Print Unit
  | _, _, [] => pure ()
  | first, line, f :: fs => do
    if !first then
      let _ ← linebreak (← lineOf f.start) 1 .ignore (← linesSince line)
    let mark ← withMark (write f)
    fieldLines write false (mark.getD line) fs

/-- Writes the fields of a struct or the methods of an interface. -/
def fieldList (l : FieldList) (isStruct : Bool) : Print Unit := do
  let s ← get
  let fs := l.fields
  let lbrace := l.opening.getD 0
  let rbrace := l.closing.getD 0
  let hasComments := s.commentBefore (some (s.cursor rbrace))
  let oneLine := s.lineOf lbrace == s.lineOf rbrace
  if !hasComments && oneLine && fs.isEmpty then
    tokenAt lbrace .lbrace
    tokenAt rbrace .rbrace
  else if !hasComments && oneLine && (← r.isOneLine fs) then
    tokenAt lbrace .lbrace
    space .blank
    for f in fs do
      if isStruct then r.shortField f else r.method f
    space .blank
    tokenAt rbrace .rbrace
  else
    space .blank
    tokenAt lbrace .lbrace
    space .indent
    if hasComments || !fs.isEmpty then space .formFeed
    let write : Field → Print Unit :=
      if isStruct then r.structField (if fs.length = 1 then .blank else .softTab) else r.method
    fieldLines write true 0 fs
    space .unindent
    space .formFeed
    tokenAt rbrace .rbrace

/-! ## Function bodies -/

/-- A function longer than this is not written on one line. -/
def bodyLimit : Nat := 100

/-- The size of a statement by itself. -/
def stmtSize (limit : Nat) (s : Stmt) : Print Nat :=
  let indent := match s with
    | .labeled .. => 1
    | _ => 0
  sizeOf limit indent (r.stmt s false)

/-- The sizes of statements with separators between them, as long as the limit is not passed. -/
def stmtSizes (limit : Nat) : Nat → Bool → List Stmt → Print Nat
  | size, _, [] => return size
  | size, first, s :: ss => do
    if limit < size then return size
    let size := if first then size else size + 2
    stmtSizes limit (size + (← r.stmtSize limit s)) false ss

/-- The size of a function body on one line. -/
def bodySize (lbrace rbrace : Nat) (body : List Stmt) : Print Nat := do
  let s ← get
  if s.lineOf lbrace != s.lineOf rbrace || 5 < body.length then return bodyLimit + 1
  r.stmtSizes bodyLimit (s.commentSize (s.cursor rbrace) s.comments) true body

/-- Writes the statements of a short function body. -/
def inlineStmts : Bool → List Stmt → Print Unit
  | _, [] => pure ()
  | first, s :: ss => do
    if !first then
      token .semicolon
      space .blank
    r.stmt s ss.isEmpty
    inlineStmts false ss

/-- Writes a function body after a header of a size; a short body stays on the line, behind `sep`. -/
def funcBody (headerSize : Option Nat) (sep : Space) (lbrace : Nat) (body : List Stmt) (rbrace : Nat) : Print Unit :=
  withLevel (fun _ => 0) do
    let size ← r.bodySize lbrace rbrace body
    if headerSize.any fun n => n + size ≤ bodyLimit then
      space sep
      tokenAt lbrace .lbrace
      if !body.isEmpty then
        space .blank
        r.inlineStmts true body
        space .blank
      closeBrace false rbrace
    else
      space .blank
      r.stmt (.block lbrace body (some rbrace)) false

/-- The columns written since a column, if the line is still that of an offset. -/
def distanceFrom (offset startColumn : Nat) : Print (Option Nat) := do
  let s ← get
  return if s.lineOf offset == s.pos.line then some (s.outColumn - startColumn) else none

/-! ## All expressions -/

/-- Writes a selector; whether the line was broken before it and is still indented. -/
def selectorExpr (x : Expr) (sel : Ident) (depth : Nat) (isMethod : Bool) : Print Bool := do
  r.expr1 x highestPrec depth
  token .period
  let line ← lineOf sel.offset
  if (← get).pos.line < line then
    space .indent
    space .newline
    setPos sel.offset
    name sel.name
    if !isMethod then space .unindent
    return true
  else
    setPos sel.offset
    name sel.name
    return false

/-- Writes what is called; whether the line was broken before its name and is still indented. -/
def callee (f : Expr) (depth : Nat) : Print Bool := do
  match f with
  | .selector x sel =>
    setPos f.start
    r.selectorExpr x sel depth true
  | _ =>
    r.expr1 f highestPrec depth
    return false

def sliceBounds (depth : Nat) (blanks : Bool) : Bool → Option Expr → List (Option Expr) → Print Unit
  | _, _, [] => pure ()
  | first, before, b :: bs => do
    if !first then
      if before.isSome && blanks then space .blank
      token .colon
      if b.isSome && blanks then space .blank
    match b with
    | some x => r.expr0 x (depth + 1)
    | none => pure ()
    sliceBounds depth blanks false b bs

def writeExpr (x : Expr) (prec1 depth : Nat) : Print Unit := do
  setPos x.start
  match x with
  | .bad _ _ => literal .string "BadExpr"
  | .ident i => name i.name
  | .literal _ kind value =>
    literal kind (if (← get).canonicalNumbers && isNumber kind then canonicalNumber value else value)
  | .binary a o op b => r.binaryExpr a o op b prec1 (cutoff x depth) depth
  | .keyValue key colon value =>
    r.expr key
    tokenAt colon .colon
    space .softTab
    r.expr value
  | .star _ y =>
    if unaryPrec < prec1 then
      token .lparen
      token .mul
      r.expr y
      token .rparen
    else
      token .mul
      r.expr y
  | .unary _ op y =>
    if unaryPrec < prec1 then
      token .lparen
      r.expr x
      token .rparen
    else
      token op
      if op == .kRange then space .blank
      r.expr1 y unaryPrec depth
  | .funcLit type lbrace body rbrace =>
    setPos type.start
    token .kFunc
    let startColumn := (← get).outColumn - 4
    match type with
    | .funcType _ params results => r.signature params results
    | _ => pure ()
    r.funcBody (← distanceFrom type.start startColumn) .blank lbrace body (rbrace.getD 0)
  | .paren _ y rparen =>
    match y with
    | .paren .. => r.expr0 y depth
    | _ =>
      token .lparen
      r.expr0 y (reduceDepth depth)
      tokenAt rparen .rparen
  | .selector y sel => let _ ← r.selectorExpr y sel depth false
  | .assert y lparen type rparen =>
    r.expr1 y highestPrec depth
    token .period
    tokenAt lparen .lparen
    match type with
    | some t => r.expr t
    | none => token .kType
    tokenAt rparen .rparen
  | .index y lbrack indices rbrack =>
    r.expr1 y highestPrec 1
    tokenAt lbrack .lbrack
    match indices with
    | [i] => r.expr0 i (depth + 1)
    | is => r.exprList { before := some lbrack, after := some rbrack, commaTerm := true } is (depth + 1)
    tokenAt rbrack .rbrack
  | .slice y lbrack low high max three rbrack =>
    r.expr1 y highestPrec 1
    tokenAt lbrack .lbrack
    let bounds := if three then [low, high, max] else [low, high]
    let present := bounds.filterMap id
    let blanks := depth ≤ 1 && 1 < present.length && present.any fun b => (binaryPrec? b).isSome
    r.sliceBounds depth blanks true none bounds
    tokenAt rbrack .rbrack
  | .call f lparen args ellipsis rparen =>
    let depth := if 1 < args.length then depth + 1 else depth
    let paren : Bool := match f with
      | .funcType .. => true
      | .chanType _ _ dir _ => dir == .receive
      | _ => false
    if paren then token .lparen
    let indented ← r.callee f depth
    if paren then token .rparen
    tokenAt lparen .lparen
    match ellipsis with
    | some e =>
      r.exprList { before := some lparen, after := some e } args depth
      tokenAt e .ellipsis
      if (← lineOf e) < (← lineOf rparen) then
        token .comma
        space .formFeed
    | none => r.exprList { before := some lparen, after := some rparen, commaTerm := true } args depth
    tokenAt rparen .rparen
    if indented then space .unindent
  | .composite type lbrace elements rbrace =>
    match type with
    | some t => r.expr1 t highestPrec depth
    | none => pure ()
    withLevel (· + 1) do
      tokenAt lbrace .lbrace
      r.exprList { before := some lbrace, after := some rbrace, commaTerm := true } elements 1
      space .indent
      space .unindent
      closeBrace (!elements.isEmpty) rbrace
  | .ellipsis _ element =>
    token .ellipsis
    match element with
    | some e => r.expr e
    | none => pure ()
  | .arrayType _ length element =>
    token .lbrack
    match length with
    | some n => r.expr n
    | none => pure ()
    token .rbrack
    r.expr element
  | .structType _ fields =>
    token .kStruct
    r.fieldList fields true
  | .funcType _ params results =>
    token .kFunc
    r.signature params results
  | .interfaceType _ methods =>
    token .kInterface
    r.fieldList methods false
  | .mapType _ key value =>
    token .kMap
    token .lbrack
    r.expr key
    token .rbrack
    r.expr value
  | .chanType _ arrow dir value =>
    match dir with
    | .both => token .kChan
    | .receive =>
      token .arrow
      token .kChan
    | .send =>
      token .kChan
      setPos? arrow
      token .arrow
    space .blank
    r.expr value

end Nodes

end DocAccessors.Layout
