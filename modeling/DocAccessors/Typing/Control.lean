import DocAccessors.Source.Tree

/-!
# Control flow

What can be said about the flow of control in a function body by the form of its statements alone.

* `terminates`: whether control cannot get past a statement;
* `labelsFit`: whether all labels are used, and all jumps have targets that they can get to.
-/

namespace DocAccessors.Typing

open DocAccessors.Source (Expr Stmt GenDecl Token)

/-- How deep statements are looked into. -/
def statementDepth : Nat := 1000

/-! ## Terminating statements -/

/-- Whether a statement can be left by `break`: by one with the label, or, if `bare` is set, by one without any. -/
def hasBreak (label : Option Text) : Nat → Bool → Stmt → Bool
  | 0, _, _ => false
  | n + 1, bare, s =>
    let within (ss : List Stmt) : Bool := ss.any (hasBreak label n bare)
    let labeled (ss : List Stmt) : Bool := label.isSome && ss.any (hasBreak label n false)
    match s with
    | .branch _ .kBreak none => bare
    | .branch _ .kBreak (some l) => label == some l.name
    | .labeled _ _ s => within [s]
    | .block _ ss _ => within ss
    | .ifElse _ _ _ b e => within (b :: e.toList)
    | .caseClause _ _ _ _ ss | .commClause _ _ _ ss => within ss
    | .switch _ _ _ _ cs _ | .typeSwitch _ _ _ _ cs _ | .select _ _ cs _ => labeled cs
    | .for _ _ _ _ b | .range _ _ _ _ _ _ b => labeled [b]
    | _ => false

/-- The statements before the empty ones at the end. -/
def dropEmptyEnd (ss : List Stmt) : List Stmt :=
  (ss.reverse.dropWhile fun s => match s with
    | .empty _ _ => true
    | _ => false).reverse

/-- Whether control cannot get past a statement that may have a label; `isPanic` tells which calls never return, by
their offset. -/
def terminates (isPanic : Nat → Bool) : Nat → Option Text → Stmt → Bool
  | 0, _, _ => true
  | n + 1, label, s =>
    let ends (ss : List Stmt) : Bool := ((dropEmptyEnd ss).getLast?).any (terminates isPanic n none)
    let clause (s : Stmt) : Bool := match s with
      | .caseClause _ _ _ _ ss | .commClause _ _ _ ss => ends ss && !ss.any (hasBreak label n true)
      | _ => false
    let isDefault (s : Stmt) : Bool := match s with
      | .caseClause _ d _ _ _ => d
      | _ => false
    match s with
    | .return _ _ => true
    | .branch _ k _ => k == .kGoto || k == .kFallthrough
    | .expr x => match x.unparen with
      | .call _ offset _ _ _ => isPanic offset
      | _ => false
    | .block _ ss _ => ends ss
    | .labeled l _ s => terminates isPanic n (some l.name) s
    | .ifElse _ _ _ b (some e) => terminates isPanic n none b && terminates isPanic n none e
    | .switch _ _ _ _ cs _ | .typeSwitch _ _ _ _ cs _ => cs.any isDefault && cs.all clause
    | .select _ _ cs _ => cs.all clause
    | .for _ _ cond _ b => cond.isNone && !hasBreak label n true b
    | _ => false

/-- Whether control cannot get to the end of a list of statements. -/
def neverEnds (isPanic : Nat → Bool) (ss : List Stmt) : Bool :=
  ((dropEmptyEnd ss).getLast?).any (terminates isPanic statementDepth none)

/-! ## Labels -/

/-- A jump to a label that is not known yet. -/
structure Jump where
  offset : Nat
  label : Text
  deriving DecidableEq

/-- A labeled statement: its label, and which jumps can name it. -/
structure LabeledPlace where
  label : Text
  breaks : Bool
  continues : Bool

/-- The place that a label gives a statement. -/
def LabeledPlace.ofStmt (label : Text) : Stmt → LabeledPlace
  | .switch _ _ _ _ _ _ | .typeSwitch _ _ _ _ _ _ | .select _ _ _ _ => ⟨label, true, false⟩
  | .for _ _ _ _ _ | .range _ _ _ _ _ _ _ => ⟨label, true, true⟩
  | _ => ⟨label, false, false⟩

/-- The labels of a function body: those that are declared, those that are used, and whether a fault was found. -/
structure Labels where
  declared : List Text := []
  used : List Text := []
  failed : Bool := false

/-- A block around a statement: the labeled statement that it belongs to, and the labels in it so far. -/
structure LabelBlock where
  owner : Option LabeledPlace := none
  labels : List Text := []

/-- What is known in the middle of a block. -/
structure LabelScan where
  block : LabelBlock
  /-- The labeled statement that came last. -/
  place : Option LabeledPlace
  /-- The jumps to labels that may come. -/
  ahead : List Jump := []
  /-- Those of them that a variable is declared behind. -/
  past : List Jump := []

abbrev LabelCheck := StateM Labels

namespace LabelCheck

/-- Notes a fault unless a condition holds. -/
def ensure (b : Bool) : LabelCheck Unit := modify fun s => { s with failed := s.failed || !b }

def use (label : Text) : LabelCheck Unit := modify fun s => { s with used := label :: s.used }

/-- Declares a label: jumps ahead that lead to it must not pass the declaration of a variable. -/
def declare (s : LabelScan) (place : LabeledPlace) : LabelCheck LabelScan := do
  let isNew := !(← get).declared.contains place.label
  ensure isNew
  modify fun t => { t with declared := place.label :: t.declared }
  let (here, ahead) := s.ahead.partition fun j => j.label == place.label
  if !here.isEmpty then use place.label
  ensure (!here.any s.past.contains)
  let labels := if isNew then place.label :: s.block.labels else s.block.labels
  return { s with block := { s.block with labels }, place := some place, ahead }

/-- A jump to a label, in the blocks around it. -/
def branch (blocks : List LabelBlock) (s : LabelScan) (j : Jump) (keyword : Token) : LabelCheck LabelScan := do
  let owner := (blocks.filterMap (·.owner)).find? fun p => p.label == j.label
  match keyword with
  | .kGoto =>
    if blocks.any fun b => b.labels.contains j.label then
      use j.label
      return s
    else return { s with ahead := s.ahead ++ [j] }
  | .kBreak =>
    ensure (owner.any (·.breaks))
    use j.label
    return s
  | .kContinue =>
    ensure (owner.any (·.continues))
    use j.label
    return s
  | _ =>
    ensure false
    return s

mutual

/-- The statements of a block, given the blocks around it: the jumps that lead out of it. -/
def block : Nat → List LabelBlock → Option LabeledPlace → List Stmt → LabelCheck (List Jump)
  | 0, _, _, _ => return []
  | n + 1, around, owner, ss => do
    let s ← ss.foldlM (step n around) { block := { owner }, place := owner }
    return s.ahead

def step : Nat → List LabelBlock → LabelScan → Stmt → LabelCheck LabelScan
  | 0, _, s, _ => return s
  | n + 1, around, s, stmt => do
    let inner (place : Option LabeledPlace) (ss : List Stmt) : LabelCheck LabelScan := do
      return { s with ahead := s.ahead ++ (← block n (s.block :: around) place ss) }
    match stmt with
    | .decl (.mk _ _ .kVar _ _ _) | .assign _ _ .define _ => return { s with past := s.ahead }
    | .labeled l _ stmt =>
      if l.name == text "_" then step n around s stmt
      else step n around (← declare s (.ofStmt l.name stmt)) stmt
    | .branch o k (some l) => branch (s.block :: around) s ⟨o, l.name⟩ k
    | .block _ ss _ => inner s.place ss
    | .ifElse _ _ _ b e =>
      let s ← step n around s b
      match e with
      | some e => step n around s e
      | none => return s
    | .caseClause _ _ _ _ ss | .commClause _ _ _ ss => inner none ss
    | .switch _ _ _ _ cs _ | .typeSwitch _ _ _ _ cs _ | .select _ _ cs _ => inner s.place cs
    | .for _ _ _ _ b | .range _ _ _ _ _ _ b => step n around s b
    | _ => return s

end

end LabelCheck

/-- Whether all labels of a function body are used, and all jumps have targets that they can get to. -/
def labelsFit (ss : List Stmt) : Bool :=
  let (left, s) := (LabelCheck.block (2 * statementDepth) [] none ss).run {}
  left.isEmpty && !s.failed && s.declared.all s.used.contains

end DocAccessors.Typing
