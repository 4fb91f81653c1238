import DocAccessors.Configuration.Basic
import DocAccessors.Source.Parse
import DocAccessors.Text.LetterCase

/-!
# Valid configurations

Every field of a configuration has rules, in an order; the first rule that a field breaks is reported.
`Configuration.violations` lists them field by field, `Configuration.problem?` puts them into words.
-/

namespace DocAccessors

/-- A broken rule: the field and the name of the rule. -/
structure Violation where
  field : Text
  rule : Text
  deriving DecidableEq

def Violation.render (v : Violation) : Text := v.field ++ text ": failed " ++ Text.quote v.rule

/-- The first of some rules that a value breaks. -/
def firstBroken {α : Type} (rules : List (Text × (α → Bool))) (a : α) : Option Text :=
  (rules.find? fun (_, holds) => !holds a).map Prod.fst

/-- A field that must have a value, and the rules for the value. -/
def required {α : Type} (field : Text) (rules : List (Text × (α → Bool))) : Option α → List Violation
  | none => [⟨field, "required"⟩]
  | some a => ((firstBroken rules a).map fun r => ⟨field, r⟩).toList

/-- A field that may have no value, and the rules for the value. -/
def optional {α : Type} (field : Text) (rules : List (Text × (α → Bool))) : Option α → List Violation
  | none => []
  | some a => ((firstBroken rules a).map fun r => ⟨field, r⟩).toList

/-- Whether a text has no upper case letters, and is not empty. -/
def isLowerCase (t : Text) : Bool := !t.isEmpty && Text.simpleLower t == t

/-- Whether a text is made of ASCII letters and digits, and is not empty. -/
def isAlphanumeric (t : Text) : Bool :=
  !t.isEmpty && t.all fun b => Text.isDigitByte b || Text.isLowerByte b || Text.isUpperByte b

def isExpression (t : Text) : Bool := (Source.Expr.parse t).toOption.isSome

namespace Configuration

def packageViolations (ps : List Text) : List Violation :=
  if ps.isEmpty then [⟨"Config.Packages", "required"⟩]
  else ps.zipIdx.filterMap fun (p, i) =>
    if p.isEmpty then some ⟨text "Config.Packages[" ++ Text.ofNat i ++ text "]", "required"⟩ else none

def logLevels : List Text := ["debug", "info", "warn", "error", "none"]

def colorModes : List Text := ["auto", "always", "never"]

/-- The rules that a configuration breaks. -/
def violations (c : Configuration) : List Violation :=
  packageViolations c.packages ++
  required "Config.Output" [("endswith", fun t => Text.endsWith t ".go"),
    ("excludesall", fun t => !t.any fun b => b == 47 || b == 92)] c.output ++
  required "Config.Prefix" [("lowercase", isLowerCase), ("alphanum", isAlphanumeric)] c.space ++
  required "Config.LogLevel" [("oneof", fun t => logLevels.contains t)] c.logLevel ++
  required "Config.MaxDiagnostics" [("min", fun n => 1 ≤ n), ("max", fun n => n ≤ 65535)] c.maxDiagnostics ++
  required "Config.Jobs" [("min", fun n => 0 ≤ n)] c.jobs ++
  required "Config.Color" [("oneof", fun t => colorModes.contains t)] c.color ++
  match c.defaults with
  | none => []
  | some d =>
    optional "Config.Defaults.RenameAll" [("oneof", fun t => (CaseConvention.ofName? t).isSome)] d.renameAll ++
    optional "Config.Defaults.Default" [("goexpr", isExpression)] d.default

/-- What is wrong with a configuration, in words. -/
def problem? (c : Configuration) : Option Text :=
  match c.violations with
  | [] => none
  | vs => some (Text.join "; " (vs.map (·.render)))

end Configuration

end DocAccessors
