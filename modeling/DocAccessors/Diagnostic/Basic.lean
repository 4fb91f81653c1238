import DocAccessors.Position.Basic

/-!
# Diagnostics

A diagnostic says what is wrong, how badly, and where.

* `Severity`: info, warning, error, in increasing order;
* `Code`: the kind of problem, a number with a name for the kinds this library reports;
* `Diagnostic`: a message at a span, with notes at other spans.
-/

namespace DocAccessors

/-- How bad a problem is. -/
inductive Severity where
  | info | warning | error
  deriving DecidableEq, Repr, Inhabited

namespace Severity

/-- The severity as a number, growing with the importance. -/
def rank : Severity → Nat
  | .info => 0
  | .warning => 1
  | .error => 2

def ofRank? : Nat → Option Severity
  | 0 => some .info
  | 1 => some .warning
  | 2 => some .error
  | _ => none

def name : Severity → Text
  | .info => "info"
  | .warning => "warning"
  | .error => "error"

def nameOfRank (n : Nat) : Text := ((ofRank? n).map name).getD "unknown"

end Severity

/-- The kind of a problem. -/
structure Code where
  number : Nat
  deriving DecidableEq, Repr, Inhabited

namespace Code

/-- A problem of no particular kind. -/
def unknown : Code := ⟨0⟩
/-- An option or attribute that does not exist, or no longer does. -/
def unknownOption : Code := ⟨1001⟩
/-- An option given more than once. -/
def duplicateOption : Code := ⟨1002⟩
/-- An option that does not apply where it stands. -/
def inapplicableOption : Code := ⟨1003⟩
/-- An option with a value it cannot take. -/
def malformedValue : Code := ⟨1004⟩
/-- An option list that cannot be read. -/
def invalidSyntax : Code := ⟨1005⟩
/-- Documentation that is required and absent. -/
def missingDocumentation : Code := ⟨2001⟩
/-- Two members published under one name. -/
def duplicateLookupKey : Code := ⟨2002⟩
/-- A directive that does not fit the declaration it stands on. -/
def structuralMismatch : Code := ⟨3001⟩
/-- A table no code could be generated for. -/
def generateFailed : Code := ⟨4001⟩

/-- The codes of the problems this library reports, in the order in which they are listed. -/
def reported : List Code :=
  [unknownOption, duplicateOption, inapplicableOption, malformedValue, invalidSyntax, missingDocumentation,
    duplicateLookupKey, structuralMismatch, generateFailed]

/-- The words for a reported code, and its general description. -/
def words : List (Code × Text × Text) := [
  (unknownOption, "unknown-option", "unknown option"),
  (duplicateOption, "duplicate-option", "duplicate option"),
  (inapplicableOption, "inapplicable-option", "inapplicable option"),
  (malformedValue, "malformed-value", "malformed value"),
  (invalidSyntax, "invalid-syntax", "invalid syntax"),
  (missingDocumentation, "missing-documentation", "missing documentation"),
  (duplicateLookupKey, "duplicate-lookup-key", "duplicate lookup key"),
  (structuralMismatch, "structural-mismatch", "structural mismatch"),
  (generateFailed, "generate-failed", "generate failed")]

/-- The code as a number with a letter before it. -/
def id (c : Code) : Text := text "E" ++ Text.padZero 4 (Text.ofNat c.number)

/-- The name of a code; a code without one is shown by its number. -/
def name (c : Code) : Text :=
  if c = unknown then "unknown"
  else match words.lookup c with
    | some (n, _) => n
    | none => c.id

/-- The general description of a reported code. -/
def description? (c : Code) : Option Text := (words.lookup c).map Prod.snd

end Code

/-- A remark at another place that belongs to a diagnostic. -/
structure Note where
  span : Span
  message : Text
  deriving DecidableEq, Repr

/-- A problem found. -/
structure Diagnostic where
  severity : Severity
  code : Code
  message : Text
  span : Span := {}
  notes : List Note := []
  deriving DecidableEq, Repr

namespace Diagnostic

def error (code : Code) (span : Span) (message : Text) : Diagnostic := ⟨.error, code, message, span, []⟩

def warning (code : Code) (span : Span) (message : Text) : Diagnostic := ⟨.warning, code, message, span, []⟩

def withNote (d : Diagnostic) (span : Span) (message : Text) : Diagnostic :=
  { d with notes := d.notes ++ [⟨span, message⟩] }

def isError (d : Diagnostic) : Bool := d.severity == .error

/-- Whether the diagnostic is a warning or worse. -/
def isWarning (d : Diagnostic) : Bool := d.severity != .info

/-- `severity[code]: message`. -/
def summary (d : Diagnostic) : Text :=
  d.severity.name ++ text "[" ++ d.code.name ++ text "]: " ++ d.message

end Diagnostic

end DocAccessors
