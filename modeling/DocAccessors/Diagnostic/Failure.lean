import DocAccessors.Diagnostic.Basic

/-!
# Failures

What an operation that did not succeed reports: a tree whose leaves are plain messages or lists of diagnostics.

* `Failure.message` is the text of a failure;
* `Failure.diagnostics?` finds the first list of diagnostics of the tree, from left to right;
* `Failure.holds` asks whether a plain message or the general description of a code is part of the tree;
* `Failure.merge` puts two failures together: it appends lists of diagnostics when both sides hold one, and
  otherwise keeps both trees side by side; `Failure.combine` does the same for results. Two empty lists put together
  are `Failure.vacuous`, which `Failure.isVacuous` tells from an empty list.
-/

namespace DocAccessors

/-- Why an operation did not succeed. -/
inductive Failure where
  /-- A message without a place. -/
  | plain (message : Text)
  /-- Problems with places. -/
  | diagnosed (diagnostics : List Diagnostic)
  /-- Empty lists of diagnostics put together. A single one is still a failure, these say nothing at all. -/
  | vacuous
  /-- A failure seen in a wider context. -/
  | context (about : Text) (inner : Failure)
  /-- Several failures at once. -/
  | several (failures : List Failure)

/-- What can be looked for in a failure. -/
inductive FailureTarget where
  | plain (message : Text)
  | code (code : Code)
  deriving DecidableEq

namespace Failure

/-- The messages of several diagnostics as one text. -/
def diagnosedMessage (ds : List Diagnostic) : Text :=
  if ds.isEmpty then "no diagnostics" else Text.join "; " (ds.map (·.message))

/-- The codes of a list of diagnostics that have a general description, each once, in order. -/
def codes (ds : List Diagnostic) : List Code :=
  ((ds.map (·.code)).eraseDups).filter fun c => c.description?.isSome

mutual

def message : Failure → Text
  | .plain m => m
  | .diagnosed ds => diagnosedMessage ds
  | .vacuous => diagnosedMessage []
  | .context about inner => about ++ text ": " ++ message inner
  | .several fs => Text.join "\n" (messages fs)

def messages : List Failure → List Text
  | [] => []
  | f :: fs => message f :: messages fs

end

mutual

def diagnostics? : Failure → Option (List Diagnostic)
  | .plain _ => none
  | .diagnosed ds => some ds
  | .vacuous => some []
  | .context _ inner => diagnostics? inner
  | .several fs => firstDiagnostics? fs

def firstDiagnostics? : List Failure → Option (List Diagnostic)
  | [] => none
  | f :: fs => match diagnostics? f with
    | some ds => some ds
    | none => firstDiagnostics? fs

end

mutual

def holds (target : FailureTarget) : Failure → Bool
  | .plain m => target == .plain m
  | .diagnosed ds => (codes ds).any fun c => target == .code c
  | .vacuous => false
  | .context _ inner => holds target inner
  | .several fs => anyHolds target fs

/-- Whether the target is part of one of several failures. -/
def anyHolds (target : FailureTarget) : List Failure → Bool
  | [] => false
  | f :: fs => holds target f || anyHolds target fs

end

mutual

def isVacuous : Failure → Bool
  | .plain _ | .diagnosed _ => false
  | .vacuous => true
  | .context _ inner => isVacuous inner
  | .several fs => firstIsVacuous fs

/-- Whether the first list of diagnostics in several failures stands for several empty ones. -/
def firstIsVacuous : List Failure → Bool
  | [] => false
  | f :: fs => if (diagnostics? f).isSome then isVacuous f else firstIsVacuous fs

end

/-- A single problem. -/
def ofDiagnostic (d : Diagnostic) : Failure := .diagnosed [d]

/-- The failure that a list of diagnostics amounts to: none unless one of them is an error. -/
def ofDiagnostics? (ds : List Diagnostic) : Option Failure :=
  if ds.any Diagnostic.isError then some (.diagnosed ds) else none

/-- Several results at once: a failure unless all of them succeeded. -/
def joinAll (fs : List (Option Failure)) : Option Failure :=
  match fs.filterMap id with
  | [] => none
  | fs => some (.several fs)

def merge (a b : Failure) : Failure :=
  match a.diagnostics?, b.diagnostics? with
  | some [], some [] => .vacuous
  | some da, some db => .diagnosed (da ++ db)
  | _, _ => .several [a, b]

def combine : Option Failure → Option Failure → Option Failure
  | none, b => b
  | a, none => a
  | some a, some b => some (a.merge b)

/-- The diagnostics of a result; none when it holds no list of them. -/
def diagnosticsOf (f : Option Failure) : List Diagnostic := (f.bind diagnostics?).getD []

end Failure

end DocAccessors
