import DocAccessors.Table.Resolve

/-!
# Findings

The problems of a package in the form that checkers of source code report them in: a category, a message and places.

* `Finding.ofDiagnostic`: a warning is marked as one in its message;
* `Package.analyze`: the findings in the files that are not generated, in order.
-/

namespace DocAccessors

/-- A problem as a checker reports it. -/
structure Finding where
  category : Text
  message : Text
  span : Span
  related : List Note

def Finding.ofDiagnostic (d : Diagnostic) : Finding where
  category := d.code.id
  message := if d.severity == .warning then text "warning: " ++ d.message else d.message
  span := d.span
  related := d.notes

def Package.analyze (p : Package) (c : Configuration) : List Finding :=
  let p := { p with files := p.files.filter fun f => !f.tree.isGenerated }
  (processPackage c p).bag.items.map Finding.ofDiagnostic

end DocAccessors
