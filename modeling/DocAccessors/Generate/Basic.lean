import DocAccessors.Generate.Emitter
import DocAccessors.Layout.Statements
import DocAccessors.Position.Path

/-!
# Generated files

`generate` turns the tables of a package into the file that makes its documentation accessible: a marker, the package
clause, the import of the run-time package if it is needed, and the declarations for each table, in canonical
layout.
-/

namespace DocAccessors

/-- The first line of every generated file. -/
def generatedHeader : Text := "// Code generated by gondoc. DO NOT EDIT."

/-- The name of a generated file when none is configured. -/
def defaultOutput : Text := "documented_gen.go"

/-- The import path of the run-time package. -/
def runtimePath : Text := "github.com/pablor21/gondoc/documented"

/-- What generates files: the emitters in use and the name of the file. -/
structure Generator where
  emitters : List Emitter := Emitter.all
  output : Text := defaultOutput

/-- A generated file. -/
structure GeneratedFile where
  path : Text
  content : Text

namespace Generator

/-- A generator that writes to files of a name; the empty name is the default one. -/
def ofOutput (output : Text) : Generator := { output := if output.isEmpty then defaultOutput else output }

/-- The emitter for a family of attributes. -/
def emitter? (g : Generator) (base : Text) : Option Emitter := g.emitters.find? fun e => e.name == base

/-- The path of the file of a package. -/
def path (g : Generator) (r : PackageResult) : Text := Path.join [r.dir, g.output]

/-- The declarations for a table, and whether they refer to the run-time package. -/
def emitTable (g : Generator) (t : DocTable) : Except Failure (Text × Bool) :=
  let fail (message : Text) : Except Failure (Text × Bool) :=
    .error (.ofDiagnostic (Diagnostic.error .generateFailed t.decl.span message))
  match g.emitter? t.base with
  | none => fail (text "no emitter registered for `" ++ t.base ++ text "`")
  | some e =>
    match e.emit t with
    | .ok code => .ok (code, e.needsRuntime t)
    | .error message => fail (e.name ++ text ": " ++ message)

/-- The source of a generated file before it is laid out. -/
def assemble (r : PackageResult) (parts : List (Text × Bool)) : Text :=
  let runtime := parts.any Prod.snd && r.path != runtimePath
  generatedHeader ++ text "\n\npackage " ++ r.name ++ text "\n\n" ++
    (if runtime then text "import " ++ Text.quote runtimePath ++ text "\n\n" else []) ++ parts.flatMap Prod.fst

/-- The file for the tables of a package; none when there are no tables. -/
def generate (g : Generator) (r : PackageResult) : Except Failure (Option GeneratedFile) := do
  if r.tables.isEmpty then return none
  let parts ← r.tables.mapM g.emitTable
  match Layout.format (assemble r parts) with
  | .ok content => return some ⟨g.path r, content⟩
  | .error fs =>
    throw (.ofDiagnostic (Diagnostic.error .generateFailed {}
      (text "generated code for package " ++ r.name ++ text " does not format: " ++ Source.SyntaxFault.summary fs)))

end Generator

end DocAccessors
