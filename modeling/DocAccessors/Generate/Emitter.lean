import DocAccessors.Table.Basic
import DocAccessors.Text.Quoted

/-!
# Emitters

The code that is generated for one table, before it is laid out. There is one emitter for each family of
attributes.

* `Emitter.emit` gives the declarations for a table, or says why there are none;
* `Emitter.needsRuntime` tells whether they refer to the run-time package.
-/

namespace DocAccessors

/-- What writes the declarations for a family of attributes. -/
inductive Emitter where
  /-- Constants with the documentation of a declaration. -/
  | const
  /-- A method for the documentation of a type. -/
  | docs
  /-- Methods for the documentation of fields. -/
  | fields
  /-- A method for the documentation of the constants of an enum. -/
  | variants
  deriving DecidableEq, Repr

namespace Emitter

def all : List Emitter := [.const, .docs, .fields, .variants]

/-- The family of attributes that an emitter writes for. -/
def base : Emitter → AttributeBase
  | .const => .docsConst
  | .docs => .documented
  | .fields => .documentedFields
  | .variants => .documentedVariants

/-- The name of an emitter: that of its family. -/
def name (e : Emitter) : Text := e.base.name

def ofName? (n : Text) : Option Emitter := all.find? fun e => e.name == n

/-! ## Parts -/

/-- Opens a block of code. -/
def openBrace : Text := "\x7b"

/-- Closes a block of code. -/
def closeBrace : Text := "\x7d"

/-- An expression for documentation: a literal, or the given expression. -/
def docExpr : DocValue → Text
  | .text t => Text.quote t
  | .default source => source
  | .absent => "\"\""

/-- An expression for documentation that may be absent. -/
def optionExpr (v : DocValue) : Text :=
  if v.isPresent then text "documented.Some(" ++ docExpr v ++ text ")" else "documented.None()"

/-- What the names of the variables for a declaration start with. -/
def variableStart (t : DocTable) : Text := text "_" ++ t.decl.name ++ text "_"

/-- A declaration that checks that a type has the methods of an interface; generic types have none. -/
def assertion (t : DocTable) (interface : Text) : Text :=
  if t.decl.typeParams.isEmpty then
    text "var _ documented." ++ interface ++ (if t.optional then text "Opt" else []) ++ text " = (*" ++ t.decl.name ++
      text ")(nil)\n\n"
  else []

/-- A comment on a line of its own. -/
def comment (t : Text) : Text := text "// " ++ t ++ text "\n"

/-- A function with a receiver, a signature and the lines of its body. -/
def method (receiver signature : Text) (body : List Text) : Text :=
  text "func (" ++ receiver ++ text ") " ++ signature ++ text " " ++ openBrace ++ text "\n" ++
    body.flatMap (fun l => text "\t" ++ l ++ text "\n") ++ closeBrace ++ text "\n\n"

/-- A variable that holds a literal with an element on each line. -/
def literalVar (name type : Text) (elements : List Text) : Text :=
  text "var " ++ name ++ text " = " ++ type ++ openBrace ++ text "\n" ++
    elements.flatMap (fun e => text "\t" ++ e ++ text ",\n") ++ closeBrace ++ text "\n\n"

/-! ## Tables -/

/-- A constant with the documentation of a declaration. -/
def constDecl (t : DocTable) (name : Text) : Text :=
  comment (name ++ text " is the documentation of " ++ t.decl.name ++ text ".") ++
    text "const " ++ name ++ text " = " ++ docExpr t.docs ++ text "\n\n"

/-- The method for the documentation of a type. -/
def docsMethod (t : DocTable) : Text :=
  assertion t "Documented" ++ comment (text "Docs returns the documentation of " ++ t.decl.name ++ text ".") ++
    if t.optional then
      method t.decl.receiver "Docs() (string, bool)"
        [if t.docs.isPresent then text "return " ++ docExpr t.docs ++ text ", true" else "return \"\", false"]
    else method t.decl.receiver "Docs() string" [text "return " ++ docExpr t.docs]

/-- The variables and methods for the documentation of fields. -/
def fieldDecls (t : DocTable) (index : LookupTable) : Text :=
  let start := variableStart t
  let count := text "[" ++ Text.ofNat t.items.length ++ text "]"
  let element : Text := if t.optional then "documented.Option" else "string"
  let docs := t.items.map fun i => if t.optional then optionExpr i.docs else docExpr i.docs
  let names := t.items.map fun i => Text.quote i.name
  let keys := index.entries.map fun e => Text.quote e.name ++ text ": " ++ Text.ofInt e.index
  let lookup : Text := if t.optional then "documented.LookupOpt" else "documented.Lookup"
  let recv := t.decl.receiver
  literalVar (start ++ text "fieldDocs") (count ++ element) docs ++
    literalVar (start ++ text "fieldNames") (count ++ text "string") names ++
    literalVar (start ++ text "fieldIndex") "map[string]int" keys ++
    assertion t "DocumentedFields" ++
    comment (text "FieldDocs returns the documentation of each field of " ++ t.decl.name ++
      text ", in declaration order.") ++
    method recv (text "FieldDocs() []" ++ element) [text "docs := " ++ start ++ text "fieldDocs", "return docs[:]"] ++
    comment (text "FieldNames returns the lookup name of each field of " ++ t.decl.name ++
      text ", \"\" for unnamed ones.") ++
    method recv "FieldNames() []string" [text "names := " ++ start ++ text "fieldNames", "return names[:]"] ++
    comment "GetFieldDocs returns the documentation of the field published under name." ++
    method recv "GetFieldDocs(name string) (string, error)"
      [text "return " ++ lookup ++ text "(" ++ start ++ text "fieldDocs[:], " ++ start ++ text "fieldIndex, name)"]

/-- The lines for one constant of an enum. -/
def variantCase (t : DocTable) (i : TableItem) : List Text :=
  [text "case " ++ i.ident ++ text ":",
    text "\treturn " ++ docExpr i.docs ++ (if t.optional then text ", true" else [])]

/-- The method for the documentation of the constants of an enum. -/
def variantsMethod (t : DocTable) : Text :=
  let items := t.items.filter fun i => !t.optional || i.docs.isPresent
  let cases := items.flatMap (variantCase t)
  let body := if cases.isEmpty then [] else [text "switch v " ++ openBrace] ++ cases ++ [closeBrace]
  let (result, miss) : Text × Text := if t.optional then ("(string, bool)", "\"\", false") else ("string", "\"\"")
  assertion t "DocumentedVariants" ++
    comment (text "VariantDocs returns the documentation of the " ++ t.decl.name ++ text " constant v holds.") ++
    method (text "v " ++ t.decl.receiver) (text "VariantDocs() " ++ result) (body ++ [text "return " ++ miss])

def emit (e : Emitter) (t : DocTable) : Except Text Text :=
  match e with
  | .const =>
    if t.constNames.isEmpty then .error (text "no constant name resolved for " ++ t.decl.name)
    else .ok (t.constNames.flatMap (constDecl t))
  | .docs => .ok (docsMethod t)
  | .fields =>
    match t.index with
    | some index => .ok (fieldDecls t index)
    | none => .error (text "no lookup table compiled for " ++ t.decl.name)
  | .variants => .ok (variantsMethod t)

/-- Whether the declarations for a table refer to the run-time package. -/
def needsRuntime (e : Emitter) (t : DocTable) : Bool :=
  match e with
  | .const => false
  | .docs | .variants => t.decl.typeParams.isEmpty
  | .fields => true

end Emitter

end DocAccessors
