import DocAccessors.Declaration.Basic
import DocAccessors.Source.Tree

/-!
# Extraction

From the files of a package to its declarations, in the order of file names and of the declarations in a file.

A type over a basic type is an enum when at least one constant belongs to it, wherever that constant is declared.
A constant belongs to the type that it is declared with, that it repeats from the constant before it, or that it
is converted to.

* `TypeInfo`: what is known about the types and the values of names;
* `Entry`: one declaration with the constants that it declares;
* `linkEnums`: gives constants to the types that they belong to;
* `extract`: all declarations of a package.
-/

namespace DocAccessors

/-- What is known about a name that a package declares. -/
inductive Meaning where
  /-- A type, and whether a basic type underlies it. -/
  | type (basic : Bool)
  /-- A constant: the type of this package that it has, if any, and its value. -/
  | const (typeName : Option Text) (value : Constant)

/-- What is known about the names that a package declares, by their positions. -/
structure TypeInfo where
  meanings : List (Pos × Meaning)

/-- What is known about the name at a position. -/
def TypeInfo.meaning? (i : TypeInfo) (p : Pos) : Option Meaning := i.meanings.lookup p

/-- A file of a package. -/
structure PackageFile where
  file : SourceFile
  tree : Source.File

namespace PackageFile

def pos (f : PackageFile) (offset : Nat) : Pos := f.file.pos offset

/-- The file name that holds at the package clause. -/
def name (f : PackageFile) : Text := (f.file.place f.tree.packageOffset).file

def comments (f : PackageFile) (g : Option Source.CommentGroup) : List PlacedComment :=
  (g.getD []).map fun c => ⟨f.pos c.offset, c.text⟩

end PackageFile

namespace Extract

open DocAccessors.Source (Expr Field Ident Spec GenDecl Decl CommentGroup)

/-- The file that declarations are taken from, the namespace of directives, and what is known about types. -/
structure Context where
  source : PackageFile
  space : Text
  info : Option TypeInfo

def Context.fragments (c : Context) (doc : Option CommentGroup) : List Text :=
  DocAccessors.fragments ((c.source.comments doc).map (·.text))

def Context.directives (c : Context) (doc : Option CommentGroup) : List Directive :=
  Directive.readAll c.space (c.source.comments doc)

def Context.declared (c : Context) (i : Ident) : DeclaredName := ⟨i.name, c.source.pos i.offset⟩

/-- What is known about a declared name. -/
def Context.meaning? (c : Context) (i : Ident) : Option Meaning :=
  c.info.bind fun info => info.meaning? (c.source.pos i.offset)

/-- The comment that documents a specification: its own, or the one above the keyword of a lone one. -/
def docOf (own : Option CommentGroup) (lparen : Option Nat) (above : Option CommentGroup) : Option CommentGroup :=
  match own with
  | some g => some g
  | none => if lparen.isSome then none else above

/-! ## Fields -/

/-- The name and the offset that an embedded type gives its field. -/
def embeddedName : Expr → Text × Nat
  | .ident i => (i.name, i.offset)
  | .star _ x => embeddedName x
  | .selector _ s => (s.name, s.offset)
  | .index x _ _ _ => embeddedName x
  | x => ([], x.start)

/-- The members that a field declares: one for each name. -/
def Context.fieldMembers (c : Context) (f : Field) : List Member :=
  let member (name : Text) (offset : Nat) (embedded : Bool) : Member :=
    { name, embedded, placement := .field, pos := c.source.pos offset
      fragments := c.fragments f.doc, directives := c.directives f.doc }
  match f.names with
  | [] => let (n, o) := embeddedName f.type; [member n o true]
  | ns => ns.map fun n => member n.name n.offset false

/-! ## Types -/

def basicTypeNames : List Text :=
  ["bool", "string", "byte", "rune", "uintptr", "int", "int8", "int16", "int32", "int64", "uint", "uint8", "uint16",
    "uint32", "uint64", "float32", "float64", "complex64", "complex128"]

/-- Whether a basic type underlies a type: as far as is known, else by its name. -/
def Context.isBasic (c : Context) (name : Ident) (type : Expr) : Bool :=
  match c.meaning? name with
  | some (.type basic) => basic
  | some (.const _ _) => false
  | none => match type with
    | .ident i => basicTypeNames.contains i.name
    | _ => false

/-! ## Constants -/

/-- The type that a constant belongs to, given the type and the value that are in effect for it. -/
def Context.constType? (c : Context) (name : Ident) (type : Option Expr) (value : Option Expr) : Option Text :=
  match c.meaning? name with
  | some (.const t _) => t
  | _ => match type, value with
    | some (.ident t), _ => some t.name
    | some _, _ => none
    | none, some (.call (.ident f) _ [_] _ _) => some f.name
    | none, _ => none

/-- The value of a constant, when it is known. -/
def Context.constValue? (c : Context) (name : Ident) : Option Constant :=
  match c.meaning? name with
  | some (.const _ v) => some v
  | _ => none

/-- The type and the values in effect for a specification, given those for the one before: a specification
without either repeats them. -/
def inEffect (before : Option Expr × List Expr) (type : Option Expr) (values : List Expr) : Option Expr × List Expr :=
  match type with
  | some _ => (type, values)
  | none => if values.isEmpty then before else (none, values)

/-! ## Entries -/

/-- A declaration with what decides about enums: whether it is a type that can be one, and the constants that it
declares with the types they belong to. -/
structure Entry where
  decl : Declaration
  canBeEnum : Bool := false
  consts : List (Text × Member) := []

/-- A declaration of constants or variables. -/
def Context.valueDecl (c : Context) (doc : Option CommentGroup) (names : List Ident) (p : Placement) : Declaration :=
  { names := names.map c.declared, placement := p, exported := (names.head?.map fun n => isExported n.name).getD false
    fragments := c.fragments doc, directives := c.directives doc, file := c.source.name }

/-- The constants of a specification that belong to a type. -/
def Context.enumConsts (c : Context) (d : Declaration) (names : List Ident) (effect : Option Expr × List Expr) :
    List (Text × Member) :=
  names.zipIdx.filterMap fun (n, i) =>
    (c.constType? n effect.1 effect.2[i]?).map fun t =>
      (t, { name := n.name, placement := .enumValue, pos := c.source.pos n.offset, fragments := d.fragments,
            directives := d.directives, value := c.constValue? n })

/-- The entries of the specifications of a constant declaration. -/
def Context.constEntries (c : Context) (above : Option CommentGroup) (lparen : Option Nat) :
    Option Expr × List Expr → List Spec → List Entry
  | _, [] => []
  | before, .valueSpec doc names type values _ :: specs =>
    let effect := inEffect before type values
    let d := c.valueDecl (docOf doc lparen above) names .const
    { decl := d, consts := c.enumConsts d names effect } :: c.constEntries above lparen effect specs
  | before, _ :: specs => c.constEntries above lparen before specs

/-- The entry of a variable specification. -/
def Context.varEntry? (c : Context) (above : Option CommentGroup) (lparen : Option Nat) : Spec → Option Entry
  | .valueSpec doc names _ _ _ => some { decl := c.valueDecl (docOf doc lparen above) names .var }
  | _ => none

def Context.typeEntry? (c : Context) (above : Option CommentGroup) (lparen : Option Nat) : Spec → Option Entry
  | .typeSpec doc name typeParams assign type _ =>
    let doc := docOf doc lparen above
    let params := ((typeParams.map fun l => l.fields).getD []).flatMap fun f => f.names.map (·.name)
    let d : Declaration :=
      { names := [c.declared name], placement := .type, exported := isExported name.name, typeParams := params
        isAlias := assign.isSome, fragments := c.fragments doc, directives := c.directives doc, file := c.source.name }
    some <| match type with
      | .structType _ fields => { decl := { d with placement := .struct, members := fields.fields.flatMap c.fieldMembers } }
      | .interfaceType _ _ => { decl := { d with placement := .interface } }
      | _ => { decl := d, canBeEnum := c.isBasic name type && assign.isNone }
  | _ => none

/-- The entries of a top-level declaration; methods have none. -/
def Context.entries (c : Context) : Decl → List Entry
  | .bad _ _ => []
  | .gen (.mk doc _ keyword lparen specs _) =>
    match keyword with
    | .kType => specs.filterMap (c.typeEntry? doc lparen)
    | .kConst => c.constEntries doc lparen (none, []) specs
    | .kVar => specs.filterMap (c.varEntry? doc lparen)
    | _ => []
  | .func doc _ receiver name _ _ _ _ =>
    if receiver.isSome then []
    else [{ decl :=
      { names := [c.declared name], placement := .function, exported := isExported name.name
        fragments := c.fragments doc, directives := c.directives doc, file := c.source.name } }]

/-! ## Enums -/

/-- The entry, counted from zero, of the type with a name that can be an enum; of several the last. -/
def candidate? (es : List Entry) (typeName : Text) : Option Nat :=
  ((es.zipIdx.filter fun (e, _) => e.canBeEnum && e.decl.name == typeName).getLast?).map Prod.snd

/-- The constants that belong to an entry. -/
def membersOf (es : List Entry) (i : Nat) : List Member :=
  (es.flatMap (·.consts)).filterMap fun (t, m) => if candidate? es t == some i then some m else none

/-- The enum that the constants of an entry belong to; of several the last. -/
def enumOf (es : List Entry) (e : Entry) : Text :=
  (((e.consts.map Prod.fst).filter fun t => (candidate? es t).isSome).getLast?).getD []

/-- The declarations with every constant given to its type. -/
def linkEnums (es : List Entry) : List Declaration :=
  es.zipIdx.map fun (e, i) =>
    let d := { e.decl with enum := enumOf es e }
    match membersOf es i with
    | [] => d
    | ms => { d with placement := .enum, members := d.members ++ ms }

/-- The files in the order of their names; files of one name keep their order. -/
def sortFiles (fs : List PackageFile) : List PackageFile :=
  ((fs.map fun f => (f.name, f)).mergeSort fun a b => Text.le a.1 b.1).map Prod.snd

def allEntries (space : Text) (info : Option TypeInfo) (fs : List PackageFile) : List Entry :=
  (sortFiles fs).flatMap fun f => f.tree.decls.flatMap (Context.entries ⟨f, space, info⟩)

end Extract

def extract (space : Text) (info : Option TypeInfo) (fs : List PackageFile) : List Declaration :=
  Extract.linkEnums (Extract.allEntries space info fs)

/-- The declaration with a given first name. -/
def Declaration.find? (ds : List Declaration) (name : Text) : Option Nat := ds.findIdx? fun d => d.name == name

end DocAccessors
