import DocAccessors.Declaration.Package
import DocAccessors.Module.Constraint
import DocAccessors.Number.Basic
import DocAccessors.Typing.Object
import DocAccessors.Typing.Question

/-!
# Checking a package

All names of a package are declared first. Types are checked before the methods, methods before constants and
variables, and function bodies last.

* `Collect`: the objects that the files of a package declare;
* `checkPackage`: what is known about the names of a package, and whether it has faults;
* `Package.typeCheck`: the same for a package as a value;
* `evaluate?`: an expression outside any package.
-/

namespace DocAccessors.Typing

open DocAccessors.Source (Expr Stmt Spec Decl FieldList Ident)

/-! ## Declared names -/

/-- A declared name: where it stands, and its object. -/
structure Declared where
  pos : Pos
  object : Nat

/-- A function with a body. -/
structure FunctionBody where
  object : Nat
  stmts : List Stmt

/-- What has been collected from the files of a package. -/
structure Collected where
  declared : List Declared := []
  functions : List FunctionBody := []

/-- The file that objects are collected from. -/
structure Origin where
  packageName : Text
  source : PackageFile
  number : Nat

abbrev Collect := StateT Collected Check

namespace Collect

def addObject (p : Origin) (name : Text) (decl : ObjectDecl) : Collect Nat := do
  let s : State ← getThe State
  set { s with objects := s.objects.push { name, decl, file := p.number } }
  return s.objects.size

/-- Notes a fault unless a condition holds. -/
def ensure (b : Bool) : Collect Unit := do
  if !b then
    let s : State ← getThe State
    set { s with failed := true }

/-- Gives an object a name of the package; whether it was free. -/
def bindName (name : Text) (object : Nat) : Collect Bool := do
  let s : State ← getThe State
  if name == text "_" then return true
  else if (s.scope.lookup name).isSome then
    set { s with failed := true }
    return false
  else
    set { s with scope := (name, object) :: s.scope }
    return true

/-- Declares a name of the package, unless it is taken or reserved. -/
def declare (p : Origin) (n : Ident) (decl : ObjectDecl) : Collect Unit := do
  let isReserved := n.name == text "init" || (n.name == text "main" && p.packageName == text "main")
  ensure (!isReserved)
  if isReserved then return
  let i ← addObject p n.name decl
  if ← bindName n.name i then
    modify fun c => { c with declared := ⟨p.source.pos n.offset, i⟩ :: c.declared }

/-- The constants of a declaration. -/
def consts (p : Origin) : Nat → Option Expr × List Expr → List Spec → Collect Unit
  | _, _, [] => return
  | iota, before, .valueSpec _ names type values _ :: specs => do
    let effect := if type.isSome || !values.isEmpty then (type, values) else before
    ensure (names.length == effect.2.length)
    for (n, i) in names.zipIdx do
      declare p n (.const effect.1 effect.2[i]? iota)
    consts p (iota + 1) effect specs
  | iota, before, _ :: specs => consts p (iota + 1) before specs

/-- The variables or the type of a specification. -/
def spec (p : Origin) : Spec → Collect Unit
  | .valueSpec _ names type values _ => do
    ensure (values.isEmpty || values.length == names.length || values.length == 1)
    let isSingle := values.length == names.length
    for (n, i) in names.zipIdx do
      declare p n <| if isSingle then .var 0 1 type values[i]?.toList else .var i names.length type values
  | .typeSpec _ name params assign type _ => declare p name (.type params assign.isSome type)
  | .importSpec _ _ _ _ _ => return

/-- The number of fields of a list that may be missing. -/
def fieldCount (fs : Option FieldList) : Nat := (fs.map (·.fields.length)).getD 0

/-- A function or a method. -/
def func (p : Origin) (receiver : Option FieldList) (name : Ident) (params : Option FieldList) (args : FieldList)
    (results : Option FieldList) (body : Option Stmt) : Collect Unit := do
  let isMethod := 0 < fieldCount receiver
  ensure (receiver.isNone || isMethod)
  let isInit := !isMethod && name.name == text "init"
  let isMain := !isMethod && name.name == text "main" && p.packageName == text "main"
  if isInit || isMain then ensure (fieldCount params == 0 && args.fields.isEmpty && results.isNone)
  ensure (body.isSome || !(isInit || 0 < fieldCount params))
  let object ← addObject p name.name (.func (if isMethod then receiver else none) params args results)
  if !isMethod && !isInit then
    let _ ← bindName name.name object
  match body with
  | some (.block _ stmts _) => modify fun c => { c with functions := ⟨object, stmts⟩ :: c.functions }
  | _ => return

/-- The names of a top-level declaration. -/
def decl (p : Origin) : Decl → Collect Unit
  | .bad _ _ => return
  | .gen (.mk _ _ .kConst _ specs _) => consts p 0 (none, []) specs
  | .gen (.mk _ _ _ _ specs _) => specs.forM (spec p)
  | .func _ _ receiver name params args results body => func p receiver name params args results body

def files (packageName : Text) (fs : List PackageFile) : Collect Unit :=
  for (f, i) in fs.zipIdx do
    f.tree.decls.forM (decl ⟨packageName, f, i⟩)

end Collect

/-! ## Files -/

/-- The oldest language version that a file can ask for. -/
def oldestVersion : Nat := 21

/-- The language version that a file asks for. -/
def fileVersion? (f : PackageFile) : Option Nat :=
  let comments := f.tree.comments.flatten.filter fun c => c.offset < f.tree.packageOffset
  Constraint.languageVersion? (comments.map (·.text))

/-- Sets the language versions of files; none can be too new. -/
def setVersions (fs : List PackageFile) : Check Unit := do
  let versions := fs.map fileVersion?
  Check.ensure (versions.all fun v => v.all (· ≤ newestVersion))
  modify fun s => { s with versions := versions.map fun v => (v.map (max oldestVersion)).getD newestVersion }

/-! ## Packages -/

/-- How deep the rules go for files of a number of bytes. -/
def depthFor (size : Nat) : Nat := 2 * size + 50

/-- The order in which objects are checked. -/
def ObjectDecl.rank : ObjectDecl → Nat
  | .type _ false _ => 0
  | .type _ true _ => 1
  | .func (some _) _ _ _ => 2
  | _ => 3

def checkObjects (r : Rules) : Check Unit := do
  let s : State ← get
  for rank in [0, 1, 2, 3] do
    for (o, i) in s.objects.toList.zipIdx do
      if o.decl.rank == rank then
        let _ ← r.denote i

/-- Checks the bodies of function literals outside functions, and of functions. -/
def checkBodies (r : Rules) (functions : List FunctionBody) : Check Unit := do
  let s : State ← get
  for b in s.bodies do
    modify fun s => { s with user := b.user }
    r.body b.env b.stmts
  for f in functions do
    match (s.objects[f.object]?).bind (·.inside) with
    | some env =>
      modify fun s => { s with user := some f.object }
      r.body env f.stmts
    | none => pure ()
  modify fun s => { s with user := none }

def checkFiles (packageName : Text) (files : List PackageFile) (r : Rules) : Check Collected := do
  setVersions files
  let (_, c) ← (Collect.files packageName files).run {}
  Check.ensure (packageName != text "_")
  checkObjects r
  checkBodies r c.functions.reverse
  answer
  modify fun s => { s with failed := s.failed || growsWithoutEnd s.types s.instances || hasValueCircle s }
  return c

/-- What is known about an object. -/
def meaningOf? (s : State) (d : Declared) : Option (Pos × Meaning) :=
  match (s.objects[d.object]?).map Object.status with
  | some (.done (.type t)) =>
    some (d.pos, .type (match s.types.under t with
      | .basic _ => true
      | _ => false))
  | some (.done (.const t v)) =>
    let name := match t with
      | .defined id n _ => if TypeTable.predeclaredCount ≤ id then some n else none
      | _ => none
    some (d.pos, .const name v)
  | _ => none

/-- What is known about the names of a package, and whether it has faults. -/
def checkPackage (packageName : Text) (files : List PackageFile) : TypeInfo × Bool :=
  let depth := depthFor (total (files.map fun f => f.file.size))
  let (c, s) := (checkFiles packageName files (Rules.ofDepth depth)).run {}
  (⟨c.declared.filterMap (meaningOf? s)⟩, s.failed)

/-! ## Expressions outside packages -/

/-- An expression outside any package, unless it has faults. -/
def evaluate? (e : Expr) (size : Nat) : Option (Operand × TypeTable) :=
  let r := Rules.ofDepth (depthFor size)
  let check : Check Operand := do
    let x ← r.raw { isOutside := true } { generic := true } e
    let s : State ← get
    for b in s.bodies do
      r.body b.env b.stmts
    answer
    return x
  let (x, s) := check.run {}
  if s.failed then none else some (x, s.types)

end DocAccessors.Typing

/-- The package with what is known about its names, and whether it has faults. -/
def DocAccessors.Package.typeCheck (p : DocAccessors.Package) : DocAccessors.Package × Bool :=
  let (info, faulty) := DocAccessors.Typing.checkPackage p.name p.files
  ({ p with info := some info }, faulty)
