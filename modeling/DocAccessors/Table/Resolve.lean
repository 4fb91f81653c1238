import DocAccessors.Configuration.Basic
import DocAccessors.Declaration.Package
import DocAccessors.Source.Parse
import DocAccessors.Table.Basic
import DocAccessors.Typing.Package

/-!
# From directives to tables

Each declaration is resolved on its own, and whole: it gives one table for each of its bindings, or problems.

* `defaultProblem?`: the expression for missing documentation must be a text. That is known here only when it needs
  no name of the package; any other expression is taken as it is;
* `resolveMember` and `resolveBinding` fill one entry and one table;
* `Resolver.process` resolves a declaration: its tables, or the failure made of all its problems; the warnings wait
  in the resolver until they are taken;
* `Resolver.processAll` resolves declarations one after the other and gathers what is to be reported in a bag;
* `processPackage` resolves all declarations of a package.
-/

namespace DocAccessors

/-- Why an expression cannot stand for missing documentation, if that is known. -/
def defaultProblem? (source : Text) : Option Text :=
  match Source.Expr.parse source with
  | .error _ => none
  | .ok e =>
    match Typing.evaluate? e source.length with
    | none => none
    | some (x, types) =>
      let found := text "`default` must be a string expression, found `" ++ source ++ text "`"
      if x.isInvalid || (x.isValue && types.all Typing.BasicKind.isString x.type) then none
      else if x.isValue then some (found ++ text " of type " ++ x.type.render)
      else some found

/-- The levels of options that an attribute has. -/
structure Levels where
  container : Profile
  /-- The level of members, for an attribute that documents members. -/
  member : Option Profile := none
  /-- Whether members get a look-up by name. -/
  lookup : Bool := false

/-- The levels of options of a family of attributes. -/
def AttributeBase.levels : AttributeBase → Levels
  | .docsConst => { container := .item }
  | .documented => { container := .type }
  | .documentedFields => { container := .container, member := some .member, lookup := true }
  | .documentedVariants => { container := .type, member := some .variant }

namespace Resolve

/-- The result of a step: a value, or the failure that prevents it. -/
abbrev Result := Except Failure

/-- A value, unless there is a failure. -/
def ofFailure (f : Option Failure) (a : α) : Result α :=
  match f with
  | none => .ok a
  | some f => .error f

/-- The options of several directive lines; problems of all lines, and keys that occur twice among them, are
reported together. -/
def options (ds : List Directive) : Result (List ReadOption) :=
  let read := ds.map fun d => d.options OptionKind.all
  let os := read.flatMap Prod.fst
  ofFailure (Failure.combine ((read.map Prod.snd).foldl Failure.combine none) (ensureUnique os)) os

def settings (s : Settings) (p : Profile) (os : List ReadOption) : Result Settings :=
  let (s, f) := s.resolve p [os]
  ofFailure f s

/-- The span of the value of the last option with a key. -/
def optionSpan (os : List ReadOption) (k : OptionKind) (fallback : Span) : Span :=
  (((os.filter fun o => o.kind == k).getLast?).map (·.valueSpan)).getD fallback

/-- Where the parts of an item stand, and what it is called in a message. -/
structure ItemPlace where
  span : Span
  defaultSpan : Span
  what : Text

def docValue (mode : DocMode) (fragments : List Text) (s : Settings) (p : ItemPlace) : Result DocValue :=
  match mode.substitute? (normalize fragments s.trim) s.defaultExpr with
  | none =>
    .error (.ofDiagnostic (Diagnostic.error .missingDocumentation p.span (text "missing doc comments on " ++ p.what)))
  | some (.default e) =>
    match defaultProblem? e with
    | some message => .error (.ofDiagnostic (Diagnostic.error .malformedValue p.defaultSpan message))
    | none => .ok (.default e)
  | some v => .ok v

/-- The names of the constants that document a declaration. -/
def constNames (d : Declaration) (s : Settings) (os : List ReadOption) : Result (List Text) :=
  let visible (n : Text) : Text := match s.visibility with
    | some v => applyVisibility n v
    | none => n
  match s.customName with
  | none => .ok (d.names.map fun n => visible (n.name ++ text "Docs"))
  | some custom =>
    let span := optionSpan os .rename d.span
    if 1 < d.names.length then
      .error (.ofDiagnostic (Diagnostic.error .structuralMismatch span
        (text "`rename` cannot be used on a declaration of " ++ Text.ofNat d.names.length ++ text " names")))
    else
      let n := visible custom
      if isIdentifier n then .ok [n]
      else .error (.ofDiagnostic (Diagnostic.error .malformedValue span
        (text "`rename` must give a valid Go identifier, found " ++ Text.quote n)))

/-- Two results together: both values, or the failures of both. -/
def both (a : Result α) (b : Result β) : Result (α × β) :=
  match a, b with
  | .ok a, .ok b => .ok (a, b)
  | .ok _, .error g => .error g
  | .error f, .ok _ => .error f
  | .error f, .error g => .error (f.merge g)

/-- The table of an attribute that documents the declaration itself. -/
def itemTable (d : Declaration) (b : Binding) (s : Settings) (os : List ReadOption) : Result DocTable := do
  let place : ItemPlace := ⟨d.span, optionSpan os .default d.span, text "`" ++ d.name ++ text "`"⟩
  let docs := docValue (.ofOptional b.attr.optional) d.fragments s place
  if b.attr.base = .docsConst then
    let (docs, names) ← both docs (constNames d s os)
    return { DocTable.ofAttribute b.attr d with docs, constNames := names }
  else return { DocTable.ofAttribute b.attr d with docs := ← docs }

/-! ## Members -/

/-- What is needed to resolve the members of a declaration. -/
structure MemberContext where
  decl : Declaration
  attr : Attribute
  profile : Profile
  /-- The settings of the container. -/
  base : Settings
  /-- The options of the container. -/
  options : List ReadOption

/-- Whether each value of an enum gets one entry. -/
def MemberContext.isVariants (c : MemberContext) : Bool := c.attr.base == .documentedVariants

def MemberContext.what (c : MemberContext) (m : Member) : Text :=
  (if m.placement = .enumValue then text "constant" else text "field") ++ text " `" ++ m.name ++ text "` of `" ++
    c.decl.name ++ text "`"

def resolveMember (c : MemberContext) (m : Member) : Result TableItem := do
  let ds := m.directives.filter fun d => Attribute.namesOneOf d.attr [c.attr.base.name]
  let os ← options ds
  let s ← settings c.base c.profile os
  let defaultSpan := optionSpan os .default (optionSpan c.options .default m.span)
  let docs ← docValue (.ofOptional c.attr.optional) m.fragments s ⟨m.span, defaultSpan, c.what m⟩
  let name := s.exposedName m.lookupName
  return ⟨name.getD [], name.isSome, m.name, docs, m.pos⟩

/-- The members resolved so far. -/
structure Members where
  items : List TableItem := []
  entries : List LookupEntry := []
  /-- The values of the constants taken up, each with the first constant that has it. -/
  seen : List (Text × Text) := []
  problems : Option Failure := none
  warnings : List Diagnostic := []

/-- What is said about a constant whose value an earlier one has. -/
def repeatedValue (m : Member) (first : Text) : Diagnostic :=
  Diagnostic.warning .structuralMismatch m.span
    (text "`" ++ m.name ++ text "` has the same value as `" ++ first ++ text "` and is left out of VariantDocs")

/-- The members after one more item. -/
def Members.push (r : Members) (m : Member) (i : TableItem) : Members :=
  { r with
    items := r.items ++ [i]
    entries := if i.named then r.entries ++ [⟨r.items.length, i.name, m.span⟩] else r.entries }

/-- Takes up a member. Among the constants of an enum, one without a name is passed over, and so is one that
repeats a value. -/
def Members.step (c : MemberContext) (r : Members) (m : Member) : Members :=
  if c.isVariants && m.isAnonymous then r
  else match resolveMember c m with
    | .error f => { r with problems := Failure.combine r.problems (some f) }
    | .ok i =>
      match (if c.isVariants then m.value else none) with
      | none => r.push m i
      | some v =>
        match r.seen.lookup v.render with
        | some first => { r with warnings := r.warnings ++ [repeatedValue m first] }
        | none => { r with seen := r.seen ++ [(v.render, m.name)] }.push m i

/-- The table of an attribute that documents members, and warnings. -/
def memberTable (d : Declaration) (b : Binding) (p : Profile) (lookup : Bool) (s : Settings) (os : List ReadOption) :
    Result DocTable × List Diagnostic :=
  let r := d.members.foldl (Members.step ⟨d, b.attr, p, s, os⟩) {}
  let table := { DocTable.ofAttribute b.attr d with items := r.items }
  let result : Result DocTable :=
    match r.problems with
    | some f => .error f
    | none =>
      if lookup then (LookupTable.compile r.entries).map fun t => { table with index := some t } else .ok table
  (result, r.warnings)

/-! ## Declarations -/

/-- The table of a binding, and warnings. -/
def resolveBinding (base : Settings) (d : Declaration) (b : Binding) : Result DocTable × List Diagnostic :=
  let levels := b.attr.base.levels
  let container : Result (List ReadOption × Settings) := do
    let os ← options b.directives
    return (os, ← settings base levels.container os)
  match container with
  | .error f => (.error f, [])
  | .ok (os, s) =>
    match levels.member with
    | none => (itemTable d b s os, [])
    | some p => memberTable d b p levels.lookup s os

end Resolve

/-- What a declaration comes to. -/
structure Verdict where
  tables : List DocTable := []
  failure : Option Failure := none

/-- The bindings of a declaration taken up so far. -/
structure Gathered where
  tables : List DocTable := []
  errors : List Diagnostic := []
  warnings : List Diagnostic := []

/-- Sorts diagnostics: errors stay with the declaration, all others are warnings. -/
def Gathered.collect (g : Gathered) (ds : List Diagnostic) : Gathered :=
  { g with
    errors := g.errors ++ ds.filter Diagnostic.isError
    warnings := g.warnings ++ ds.filter fun x => !x.isError }

/-- Takes up what a binding comes to. -/
def Gathered.step (g : Gathered) (r : Resolve.Result DocTable × List Diagnostic) : Gathered :=
  let g := { g with warnings := g.warnings ++ r.2 }
  match r.1 with
  | .ok t => { g with tables := g.tables ++ [t] }
  | .error f => g.collect (Failure.diagnosticsOf (some f))

/-- The verdict: the tables, unless there are errors. -/
def Gathered.verdict (g : Gathered) : Verdict :=
  match Failure.ofDiagnostics? g.errors with
  | none => { tables := g.tables }
  | some f => { failure := some f }

/-- What declarations are resolved with: the settings that they start from, and the warnings that nobody has taken
yet. -/
structure Resolver where
  base : Settings
  warnings : List Diagnostic := []

namespace Resolver

/-- The resolver of a configuration, without warnings. -/
def ofConfiguration (c : Configuration) : Resolver := { base := c.settings }

def takeWarnings (r : Resolver) : List Diagnostic × Resolver := (r.warnings, { r with warnings := [] })

/-- The problems and bindings of a declaration, gathered. -/
def gather (r : Resolver) (d : Declaration) : Gathered :=
  let v := Validation.ofDeclaration d
  let start : Gathered := { warnings := r.warnings }
  (v.bindings.map (Resolve.resolveBinding r.base d)).foldl Gathered.step (start.collect v.found)

/-- Resolves a declaration: a table for each binding, or all its problems. -/
def process (r : Resolver) (d : Declaration) : Verdict × Resolver :=
  let g := r.gather d
  (g.verdict, { r with warnings := g.warnings })

end Resolver

/-- What a declaration comes to by itself, and the warnings about it. -/
structure Processed extends Verdict where
  warnings : List Diagnostic

/-- Resolves a declaration by itself. -/
def processDeclaration (base : Settings) (d : Declaration) : Processed :=
  let (o, r) := ({ base } : Resolver).process d
  { o with warnings := r.warnings }

/-! ## Packages -/

/-- Declarations resolved so far: their tables, and the bag with their reports. -/
structure Progress where
  resolver : Resolver
  tables : List DocTable := []
  bag : Bag

/-- Resolves one more declaration; its warnings are reported before its errors. -/
def Progress.step (p : Progress) (d : Declaration) : Progress :=
  let (o, r) := p.resolver.process d
  let (warnings, r) := r.takeWarnings
  let bag := p.bag.addAll warnings
  match o.failure with
  | some f => { p with resolver := r, bag := bag.addFailure (some f) }
  | none => { resolver := r, tables := p.tables ++ o.tables, bag }

namespace Resolver

/-- Resolves declarations in order: their tables, and the bag after their reports. -/
def processAll (r : Resolver) (ds : List Declaration) (b : Bag) : Progress :=
  ds.foldl Progress.step { resolver := r, bag := b }

/-- Resolves the declarations of a package: their tables, and their reports, each once and in order, in a bag with a
limit. -/
def report (r : Resolver) (ds : List Declaration) (limit : Int) (files : FileSet) : List DocTable × Bag :=
  let p := r.processAll ds (Bag.empty limit)
  (p.tables, p.bag.dedup.sort (some files))

end Resolver

def processPackage (c : Configuration) (p : Package) : PackageResult :=
  let (tables, bag) := (Resolver.ofConfiguration c).report (p.declarations c) c.diagnosticLimit p.fileSet
  { name := p.name, path := p.path, dir := p.dir, files := p.fileSet, tables, bag }

end DocAccessors
