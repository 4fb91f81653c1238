import DocAccessors.Declaration.Basic

/-!
# Bindings

The directives of a declaration are sorted by what they enable: a *binding* is one attribute together with all
directive lines that enable it. A directive with an unknown attribute, or on a declaration that the attribute
does not apply to, is a problem; so is enabling both forms of an attribute.

* `Validation.ofDeclaration` gives the bindings of a declaration in the order of their first lines, and every
  problem of the declaration and of its members.
-/

namespace DocAccessors

/-- An attribute enabled on a declaration, with the directive lines that enable it. -/
structure Binding where
  attr : Attribute
  /-- The first line. -/
  first : Directive
  /-- The lines after it. -/
  more : List Directive := []

def Binding.directives (b : Binding) : List Directive := b.first :: b.more

/-- What the directives of a declaration come to. -/
structure Validation where
  bindings : List Binding := []
  found : List Diagnostic := []

namespace Validation

/-- The validation with one more problem. -/
def report (v : Validation) (d : Diagnostic) : Validation := { v with found := v.found ++ [d] }

/-- The binding of a family of attributes. -/
def binding? (v : Validation) (b : AttributeBase) : Option Binding := v.bindings.find? fun x => x.attr.base = b

/-- The validation with one more line of a binding. -/
def extend (v : Validation) (d : Directive) (b : AttributeBase) : Validation :=
  { v with bindings := v.bindings.map fun x => if x.attr.base = b then { x with more := x.more ++ [d] } else x }

/-- What is said about an attribute that does not exist. -/
def unknownAttribute (d : Directive) : Diagnostic :=
  Diagnostic.error .unknownOption d.nameSpan
    (text "unknown attribute `" ++ d.attr ++ text "`; expected one of " ++ tickedList Attribute.names)

/-- What is said about a deprecated name of an attribute. -/
def deprecatedAttribute (d : Directive) (a : Attribute) : Diagnostic :=
  Diagnostic.warning .unknownOption d.nameSpan
    (text "attribute `" ++ d.attr ++ text "` is deprecated; use `" ++ a.name ++ text "` instead")

/-- What is said about an attribute that does not apply to what it stands on. -/
def misplaced (d : Directive) (a : Attribute) (p : Placement) : Diagnostic :=
  Diagnostic.error .structuralMismatch d.nameSpan <|
    if a.base = .documentedVariants ∧ p = .struct then
      "documented_variants can only be used on enums; for structs use documented_fields"
    else text "`" ++ a.name ++ text "` cannot be used on " ++ p.noun

/-- What is said about an attribute on a type that is only another name. -/
def onAlias (d : Directive) (a : Attribute) : Diagnostic :=
  Diagnostic.error .structuralMismatch d.nameSpan (text "`" ++ a.name ++ text "` cannot be used on type aliases")

/-- What is said about the second form of an attribute. -/
def bothForms (d : Directive) (a : Attribute) (b : Binding) (decl : Declaration) : Diagnostic :=
  (Diagnostic.error .structuralMismatch d.nameSpan
    (text "`" ++ b.attr.name ++ text "` and `" ++ a.name ++ text "` cannot both be enabled on `" ++ decl.name ++
      text "`")).withNote b.first.nameSpan (text "`" ++ b.attr.name ++ text "` enabled here")

/-- What is said about the optional form on a member. -/
def optionalOnMember (d : Directive) (a : Attribute) (decl : Declaration) : Diagnostic :=
  Diagnostic.error .structuralMismatch d.nameSpan
    (text "members use `" ++ a.base.name ++ text "`; the optional form is chosen on `" ++ decl.name ++ text "`")

/-- What is said about an attribute on a member of a declaration that does not enable it. -/
def notEnabled (d : Directive) (a : Attribute) (decl : Declaration) (m : Member) : Diagnostic :=
  let base := a.base.name
  (Diagnostic.error .structuralMismatch d.nameSpan
    (text "`" ++ base ++ text "` on `" ++ m.name ++ text "` has no effect unless `" ++ decl.name ++
      text "` enables `" ++ base ++ text "` or `" ++ base ++ text "_opt`")).withNote decl.span
    (text "`" ++ decl.name ++ text "` declared here")

/-- Looks the attribute of a directive up, reporting unknown and deprecated names. -/
def lookup (v : Validation) (d : Directive) : Validation × Option Attribute :=
  match Attribute.lookup? d.attr with
  | none => (v.report (unknownAttribute d), none)
  | some (a, deprecated) => (if deprecated then v.report (deprecatedAttribute d a) else v, some a)

/-- Takes up a directive whose attribute is known. -/
def place (decl : Declaration) (v : Validation) (d : Directive) (a : Attribute) : Validation :=
  if !a.isValidOn decl.placement then
    -- on a constant of an enum, a directive for members is looked at with the enum
    if !decl.enum.isEmpty && a.isMemberOn .enumValue then v else v.report (misplaced d a decl.placement)
  else if decl.isAlias ∧ a.base ≠ .docsConst then v.report (onAlias d a)
  else match v.binding? a.base with
    | none => { v with bindings := v.bindings ++ [⟨a, d, []⟩] }
    | some b => if b.attr.optional = a.optional then v.extend d a.base else v.report (bothForms d a b decl)

/-- Takes up a directive of a declaration. -/
def step (decl : Declaration) (v : Validation) (d : Directive) : Validation :=
  match v.lookup d with
  | (v, none) => v
  | (v, some a) => v.place decl d a

/-- The attribute of a directive on a member; on a constant, what is not for constants of an enum is left to the
declaration of the constant. -/
def memberAttribute (v : Validation) (m : Member) (d : Directive) : Validation × Option Attribute :=
  if m.placement = .enumValue then
    (v, ((Attribute.lookup? d.attr).map Prod.fst).filter fun a => a.isMemberOn m.placement)
  else match v.lookup d with
    | (v, none) => (v, none)
    | (v, some a) => if a.isMemberOn m.placement then (v, some a) else (v.report (misplaced d a m.placement), none)

/-- Takes up a directive of a member. -/
def memberStep (decl : Declaration) (m : Member) (v : Validation) (d : Directive) : Validation :=
  match v.memberAttribute m d with
  | (v, none) => v
  | (v, some a) =>
    if a.optional then v.report (optionalOnMember d a decl)
    else if (v.binding? a.base).isNone then v.report (notEnabled d a decl m)
    else v

/-- The bindings of a declaration and all problems with its directives. -/
def ofDeclaration (decl : Declaration) : Validation :=
  let v := decl.directives.foldl (step decl) {}
  decl.members.foldl (fun v m => m.directives.foldl (memberStep decl m) v) v

end Validation

end DocAccessors
