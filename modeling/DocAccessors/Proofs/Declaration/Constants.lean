import DocAccessors.Proofs.Declaration.Enum
import DocAccessors.Proofs.Declaration.Positions

/-!
# The constants and the types of a package

Extraction walks over the entries of a block and carries the type and the values in effect from one entry to the next.
Here each constant is seen on its own: what is in effect for it is what the last entry gives, up to its own, that gives
anything.

* `Source.lastWritten`: what the last of some entries gives;
* `DeclaredConst`, `constants`: the constants of files, with the type and the value in effect for them;
* `DeclaredType`, `types`: the types of files;
* `Found space es cs ts ns`: the entries `es` are of the constants `cs` and the types `ts`, and name some of `ns`;
* `found_allEntries`: extraction finds these constants and types.
-/

namespace DocAccessors

namespace Source

/-- The type and the values that an entry of a block gives, if it gives any. -/
def Spec.written? : Spec → Option (Option Expr × List Expr)
  | .valueSpec _ _ type values _ => if type.isSome || !values.isEmpty then some (type, values) else none
  | _ => none

/-- The type and the values of the last entry that gives any. -/
def lastWritten (specs : List Spec) : Option Expr × List Expr := ((specs.filterMap Spec.written?).getLast?).getD (none, [])

/-- The entries of a block, each with those before it; `done` stands before all of them. -/
def withEarlier (done : List Spec) : List Spec → List (List Spec × Spec)
  | [] => []
  | s :: ss => (done, s) :: withEarlier (done ++ [s]) ss

def Expr.name? : Expr → Option Text
  | .ident i => some i.name
  | _ => none

/-- The name that a value with one argument calls, as a conversion to a type does. -/
def Expr.conversion? : Expr → Option Text
  | .call (.ident f) _ [_] _ _ => some f.name
  | _ => none

end Source

open Source (Spec Decl Expr Ident CommentGroup lastWritten withEarlier)

namespace Extract

/-! ## Constants and types -/

/-- A constant where it is declared, with the comment on its entry and the type and the value in effect for it. -/
structure DeclaredConst where
  source : PackageFile
  doc : Option CommentGroup
  id : Ident
  type : Option Expr
  value : Option Expr

namespace DeclaredConst

def name (k : DeclaredConst) : DeclaredName := ⟨k.id.name, k.source.pos k.id.offset⟩

/-- The name of the type that a constant belongs to: its type, or the type that its value is converted to if it has
none. -/
def typeName? (k : DeclaredConst) : Option Text :=
  match k.type with
  | some t => t.name?
  | none => k.value.bind Expr.conversion?

/-- The constant as a member of an enum. -/
def member (k : DeclaredConst) (space : Text) : Member :=
  { name := k.id.name, placement := .enumValue, pos := k.source.pos k.id.offset
    fragments := Context.fragments ⟨k.source, space, none⟩ k.doc
    directives := Context.directives ⟨k.source, space, none⟩ k.doc }

/-- The constant as a member of the type that it belongs to, if there is one. -/
def given? (k : DeclaredConst) (space : Text) : Option (Text × Member) := k.typeName?.map fun t => (t, k.member space)

end DeclaredConst

/-- The constants that an entry of a block declares behind others. -/
def constsOfSpec (f : PackageFile) (above : Option CommentGroup) (lparen : Option Nat) (earlier : List Spec) (s : Spec) :
    List DeclaredConst :=
  match s with
  | .valueSpec doc names _ _ _ =>
    names.zipIdx.map fun (n, i) =>
      ⟨f, docOf doc lparen above, n, (lastWritten (earlier ++ [s])).1, (lastWritten (earlier ++ [s])).2[i]?⟩
  | _ => []

def constsOf (f : PackageFile) : Decl → List DeclaredConst
  | .gen (.mk above _ .kConst lparen specs _) =>
    (withEarlier [] specs).flatMap fun (earlier, s) => constsOfSpec f above lparen earlier s
  | _ => []

/-- The constants of files, in the order of the file names and of their declarations. -/
def constants (fs : List PackageFile) : List DeclaredConst :=
  (sortFiles fs).flatMap fun f => f.tree.decls.flatMap (constsOf f)

/-- A type where it is declared. -/
structure DeclaredType where
  source : PackageFile
  id : Ident
  isAlias : Bool
  type : Expr

namespace DeclaredType

def name (t : DeclaredType) : DeclaredName := ⟨t.id.name, t.source.pos t.id.offset⟩

/-- Whether the type is declared over the name of a basic type, and no alias. -/
def isBasic (t : DeclaredType) : Bool := !t.isAlias && t.type.name?.any basicTypeNames.contains

end DeclaredType

/-- The type that an entry of a declaration declares. -/
def typeOf? (f : PackageFile) : Spec → Option DeclaredType
  | .typeSpec _ name _ assign type _ => some ⟨f, name, assign.isSome, type⟩
  | _ => none

def typesOf (f : PackageFile) : Decl → List DeclaredType
  | .gen (.mk _ _ .kType _ specs _) => specs.filterMap (typeOf? f)
  | _ => []

/-- The types of files, in the order of the file names and of their declarations. -/
def types (fs : List PackageFile) : List DeclaredType :=
  (sortFiles fs).flatMap fun f => f.tree.decls.flatMap (typesOf f)

/-! ## What is in effect -/

theorem lastWritten_concat (done : List Spec) (doc : Option CommentGroup) (names : List Ident) (type : Option Expr)
    (values : List Expr) (comment : Option CommentGroup) :
    lastWritten (done ++ [.valueSpec doc names type values comment]) = inEffect (lastWritten done) type values := by
  unfold lastWritten inEffect
  rw [List.filterMap_append]
  cases type with
  | some t => simp [Spec.written?]
  | none => cases values <;> simp [Spec.written?]

theorem lastWritten_concat_of_none (done : List Spec) {s : Spec} (none : s.written? = none) :
    lastWritten (done ++ [s]) = lastWritten done := by
  simp [lastWritten, none]

/-! ## Entries -/

/-- What is known of an entry without looking at others. -/
structure Entry.Plain (e : Entry) : Prop where
  noEnum : e.decl.placement ≠ .enum
  candidate : e.canBeEnum = true → e.decl.placement = .type ∧ e.decl.members = []
  consts : ∀ p ∈ e.consts, e.decl.placement = .const ∧ p.2.pos ∈ e.decl.names.map (·.pos)

/-- The constants, the types and the names that entries are of. -/
structure Found (space : Text) (es : List Entry) (cs : List DeclaredConst) (ts : List DeclaredType)
    (ns : List DeclaredName) : Prop where
  consts : es.flatMap (·.consts) = cs.filterMap (·.given? space)
  constNames : (es.filter fun e => e.decl.placement = .const).flatMap (·.decl.names) = cs.map (·.name)
  names : (es.flatMap (·.decl.names)).Sublist ns
  candidates : (es.filter (·.canBeEnum)).map (·.decl.names) = (ts.filter (·.isBasic)).map fun t => [t.name]
  plain : ∀ e ∈ es, e.Plain

namespace Found

variable {space : Text}

theorem nil (ns : List DeclaredName) : Found space [] [] [] ns := ⟨rfl, rfl, List.nil_sublist ns, rfl, by simp⟩

theorem append {es es' : List Entry} {cs cs' : List DeclaredConst} {ts ts' : List DeclaredType}
    {ns ns' : List DeclaredName} (h : Found space es cs ts ns) (h' : Found space es' cs' ts' ns') :
    Found space (es ++ es') (cs ++ cs') (ts ++ ts') (ns ++ ns') where
  consts := by rw [List.flatMap_append, h.consts, h'.consts, List.filterMap_append]
  constNames := by rw [List.filter_append, List.flatMap_append, h.constNames, h'.constNames, List.map_append]
  names := by
    rw [List.flatMap_append]
    exact h.names.append h'.names
  candidates := by
    rw [List.filter_append, List.map_append, h.candidates, h'.candidates, List.filter_append, List.map_append]
  plain e he := (List.mem_append.1 he).elim (h.plain e) (h'.plain e)

theorem sublist {es : List Entry} {cs : List DeclaredConst} {ts : List DeclaredType} {ns : List DeclaredName}
    (h : Found space es cs ts ns) : (cs.map (·.name)).Sublist ns := by
  rw [← h.constNames]
  exact (List.filter_sublist.flatMap _).trans h.names

/-- Entries that are found part by part are found as a whole. -/
theorem flatMap {α : Type} (l : List α) {es : α → List Entry} {cs : α → List DeclaredConst} {ts : α → List DeclaredType}
    {ns : α → List DeclaredName} (h : ∀ a, Found space (es a) (cs a) (ts a) (ns a)) :
    Found space (l.flatMap es) (l.flatMap cs) (l.flatMap ts) (l.flatMap ns) := by
  induction l with
  | nil => exact nil []
  | cons a l ih => exact (h a).append ih

/-- Entries without constants that are found one by one are found as a whole. -/
theorem filterMap {α : Type} (l : List α) {e? : α → Option Entry} {t? : α → Option DeclaredType}
    {ns : α → List DeclaredName} (h : ∀ a, Found space (e? a).toList [] (t? a).toList (ns a)) :
    Found space (l.filterMap e?) [] (l.filterMap t?) (l.flatMap ns) := by
  have parts := flatMap l h
  have noConsts : (l.flatMap fun _ => ([] : List DeclaredConst)) = [] := List.flatMap_eq_nil_iff.2 fun _ _ => rfl
  rwa [noConsts, ← List.filterMap_eq_flatMap_toList, ← List.filterMap_eq_flatMap_toList] at parts

theorem single {e : Entry} {ts : List DeclaredType} (consts : e.consts = [])
    (kind : e.decl.placement ≠ .const ∧ e.decl.placement ≠ .enum)
    (candidates : (if e.canBeEnum then [e.decl.names] else []) = (ts.filter (·.isBasic)).map fun t => [t.name])
    (candidate : e.canBeEnum = true → e.decl.placement = .type ∧ e.decl.members = []) :
    Found space [e] [] ts e.decl.names where
  consts := by simp [consts]
  constNames := by simp [kind.1]
  names := by simp
  candidates := by
    rw [← candidates]
    cases flag : e.canBeEnum <;> simp [flag]
  plain := List.forall_mem_singleton.2 ⟨kind.2, candidate, by simp [consts]⟩

end Found

/-! ## Declarations -/

variable (f : PackageFile) (space : Text)

theorem constType?_eq (doc : Option CommentGroup) (n : Ident) (type value : Option Expr) :
    Context.constType? ⟨f, space, none⟩ n type value = DeclaredConst.typeName? ⟨f, doc, n, type, value⟩ := by
  cases type with
  | some t => cases t <;> rfl
  | none =>
    rcases value with - | v
    · rfl
    · cases v with
      | call g lparen args =>
        cases g <;> rcases args with - | ⟨_, - | ⟨_, _⟩⟩ <;> rfl
      | _ => rfl

/-- What an entry gives to enums, it gives by its constants. -/
theorem enumConsts_eq (doc : Option CommentGroup) (names : List Ident) (effect : Option Expr × List Expr) :
    Context.enumConsts ⟨f, space, none⟩ (Context.valueDecl ⟨f, space, none⟩ doc names .const) names effect =
      (names.zipIdx.map fun (n, i) => (⟨f, doc, n, effect.1, effect.2[i]?⟩ : DeclaredConst)).filterMap
        (·.given? space) := by
  rw [Context.enumConsts, List.filterMap_map]
  refine congrArg (List.filterMap · _) (funext fun ⟨n, i⟩ => ?_)
  dsimp only [Function.comp]
  rw [constType?_eq f space doc]
  rfl

variable (above : Option CommentGroup) (lparen : Option Nat)

/-- An entry of a block is of the constants that it declares with the type and the values in effect. -/
theorem found_valueSpec (doc : Option CommentGroup) (names : List Ident) (effect : Option Expr × List Expr) :
    Found space
      [{ decl := Context.valueDecl ⟨f, space, none⟩ doc names .const
         consts := Context.enumConsts ⟨f, space, none⟩ (Context.valueDecl ⟨f, space, none⟩ doc names .const) names effect }]
      (names.zipIdx.map fun (n, i) => ⟨f, doc, n, effect.1, effect.2[i]?⟩) []
      (names.map fun n => ⟨n.name, f.pos n.offset⟩) where
  consts := by
    rw [List.flatMap_singleton]
    exact enumConsts_eq f space doc names effect
  constNames := by
    rw [List.filter_eq_self.2 (by simp [Context.valueDecl]), List.flatMap_singleton, List.map_map]
    change names.map _ = _
    rw [← names.zipIdx_map_fst 0, List.map_map, List.zipIdx_map_fst]
    rfl
  names := by
    rw [List.flatMap_singleton]
    exact List.Sublist.refl _
  candidates := rfl
  plain := by
    refine List.forall_mem_singleton.2 ⟨by simp [Context.valueDecl], by simp, fun p hp => ⟨rfl, ?_⟩⟩
    obtain ⟨⟨n, i⟩, hn, made⟩ := List.mem_filterMap.1 hp
    obtain ⟨t, -, rfl⟩ := Option.map_eq_some_iff.1 made
    exact List.mem_map_of_mem (List.mem_map_of_mem (List.fst_mem_of_mem_zipIdx hn))

/-- **The entries of a block are of its constants.** What is carried from one entry to the next is what the last entry
gives that gives anything. -/
theorem found_constEntries (done specs : List Spec) :
    Found space (Context.constEntries ⟨f, space, none⟩ above lparen (lastWritten done) specs)
      ((withEarlier done specs).flatMap fun p => constsOfSpec f above lparen p.1 p.2) []
      ((specs.flatMap Spec.declared).map fun n => ⟨n.name, f.pos n.offset⟩) := by
  induction specs generalizing done with
  | nil => exact .nil _
  | cons s specs ih =>
    have later := ih (done ++ [s])
    rw [withEarlier, List.flatMap_cons, List.flatMap_cons, List.map_append]
    cases s with
    | valueSpec doc names type values comment =>
      rw [Context.constEntries]
      dsimp only
      rw [← lastWritten_concat done doc names type values comment]
      exact (found_valueSpec f space (docOf doc lparen above) names _).append later
    | _ =>
      rw [lastWritten_concat_of_none _ rfl] at later
      exact (Found.nil _).append later

theorem isBasic_eq (name : Ident) (type : Expr) :
    Context.isBasic ⟨f, space, none⟩ name type = type.name?.any basicTypeNames.contains := by
  cases type <;> rfl

theorem found_typeSpec (s : Spec) :
    Found space (Context.typeEntry? ⟨f, space, none⟩ above lparen s).toList [] (typeOf? f s).toList
      (s.declared.map fun n => ⟨n.name, f.pos n.offset⟩) := by
  cases s with
  | typeSpec doc name typeParams assign type comment =>
    unfold Context.typeEntry? typeOf?
    dsimp only
    split
    · exact .single rfl (by simp) (by cases assign <;> rfl) (by simp)
    · exact .single rfl (by simp) (by cases assign <;> rfl) (by simp)
    · -- any other type is a candidate if it is the name of a basic type, and no alias
      refine .single rfl (by simp) ?_ fun _ => ⟨rfl, rfl⟩
      dsimp only
      have candidate : (⟨f, name, assign.isSome, type⟩ : DeclaredType).isBasic =
          (Context.isBasic ⟨f, space, none⟩ name type && assign.isNone) := by
        rw [isBasic_eq, Bool.and_comm]
        cases assign <;> rfl
      rw [← candidate, Option.toList_some]
      cases flag : DeclaredType.isBasic _ <;> simp [flag, DeclaredType.name, Context.declared]
  | _ => exact .nil _

theorem found_varSpec (s : Spec) :
    Found space (Context.varEntry? ⟨f, space, none⟩ above lparen s).toList [] (none : Option DeclaredType).toList
      (s.declared.map fun n => ⟨n.name, f.pos n.offset⟩) := by
  cases s with
  | valueSpec doc names type values comment => exact .single rfl (by simp [Context.valueDecl]) rfl (by simp)
  | _ => exact .nil _

theorem found_entries (d : Decl) :
    Found space (Context.entries ⟨f, space, none⟩ d) (constsOf f d) (typesOf f d)
      (d.declared.map fun n => ⟨n.name, f.pos n.offset⟩) := by
  rcases d with ⟨start, stop⟩ | ⟨doc, offset, keyword, lparen, specs, rparen⟩ | ⟨doc, offset, receiver, name⟩
  · exact .nil _
  · unfold Context.entries Decl.declared Source.GenDecl.declared
    dsimp only
    split
    · rw [List.map_flatMap]
      exact .filterMap specs (found_typeSpec f space doc lparen)
    · exact found_constEntries f space doc lparen [] specs
    · rw [List.map_flatMap]
      have vars := Found.filterMap specs (found_varSpec f space doc lparen)
      rwa [List.filterMap_none] at vars
    · next noType noConst _ =>
      rw [constsOf, typesOf]
      · exact .nil _
      · rintro above offset lparen specs rparen same
        cases same
        exact noType rfl
      · rintro above offset lparen specs rparen same
        cases same
        exact noConst rfl
  · unfold Context.entries
    dsimp only
    split
    · exact .nil _
    · exact .single rfl (by simp) rfl (by simp)

theorem found_file :
    Found space (f.tree.decls.flatMap (Context.entries ⟨f, space, none⟩)) (f.tree.decls.flatMap (constsOf f))
      (f.tree.decls.flatMap (typesOf f)) f.declared := by
  unfold PackageFile.declared Source.File.declared
  rw [List.map_flatMap]
  exact .flatMap _ (found_entries f space)

/-- **Extraction finds the constants and the types of files**, and names that they declare. -/
theorem found_allEntries (fs : List PackageFile) :
    Found space (allEntries space none fs) (constants fs) (types fs) ((sortFiles fs).flatMap PackageFile.declared) :=
  .flatMap _ fun f => found_file f space

end Extract

end DocAccessors
