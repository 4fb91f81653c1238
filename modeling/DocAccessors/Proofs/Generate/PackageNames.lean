import DocAccessors.Generate.Basic
import DocAccessors.Proofs.Declaration.Enum
import DocAccessors.Proofs.Table.Accepted
import DocAccessors.Proofs.Table.Independence
import DocAccessors.Proofs.Table.Layer
import Mathlib.Data.List.Pairwise

/-!
# Generated names

Constants and variables are generated at the level of the package. A constant is called after the declared name that
it documents unless the options of a directive say otherwise; a variable is always called after its type.

* `DocTable.generatedNames`: the identifiers that are generated for a table; `GeneratedName.IsStandard`: no option has
  changed the name;
* `DocTable.opening_of_emitTable`: the code for a table declares them;
* `GeneratedName.eq_or_shadows`: a standard name tells what it was generated for, except that the constant for `_T_field`
  is called like a variable for the type `T`;
* `Resolver.pairwise_tables`: no two identifiers of a package were generated for the same thing, except for things that
  are called `_`;
* `generated_names_distinct`: so only names that options have changed, those of such constants, and those for things that
  are called `_` can clash.
-/

namespace DocAccessors

/-- A variable for the fields of a type. -/
inductive FieldVariable where
  | docs | names | index
  deriving DecidableEq

namespace FieldVariable

/-- All variables for the fields of a type. -/
def all : List FieldVariable := [.docs, .names, .index]

def suffix : FieldVariable → Text
  | .docs => "fieldDocs"
  | .names => "fieldNames"
  | .index => "fieldIndex"

end FieldVariable

/-- An identifier that is generated at the level of a package. -/
inductive GeneratedName where
  /-- The constant for a declared name, if there is one at its position. -/
  | constant (declared : Option Text) (name : Text)
  | variable (type : Text) (part : FieldVariable)
  deriving DecidableEq

namespace GeneratedName

/-- The identifier itself. -/
def name : GeneratedName → Text
  | .constant _ n => n
  | .variable type part => text "_" ++ type ++ text "_" ++ part.suffix

/-- The name is the one that is used unless an option changes it. -/
def IsStandard : GeneratedName → Prop
  | .constant declared n => ∃ d, declared = some d ∧ n = d ++ text "Docs"
  | .variable _ _ => True

/-- The constant for `_T_field` has the name of the variable for the documentation of the fields of `T`. -/
def Shadows (a b : GeneratedName) : Prop :=
  ∃ type n, a = .constant (some (text "_" ++ type ++ text "_field")) n ∧ b = .variable type .docs

/-- The identifier is generated for something that is called `_`. -/
def IsBlank : GeneratedName → Prop
  | .constant declared _ => declared = some (text "_")
  | .variable type _ => type = text "_"

/-- What kind of declaration declares the identifier. -/
def keyword : GeneratedName → Text
  | .constant _ _ => "const"
  | .variable _ _ => "var"

/-- How the declaration of the identifier starts. -/
def opening (g : GeneratedName) : Text := g.keyword ++ text " " ++ g.name ++ text " = "

end GeneratedName

namespace Declaration

def declaredNames (d : Declaration) : List Text := d.names.map (·.name)

/-- The names among them that can be referred to. -/
def properNames (d : Declaration) : List Text := d.declaredNames.filter fun n => n != text "_"

theorem mem_properNames {d : Declaration} {n : Text} :
    n ∈ d.properNames ↔ n ∈ d.declaredNames ∧ n ≠ text "_" := by
  rw [properNames, List.mem_filter, bne_iff_ne]

theorem index_of_properNames {d : Declaration} (distinct : d.properNames.Nodup) {i j : Nat} {n : Text}
    (hi : d.declaredNames[i]? = some n) (hj : d.declaredNames[j]? = some n) (proper : n ≠ text "_") : i = j := by
  obtain ⟨first, rfl⟩ := List.getElem?_eq_some_iff.1 hi
  obtain ⟨second, same⟩ := List.getElem?_eq_some_iff.1 hj
  have apart := List.pairwise_iff_getElem.1 (List.pairwise_filter.1 distinct)
  by_contra other
  rcases Nat.lt_or_gt_of_ne other with before | after
  · exact apart i j first second before (bne_iff_ne.2 proper) (bne_iff_ne.2 (same ▸ proper)) same.symm
  · exact apart j i second first after (bne_iff_ne.2 (same ▸ proper)) (bne_iff_ne.2 proper) same

end Declaration

/-- The identifiers that are generated for a table. -/
def DocTable.generatedNames (t : DocTable) : List GeneratedName :=
  if t.base = AttributeBase.docsConst.name then
    t.constNames.zipIdx.map fun (n, i) => .constant t.decl.declaredNames[i]? n
  else if t.base = AttributeBase.documentedFields.name then FieldVariable.all.map (.variable t.decl.name)
  else []

theorem name_variable (t : DocTable) (part : FieldVariable) :
    (GeneratedName.variable t.decl.name part).name = Emitter.variableStart t ++ part.suffix := rfl

/-! ## Names in the code -/

theorem Generator.exists_emitter (output : Text) (b : AttributeBase) :
    ∃ e, (ofOutput output).emitter? b.name = some e ∧ e.base = b := by
  cases b <;> exact ⟨_, rfl, rfl⟩

/-- The code for a table is what the emitter of its family writes. -/
theorem Generator.emit_of_emitTable {t : DocTable} {b : AttributeBase} (base : t.base = b.name) {output code : Text}
    {needs : Bool}
    (emitted : (ofOutput output).emitTable t = .ok (code, needs)) : ∃ e : Emitter, e.base = b ∧ e.emit t = .ok code := by
  obtain ⟨e, found, writes⟩ := exists_emitter output b
  rw [emitTable, base, found] at emitted
  dsimp only at emitted
  split at emitted
  · next code' made =>
    cases emitted
    exact ⟨e, writes, made⟩
  · cases emitted

namespace Emitter

theorem opening_of_constDecl (t : DocTable) (declared : Option Text) (n : Text) :
    (GeneratedName.constant declared n).opening <:+: constDecl t n := by
  have code : constDecl t n = comment (n ++ text " is the documentation of " ++ t.decl.name ++ text ".") ++
      ((GeneratedName.constant declared n).opening ++ (docExpr t.docs ++ text "\n\n")) := by
    rw [constDecl, GeneratedName.opening, show text "const " = text "const" ++ text " " from rfl]
    simp only [List.append_assoc]
    rfl
  rw [code]
  exact List.infix_append' _ _ _

theorem opening_of_literalVar (t : DocTable) (part : FieldVariable) (type : Text) (elements : List Text) :
    (GeneratedName.variable t.decl.name part).opening <+:
      literalVar (variableStart t ++ part.suffix) type elements := by
  rw [literalVar, GeneratedName.opening, name_variable]
  simp only [List.append_assoc]
  exact ⟨type ++ openBrace ++ text "\n" ++ elements.flatMap (fun e => text "\t" ++ e ++ text ",\n") ++ closeBrace ++
    text "\n\n", by simp only [List.append_assoc]; rfl⟩

theorem opening_of_fieldDecls (t : DocTable) (index : LookupTable) (part : FieldVariable) :
    (GeneratedName.variable t.decl.name part).opening <:+: fieldDecls t index := by
  have held : ∃ type elements, literalVar (variableStart t ++ part.suffix) type elements <:+: fieldDecls t index := by
    unfold fieldDecls
    simp only [List.append_assoc]
    cases part with
    | docs => exact ⟨_, _, (List.prefix_append _ _).isInfix⟩
    | names => exact ⟨_, _, List.infix_append' _ _ _⟩
    | index =>
      rw [← List.append_assoc (literalVar _ _ _) (literalVar _ _ _)]
      exact ⟨_, _, List.infix_append' _ _ _⟩
  obtain ⟨type, elements, held⟩ := held
  exact (opening_of_literalVar t part type elements).isInfix.trans held

end Emitter

namespace GeneratedName

/-! ## Names tell what they are for -/

theorem ends_of_append_eq {a b s t : Text} (same : a ++ s = b ++ t) (shorter : s.length ≤ t.length) : s <:+ t :=
  List.suffix_of_suffix_length_le (List.suffix_append a s) (same ▸ List.suffix_append b t) shorter

theorem part_eq_docs {a b : Text} {part : FieldVariable} (same : a ++ text "Docs" = b ++ part.suffix) :
    part = .docs := by
  have ends : text "Docs" <:+ part.suffix := ends_of_append_eq same (by cases part <;> decide)
  cases part with
  | docs => rfl
  | names => exact absurd ends (by decide)
  | index => exact absurd ends (by decide)

theorem suffix_inj {a b : Text} {p q : FieldVariable} (same : a ++ p.suffix = b ++ q.suffix) : p = q := by
  rcases Nat.le_total p.suffix.length q.suffix.length with shorter | shorter
  · have ends := ends_of_append_eq same shorter
    revert ends
    cases p <;> cases q <;> decide
  · have ends := ends_of_append_eq same.symm shorter
    revert ends
    cases p <;> cases q <;> decide

/-- A constant and a variable have the same standard name only if the variable holds documentation. -/
theorem shadows_of_name_eq {declared type : Text} {part : FieldVariable}
    (same : declared ++ text "Docs" = text "_" ++ type ++ text "_" ++ part.suffix) :
    Shadows (.constant (some declared) (declared ++ text "Docs")) (.variable type part) := by
  obtain rfl := part_eq_docs same
  have cut : text "_" ++ type ++ text "_" ++ FieldVariable.docs.suffix =
      (text "_" ++ type ++ text "_field") ++ text "Docs" := by
    simp only [List.append_assoc]
    rfl
  rw [cut] at same
  obtain rfl := List.append_cancel_right same
  exact ⟨type, _, rfl, rfl⟩

/-- **A standard name tells what it was generated for**, up to the constants that shadow a variable. -/
theorem eq_or_shadows {a b : GeneratedName} (ha : a.IsStandard) (hb : b.IsStandard) (same : a.name = b.name) :
    a = b ∨ Shadows a b ∨ Shadows b a := by
  rcases a with ⟨declared, n⟩ | ⟨type, part⟩ <;> rcases b with ⟨declared', n'⟩ | ⟨type', part'⟩
  · obtain ⟨d, rfl, rfl⟩ := ha
    obtain ⟨d', rfl, rfl⟩ := hb
    rw [List.append_cancel_right same]
    exact .inl rfl
  · obtain ⟨d, rfl, rfl⟩ := ha
    exact .inr (.inl (shadows_of_name_eq same))
  · obtain ⟨d', rfl, rfl⟩ := hb
    exact .inr (.inr (shadows_of_name_eq same.symm))
  · obtain rfl := suffix_inj same
    simp only [name, List.append_cancel_right_eq, List.append_cancel_left_eq] at same
    rw [same]
    exact .inl rfl

end GeneratedName

/-! ## One declaration -/

/-- The identifiers were not generated for the same thing, unless that is called `_`. -/
def GeneratedName.Apart (a b : GeneratedName) : Prop := a.IsStandard → a = b → a.IsBlank

section Table

variable {t u : DocTable}

theorem mem_generatedNames {g : GeneratedName} (hg : g ∈ t.generatedNames) :
    (t.base = AttributeBase.docsConst.name ∧
        ∃ (i : Nat) (n : Text), t.constNames[i]? = some n ∧ g = .constant t.decl.declaredNames[i]? n) ∨
      (t.base = AttributeBase.documentedFields.name ∧ ∃ part, g = .variable t.decl.name part) := by
  unfold DocTable.generatedNames at hg
  split at hg
  · next const =>
    obtain ⟨⟨n, i⟩, hp, rfl⟩ := List.mem_map.1 hg
    exact .inl ⟨const, i, n, List.mk_mem_zipIdx_iff_getElem?.1 hp, rfl⟩
  · split at hg
    · next fields =>
      obtain ⟨part, -, rfl⟩ := List.mem_map.1 hg
      exact .inr ⟨fields, part, rfl⟩
    · cases hg

/-- **The code for a table declares the identifiers.** -/
theorem DocTable.opening_of_emitTable {b : AttributeBase} (base : t.base = b.name) {g : GeneratedName}
    (hg : g ∈ t.generatedNames) {output code : Text} {needs : Bool}
    (emitted : (Generator.ofOutput output).emitTable t = .ok (code, needs)) : g.opening <:+: code := by
  obtain ⟨e, writes, made⟩ := Generator.emit_of_emitTable base emitted
  rcases mem_generatedNames hg with ⟨const, i, n, hn, rfl⟩ | ⟨fields, part, rfl⟩
  · have family : e = .const := by
      have same := writes.trans (Resolve.eq_of_name_eq (base.symm.trans const))
      cases e <;> first | rfl | cases same
    rw [family, Emitter.emit] at made
    split at made
    · cases made
    · cases made
      obtain ⟨pre, post, split⟩ := List.append_of_mem (List.mem_of_getElem? hn)
      rw [split, List.flatMap_append, List.flatMap_cons]
      exact (Emitter.opening_of_constDecl t _ n).trans (List.infix_append' _ _ _)
  · have family : e = .fields := by
      have same := writes.trans (Resolve.eq_of_name_eq (base.symm.trans fields))
      cases e <;> first | rfl | cases same
    rw [family, Emitter.emit] at made
    split at made
    · cases made
      exact Emitter.opening_of_fieldDecls t _ part
    · cases made

theorem pairwise_generatedNames (distinct : t.decl.properNames.Nodup) :
    t.generatedNames.Pairwise GeneratedName.Apart := by
  unfold DocTable.generatedNames
  split
  · rw [List.pairwise_map, List.pairwise_iff_getElem]
    intro i j hi hj before standard same
    rw [List.getElem_zipIdx, List.getElem_zipIdx] at same
    rw [List.getElem_zipIdx] at standard
    rw [List.getElem_zipIdx]
    obtain ⟨d, declared, -⟩ := standard
    simp only [Nat.zero_add] at same declared ⊢
    injection same with same
    by_contra proper
    have proper : d ≠ text "_" := fun blank => proper (declared.trans (congrArg some blank))
    exact Nat.ne_of_lt before (Declaration.index_of_properNames distinct declared (same ▸ declared) proper)
  · split
    · rw [List.pairwise_map]
      refine List.Pairwise.imp_of_mem ?_ (by decide : FieldVariable.all.Pairwise (· ≠ ·))
      intro p q _ _ other _ same
      exact absurd (by injection same) other
    · exact List.Pairwise.nil

/-- So are those for two tables of different families. -/
theorem apart_of_base_ne (other : t.base ≠ u.base) {a b : GeneratedName} (ha : a ∈ t.generatedNames)
    (hb : b ∈ u.generatedNames) : a.Apart b := by
  intro _ same
  rcases mem_generatedNames ha with ⟨ta, i, n, -, rfl⟩ | ⟨ta, part, rfl⟩ <;>
    rcases mem_generatedNames hb with ⟨ub, j, m, -, rfl⟩ | ⟨ub, part', rfl⟩
  · exact absurd (ta.trans ub.symm) other
  · cases same
  · cases same
  · exact absurd (ta.trans ub.symm) other

/-- A table for fields is that of a type, which declares one name. -/
def DocTable.NamesType (t : DocTable) : Prop :=
  t.base = AttributeBase.documentedFields.name → t.decl.name ∈ t.decl.declaredNames

/-- So are those for tables of declarations without a common name. -/
theorem apart_of_disjoint (ht : t.NamesType) (hu : u.NamesType)
    (disjoint : ∀ n ∈ t.decl.properNames, n ∉ u.decl.properNames) {a b : GeneratedName}
    (ha : a ∈ t.generatedNames) (hb : b ∈ u.generatedNames) : a.Apart b := by
  intro standard same
  rcases mem_generatedNames ha with ⟨-, i, n, -, rfl⟩ | ⟨ta, part, rfl⟩ <;>
    rcases mem_generatedNames hb with ⟨-, j, m, -, rfl⟩ | ⟨ub, part', rfl⟩
  · obtain ⟨d, declared, -⟩ := standard
    injection same with same
    by_contra proper
    have proper : d ≠ text "_" := fun blank => proper (declared.trans (congrArg some blank))
    exact disjoint d (Declaration.mem_properNames.2 ⟨List.mem_of_getElem? declared, proper⟩)
      (Declaration.mem_properNames.2 ⟨List.mem_of_getElem? (same ▸ declared), proper⟩)
  · cases same
  · cases same
  · injection same with same
    by_contra proper
    exact disjoint t.decl.name (Declaration.mem_properNames.2 ⟨ht ta, proper⟩)
      (Declaration.mem_properNames.2 ⟨same ▸ hu ub, proper⟩)

end Table

/-! ## Types have one name -/

namespace Extract

/-- An entry for a type that can have fields or constants declares one name. -/
def Entry.NamesType (e : Entry) : Prop :=
  e.decl.placement ≠ .enum ∧ (e.decl.placement = .struct ∨ e.canBeEnum = true → ∃ n, e.decl.names = [n])

variable (c : Context)

theorem namesType_of_typeEntry? {above : Option Source.CommentGroup} {lparen : Option Nat} {s : Source.Spec}
    {e : Entry} (h : c.typeEntry? above lparen s = some e) : e.NamesType := by
  unfold Context.typeEntry? at h
  split at h
  · injection h with h
    subst h
    split <;> exact ⟨by simp, fun _ => ⟨_, rfl⟩⟩
  · cases h

theorem namesType_of_constEntries (above : Option Source.CommentGroup) (lparen : Option Nat)
    (before : Option Source.Expr × List Source.Expr) (specs : List Source.Spec) :
    ∀ e ∈ c.constEntries above lparen before specs, e.NamesType := by
  fun_induction Context.constEntries c above lparen before specs with
  | case1 => simp
  | case2 before doc names type values comment specs effect d ih =>
    intro e he
    rcases List.mem_cons.1 he with rfl | he
    · exact ⟨by simp [d, Context.valueDecl], by simp [d, Context.valueDecl]⟩
    · exact ih e he
  | case3 before spec specs _ ih => exact ih

theorem namesType_of_entries (d : Source.Decl) : ∀ e ∈ c.entries d, e.NamesType := by
  intro e he
  unfold Context.entries at he
  split at he
  · cases he
  · split at he
    · obtain ⟨s, -, made⟩ := List.mem_filterMap.1 he
      exact namesType_of_typeEntry? c made
    · exact namesType_of_constEntries c _ _ _ _ e he
    · obtain ⟨s, -, made⟩ := List.mem_filterMap.1 he
      unfold Context.varEntry? at made
      split at made
      · injection made with made
        subst made
        exact ⟨by simp [Context.valueDecl], by simp [Context.valueDecl]⟩
      · cases made
    · cases he
  · split at he
    · cases he
    · rw [List.mem_singleton.1 he]
      exact ⟨by simp, by simp⟩

theorem namesType_of_allEntries {space : Text} {info : Option TypeInfo} {fs : List PackageFile} :
    ∀ e ∈ allEntries space info fs, e.NamesType := by
  intro e he
  obtain ⟨f, -, he⟩ := List.mem_flatMap.1 he
  obtain ⟨d, -, he⟩ := List.mem_flatMap.1 he
  exact namesType_of_entries _ d e he

/-- **A declaration that can have fields or constants declares one name.** -/
theorem names_of_extract {space : Text} {info : Option TypeInfo} {fs : List PackageFile} {d : Declaration}
    (hd : d ∈ extract space info fs) (members : d.placement = .struct ∨ d.placement = .enum) :
    ∃ n, d.names = [n] := by
  obtain ⟨i, e, he, rfl⟩ := mem_linkEnums.1 hd
  obtain ⟨other, one⟩ := namesType_of_allEntries e (List.mem_of_getElem? he)
  rw [link_names]
  refine one ?_
  cases given : membersOf (allEntries space info fs) i with
  | nil =>
    simp only [link, given] at members
    exact .inl (members.resolve_right other)
  | cons m ms => exact .inr (canBeEnum_of_membersOf he (by simp [given]))

end Extract

/-! ## A package -/

namespace Resolver

open Resolve

variable {r : Resolver} {d : Declaration} {t : DocTable}

/-- The binding of a table stands on the declaration by right, and its lines are those that name its attribute. -/
theorem sorted_of_mem_tables (ht : t ∈ (r.process d).1.tables) :
    ∃ b, (resolveBinding r.base d b).1 = .ok t ∧ Validation.Stands d b.attr ∧
      ∀ x, x ∈ b.directives ↔ x ∈ d.directives ∧ x.attribute? = some b.attr := by
  obtain ⟨b, hb, made⟩ := exists_binding_of_mem_tables ht
  have sorts := Validation.sorts_ofDeclaration (process_succeeds_iff.1 (failure_of_mem_tables ht)).1
  exact ⟨b, made, sorts.stands b hb, fun x => sorts.mem_directives_iff hb⟩

theorem pairwise_of_process (distinct : d.properNames.Nodup) :
    ((r.process d).1.tables.flatMap DocTable.generatedNames).Pairwise GeneratedName.Apart := by
  rw [List.pairwise_flatMap]
  refine ⟨fun t ht => pairwise_generatedNames (decl_of_mem_tables ht ▸ distinct), ?_⟩
  exact (List.pairwise_map.1 (nodup_tables r d)).imp fun other a ha b hb => apart_of_base_ne other ha hb

theorem namesType_of_process {space : Text} {info : Option TypeInfo} {fs : List PackageFile}
    (hd : d ∈ extract space info fs) (ht : t ∈ (r.process d).1.tables) : t.NamesType := by
  intro fields
  obtain ⟨b, made, ⟨valid, -⟩, -⟩ := sorted_of_mem_tables ht
  obtain ⟨-, base, -, rfl⟩ := attribute_of_resolveBinding made
  have family : b.attr.base = .documentedFields := eq_of_name_eq (base.symm.trans fields)
  have members : t.decl.placement = .struct ∨ t.decl.placement = .enum := by
    simpa [Attribute.isValidOn, Attribute.validOn, family] using valid
  obtain ⟨n, names⟩ := Extract.names_of_extract hd members
  simp [Declaration.name, Declaration.declaredNames, names]

theorem processPackage_tables (c : Configuration) (p : Package) : (processPackage c p).tables =
    (p.declarations c).flatMap fun d => (({ base := c.settings } : Resolver).process d).1.tables := by
  change (({ base := c.settings } : Resolver).processAll (p.declarations c) _).tables = _
  rw [processAll_eq]
  rfl

/-- **No two identifiers of a package were generated for the same thing**, unless that is called `_`. -/
theorem pairwise_tables {c : Configuration} {p : Package}
    (distinct : ((p.declarations c).flatMap Declaration.properNames).Nodup) :
    ((processPackage c p).tables.flatMap DocTable.generatedNames).Pairwise GeneratedName.Apart := by
  obtain ⟨each, disjoint⟩ := List.nodup_flatMap.1 distinct
  rw [processPackage_tables, List.flatMap_assoc, List.pairwise_flatMap]
  refine ⟨fun d hd => pairwise_of_process (each d hd), disjoint.imp_of_mem ?_⟩
  intro d e hd he apart a ha b hb
  obtain ⟨t, ht, ha⟩ := List.mem_flatMap.1 ha
  obtain ⟨u, hu, hb⟩ := List.mem_flatMap.1 hb
  refine apart_of_disjoint (namesType_of_process hd ht) (namesType_of_process he hu) ?_ ha hb
  rw [decl_of_mem_tables ht, decl_of_mem_tables hu]
  exact fun n hn hn' => apart hn hn'

end Resolver

/-! ## Options that change names -/

def OptionValue.visibility? : OptionValue → Option Visibility
  | .vis v => some v
  | _ => none

theorem OptionValue.kind_of_rename? {v : OptionValue} {n : Text} (h : v.rename? = some n) : v.kind = .rename := by
  cases v <;> first | rfl | cases h

theorem OptionValue.kind_of_visibility? {v : OptionValue} {w : Visibility} (h : v.visibility? = some w) :
    v.kind = .vis := by
  cases v <;> first | rfl | cases h

theorem Settings.foldl_apply_visibility (os : List ReadOption) (s : Settings) :
    (os.foldl (fun s o => s.apply o.value) s).visibility = (lastGiven OptionValue.visibility? os).or s.visibility :=
  foldl_apply_field OptionValue.visibility? Settings.visibility (fun s v => by cases v <;> rfl) os s

/-- A value that options give a field comes from one of them. -/
theorem exists_of_lastGiven {pick : OptionValue → Option α} {os : List ReadOption} {a : α}
    (h : lastGiven pick os = some a) : ∃ o ∈ os, pick o.value = some a :=
  List.mem_filterMap.1 (List.mem_of_getLast? h)

/-- A line of a declaration that asks for a constant has an option of a kind. -/
def Declaration.GivesConstant (d : Declaration) (k : OptionKind) : Prop :=
  ∃ x ∈ d.directives, (∃ a, x.attribute? = some a ∧ a.base = .docsConst) ∧
    ∃ o ∈ (x.options OptionKind.all).1, o.kind = k

/-- An option has changed the name: it gives another one, or it changes the first letter. -/
inductive GeneratedName.IsChanged (d : Declaration) : GeneratedName → Prop
  | renamed {declared : Option Text} {n : Text} (given : d.GivesConstant .rename) : IsChanged d (.constant declared n)
  | recased {declared : Text} {v : Visibility} (given : d.GivesConstant .vis) :
      IsChanged d (.constant (some declared) (applyVisibility (declared ++ text "Docs") v))

namespace Resolve

theorem names_of_settings {c : Configuration} {p : Profile} {os : List ReadOption} {s : Settings}
    (hs : settings c.settings p os = .ok s) :
    s.customName = lastGiven OptionValue.rename? os ∧ s.visibility = lastGiven OptionValue.visibility? os := by
  obtain ⟨-, rfl⟩ := settings_eq_ok_iff.1 hs
  have base : c.settings.customName = none ∧ c.settings.visibility = none := by
    unfold Configuration.settings
    split <;> exact ⟨rfl, rfl⟩
  rw [Settings.foldl_apply_customName, Settings.foldl_apply_visibility, base.1, base.2, Option.or_none, Option.or_none]
  exact ⟨rfl, rfl⟩

/-- Constants are called after the declared names unless there is a custom name. -/
theorem constNames_eq {d : Declaration} {s : Settings} {os : List ReadOption} {names : List Text}
    (h : constNames d s os = .ok names) (plain : s.customName = none) :
    names = d.declaredNames.map fun n =>
      match s.visibility with
      | none => n ++ text "Docs"
      | some v => applyVisibility (n ++ text "Docs") v := by
  unfold constNames at h
  rw [plain] at h
  injection h with h
  rw [← h, Declaration.declaredNames, List.map_map]
  cases s.visibility <;> rfl

/-- **A name is standard, or an option on a line of its declaration has changed it.** -/
theorem standard_or_changed {c : Configuration} {d : Declaration} {t : DocTable}
    (ht : t ∈ (({ base := c.settings } : Resolver).process d).1.tables) {g : GeneratedName}
    (hg : g ∈ t.generatedNames) : g.IsStandard ∨ g.IsChanged d := by
  rcases mem_generatedNames hg with ⟨const, i, n, hn, rfl⟩ | ⟨-, part, rfl⟩
  · obtain ⟨b, made, -, lines⟩ := Resolver.sorted_of_mem_tables ht
    obtain ⟨-, base, -, rfl⟩ := attribute_of_resolveBinding made
    have family : b.attr.base = .docsConst := eq_of_name_eq (base.symm.trans const)
    obtain ⟨os, s, hos, hs, made⟩ := resolveBinding_ok made
    simp only [family, AttributeBase.levels] at made
    obtain ⟨v, names, -, named, shape⟩ := itemTable_ok made
    have constants : t.constNames = names := by rw [shape]
    obtain ⟨custom, visible⟩ := names_of_settings hs
    have gives : ∀ o ∈ os, t.decl.GivesConstant o.kind := by
      intro o ho
      obtain ⟨-, -, rfl⟩ := options_eq_ok_iff.1 hos
      obtain ⟨x, hx, ho⟩ := List.mem_flatMap.1 ho
      obtain ⟨hx, attr⟩ := (lines x).1 hx
      exact ⟨x, hx, ⟨b.attr, attr, family⟩, o, ho, rfl⟩
    cases hc : s.customName with
    | some new =>
      obtain ⟨o, ho, picked⟩ := exists_of_lastGiven (custom.symm.trans hc)
      exact .inr (.renamed (OptionValue.kind_of_rename? picked ▸ gives o ho))
    | none =>
      rw [constants, constNames_eq (named family) hc, List.getElem?_map] at hn
      obtain ⟨declared, at', rfl⟩ := Option.map_eq_some_iff.1 hn
      rw [at']
      cases hv : s.visibility with
      | none => exact .inl ⟨declared, rfl, rfl⟩
      | some v =>
        obtain ⟨o, ho, picked⟩ := exists_of_lastGiven (visible.symm.trans hv)
        exact .inr (.recased (OptionValue.kind_of_visibility? picked ▸ gives o ho))
  · exact .inl trivial

end Resolve

/-- **Generated names are distinct unless an option says otherwise.** In a package that declares every name other than
`_` once, two identifiers that are generated have the same name only if one of them is not standard, or one is the
constant for `_T_field` and the other a variable for the type `T`, or both are generated for things that are called `_`.
A name is not standard only if a line that asks for the constant gives it another name or changes its first letter. The
code for a table declares the identifiers. -/
theorem generated_names_distinct {c : Configuration} {p : Package}
    (distinct : ((p.declarations c).flatMap Declaration.properNames).Nodup) :
    ((processPackage c p).tables.flatMap DocTable.generatedNames).Pairwise (fun a b =>
      a.IsStandard → b.IsStandard → a.name = b.name → a.Shadows b ∨ b.Shadows a ∨ a = b ∧ a.IsBlank) ∧
    ∀ t ∈ (processPackage c p).tables, ∀ g ∈ t.generatedNames, (g.IsStandard ∨ g.IsChanged t.decl) ∧
      ∀ output code needs, (Generator.ofOutput output).emitTable t = .ok (code, needs) → g.opening <:+: code := by
  constructor
  · refine (Resolver.pairwise_tables distinct).imp fun apart standard standard' same => ?_
    rcases GeneratedName.eq_or_shadows standard standard' same with rfl | shadows | shadows
    · exact .inr (.inr ⟨rfl, apart standard rfl⟩)
    · exact .inl shadows
    · exact .inr (.inl shadows)
  · intro t ht g hg
    rw [Resolver.processPackage_tables] at ht
    obtain ⟨d, -, ht⟩ := List.mem_flatMap.1 ht
    refine ⟨?_, fun output code needs emitted => ?_⟩
    · rw [Resolver.decl_of_mem_tables ht]
      exact Resolve.standard_or_changed ht hg
    · obtain ⟨b, made, -⟩ := Resolver.sorted_of_mem_tables ht
      exact DocTable.opening_of_emitTable (Resolve.attribute_of_resolveBinding made).2.1 hg emitted

/-- A type with a constant and with variables for its fields, two constants whose visibility is given, and two
variables without a name. -/
def thermometer : Package :=
  (({} : Package).takeFile "a.go" "package p

// A thermometer.
//documented:docs_const
//documented:documented_fields
type Sensor struct {
	// In degrees.
	Heat int
}

// Its limits.
//documented:docs_const vis = unexported
const Low, High = 1, 2

var _, _ = Low, High
" false).1

theorem generated_names_distinct_thermometer :
    ((thermometer.declarations {}).flatMap Declaration.properNames).Nodup ∧
    ((processPackage {} thermometer).tables.flatMap DocTable.generatedNames).map GeneratedName.name =
      ["SensorDocs", "_Sensor_fieldDocs", "_Sensor_fieldNames", "_Sensor_fieldIndex", "lowDocs", "highDocs"] ∧
    ((processPackage {} thermometer).tables.flatMap DocTable.generatedNames).Pairwise (fun a b =>
      a.IsStandard → b.IsStandard → a.name = b.name → a.Shadows b ∨ b.Shadows a ∨ a = b ∧ a.IsBlank) := by
  have distinct : ((thermometer.declarations {}).flatMap Declaration.properNames).Nodup := by decide +kernel
  exact ⟨distinct, by decide +kernel, (generated_names_distinct distinct).1⟩

/-- Constants that are renamed alike, constants that differ in the case of the first letter until an option changes
it, a constant that is called like the variable for the fields of a type, and constants without a name. -/
def clashing : Package :=
  (({} : Package).takeFile "a.go" "package p

// One.
//documented:docs_const rename = \"Both\"
const One = 1

// Two.
//documented:docs_const rename = \"Both\"
const Two = 2

// Lower.
//documented:docs_const vis = exported
const a = 3

// Upper.
//documented:docs_const
const A = 4

// Field.
//documented:docs_const
const _T_field = 5

//documented:documented_fields
type T struct {
	// Six.
	X int
}

// Blank.
//documented:docs_const
const _, _ = 7, 8
" false).1

/-- Generated names can clash, without any problem being reported. -/
theorem generated_names_clash :
    (processPackage {} clashing).bag.hasErrors = false ∧
    ((clashing.declarations {}).flatMap Declaration.properNames).Nodup ∧
    ((processPackage {} clashing).tables.flatMap DocTable.generatedNames).map GeneratedName.name =
      ["Both", "Both", "ADocs", "ADocs", "_T_fieldDocs", "_T_fieldDocs", "_T_fieldNames", "_T_fieldIndex", "_Docs",
        "_Docs"] ∧
    ¬ (((processPackage {} clashing).tables.flatMap DocTable.generatedNames).map GeneratedName.name).Nodup := by
  decide +kernel

end DocAccessors
