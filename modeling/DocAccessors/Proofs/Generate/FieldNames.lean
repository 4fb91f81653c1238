import DocAccessors.Proofs.Generate.FieldLookup
import DocAccessors.Proofs.Settings.Conventions
import DocAccessors.Proofs.Table.Precedence

/-!
# Fields without a name

Generated code lists the names of fields, with an empty one for each field that has none, and the fields that have a
name are in the index. A name that is itself empty cannot be told from none in the list, but it is in the index.

* `Layers.Erases`: the layers of options give a member a name that is empty; `Layers.Fill.erased_iff` says that
  this is when an item has a name and the name is empty;
* `Literal.fieldNames`, `read_fieldNames`: the names and the index that are generated for a table, read back;
* `Resolver.empty_names`: empty names in the list are the fields that are missing from the index, and the empty name
  leads nowhere, if and only if no member has an empty name.
-/

namespace DocAccessors

/-! ## Names that are empty -/

/-- The item has a name, and the name is empty. -/
def TableItem.IsErased (i : TableItem) : Prop := i.named = true ∧ i.name = []

namespace Layers

/-- The layers give the member a name that is empty: it is renamed to nothing, or a convention leaves nothing of its
name. -/
def Erases (l : Layers) (m : Member) : Prop :=
  lastGiven OptionValue.rename? l.own = some [] ∨
    (lastGiven OptionValue.rename? l.own = none ∧ m.isAnonymous = false ∧
      ∃ c, l.convention = some c ∧ c.LeavesNothing m.name)

variable {l : Layers} {m : Member} {i : TableItem}

theorem name_eq_some_nil_iff : l.name m = some [] ↔ l.Erases m := by
  unfold name Erases
  cases renamed : lastGiven OptionValue.rename? l.own with
  | some n => simp
  | none =>
    cases anonymous : m.isAnonymous with
    | true => simp
    | false =>
      have some_name : m.name ≠ [] := by
        rw [Member.isAnonymous, Bool.or_eq_false_iff] at anonymous
        simpa using anonymous.2
      cases convention : l.convention with
      | none => simp [some_name]
      | some c => simp [CaseConvention.convert_eq_nil_iff Text.lawful_asciiWords]

theorem Fill.name_eq_nil (h : l.Fill m i) (unnamed : i.named = false) : i.name = [] := by
  rw [h.named] at unnamed
  rw [h.name, Option.isSome_eq_false_iff.1 unnamed |> Option.isNone_iff_eq_none.1, Option.getD_none]

/-- **An item has a name that is empty if and only if the layers erase it.** -/
theorem Fill.erased_iff (h : l.Fill m i) : i.IsErased ↔ l.Erases m := by
  rw [TableItem.IsErased, h.named, h.name, ← name_eq_some_nil_iff]
  cases l.name m <;> simp

end Layers

/-! ## Names in generated code -/

namespace Literal

/-- Documentation that is passed over. -/
def documentation (optional : Bool) (v : DocValue) : Scanner Unit := do
  if optional then
    let _ ← option id v.expression?
  else
    let _ ← value id v.expression?

/-- The variables for the fields of a type: their documentation, which is passed over, then their names and the index. -/
def fieldNames (t : DocTable) : Scanner (List Text × List (Text × Int)) := do
  let start := Emitter.variableStart t
  let _ ← array (start ++ text "fieldDocs") (if t.optional then text "documented.Option" else text "string")
    (lines ((t.items.map fun i => documentation t.optional i.docs).map element))
  let names ← array (start ++ text "fieldNames") "string" (block (element string))
  let index ← mapping (start ++ text "fieldIndex")
  return (names, index)

theorem reads_documentation (optional : Bool) (v : DocValue) :
    Reads (documentation optional v) (if optional then Emitter.optionExpr v else Emitter.docExpr v) () := by
  unfold documentation
  cases optional with
  | true => exact (reads_option v).last (reads_pure ())
  | false => exact (reads_value v).last (reads_pure ())

/-- **The variables for the fields of a type read as the names of its items and the entries of its index.** -/
theorem read_fieldNames (t : DocTable) (index : LookupTable) :
    read (fieldNames t) (Emitter.fieldDecls t index) =
      some (t.items.map (·.name), index.entries.map fun e => (e.name, e.index)) := by
  obtain ⟨methods, code⟩ := fieldDecls_eq t index
  have docs := reads_lines (r := element ∘ fun i : TableItem => documentation t.optional i.docs) (g := fun _ => ()) t.items
    fun i _ => (reads_documentation t.optional i.docs).element
  have names := reads_block t.items fun i _ => (reads_string i.name).element
  rw [← List.map_map] at docs
  rw [code]
  refine read_append ?_ methods
  exact (reads_array docs _ _).bind ((reads_array names _ _).bind ((reads_mapping _ index.entries).last (reads_pure _)))

end Literal

/-! ## Empty names and the index -/

section

open Resolve (namedPositions mem_namedPositions)

variable {items : List TableItem}

theorem exists_mem_namedPositions_iff {k : Nat} {i : TableItem} (hi : items[k]? = some i) :
    (∃ n, (n, (k : Int)) ∈ namedPositions items) ↔ i.named = true := by
  constructor
  · rintro ⟨n, hn⟩
    obtain ⟨k', i', ⟨hi', named, -⟩, same⟩ := mem_namedPositions.1 hn
    obtain rfl := Int.ofNat_inj.1 same
    rw [hi] at hi'
    exact Option.some.inj hi' ▸ named
  · exact fun named => ⟨i.name, mem_namedPositions.2 ⟨k, i, ⟨hi, named, rfl⟩, rfl⟩⟩

/-- The empty name is missing from the index if and only if no name is empty. -/
theorem nil_not_mem_namedPositions_iff :
    (∀ z, (([] : Text), z) ∉ namedPositions items) ↔ ∀ i ∈ items, ¬ i.IsErased := by
  constructor
  · intro absent i hi erased
    obtain ⟨k, at_k⟩ := List.mem_iff_getElem?.1 hi
    exact absent k (mem_namedPositions.2 ⟨k, i, ⟨at_k, erased⟩, rfl⟩)
  · intro some_left z hz
    obtain ⟨k, i, ⟨at_k, erased⟩, -⟩ := mem_namedPositions.1 hz
    exact some_left i (List.mem_of_getElem? at_k) erased

/-- Where items without a name have an empty one, the empty names are the ones missing from the index if and only if
no item has an empty name. -/
theorem empty_iff_missing (blank : ∀ i ∈ items, i.named = false → i.name = []) :
    (∀ k < items.length, (items.map (·.name))[k]? = some [] ↔ ∀ n, (n, (k : Int)) ∉ namedPositions items) ↔
      ∀ i ∈ items, ¬ i.IsErased := by
  have missing : ∀ (k : Nat) i, items[k]? = some i → ((∀ n, (n, (k : Int)) ∉ namedPositions items) ↔ i.named = false) := by
    intro k i at_k
    rw [← not_exists, exists_mem_namedPositions_iff at_k, Bool.not_eq_true]
  constructor
  · intro told i hi erased
    obtain ⟨k, at_k⟩ := List.mem_iff_getElem?.1 hi
    obtain ⟨bound, -⟩ := List.getElem?_eq_some_iff.1 at_k
    have none_there := (told k bound).1 (by rw [List.getElem?_map, at_k, Option.map_some, erased.2])
    rw [missing k i at_k, erased.1] at none_there
    cases none_there
  · intro some_left k bound
    have at_k := List.getElem?_eq_getElem bound
    rw [missing k _ at_k, List.getElem?_map, at_k, Option.map_some, Option.some_inj]
    refine ⟨fun empty => Bool.eq_false_iff.2 fun named => ?_, blank _ (List.getElem_mem bound)⟩
    exact some_left _ (List.getElem_mem bound) ⟨named, empty⟩

end

theorem Access.lookupOptional_eq_error_iff {docs : List (Option Text)} {index : List (Text × Int)}
    (h : IsIndex index docs.length) {name : Text} :
    lookupOptional docs index name = .error .noSuchField ↔ ∀ i, (name, i) ∉ index := by
  rw [← find_eq_error_iff h]
  unfold lookupOptional
  cases find docs index name with
  | error m => simp [bind, Except.bind]
  | ok v => cases v <;> exact iff_of_false nofun nofun

/-! ## From declarations to names -/

theorem forall_iff_of_forall₂ {α β : Type} {P : α → Prop} {Q : β → Prop} {as : List α} {bs : List β}
    (h : List.Forall₂ (fun a b => Q b ↔ P a) as bs) : (∀ b ∈ bs, ¬ Q b) ↔ ∀ a ∈ as, ¬ P a := by
  induction h with
  | nil => simp
  | cons head _ ih => rw [List.forall_mem_cons, List.forall_mem_cons, head, ih]

namespace Resolver

open Resolve

theorem fills_of_fields (c : Configuration) {r : Resolver} (hr : r.base = c.settings) {d : Declaration} {t : DocTable}
    (ht : t ∈ (r.process d).1.tables) (base : t.base = AttributeBase.documentedFields.name) :
    List.Forall₂ (fun m i => (Layers.ofMember c .documentedFields d m).Fill m i) d.members t.items := by
  obtain ⟨k, rfl, family, h⟩ := exists_context ht base (by simp [AttributeBase.levels])
  have fields : k.isVariants = false := by
    rw [MemberContext.isVariants, family]
    rfl
  have made := (List.forall₂_and_left k.decl.members _).2 ⟨fun m hm => hm, items_of_fields fields _ h.clear⟩
  rw [← family, h.items]
  exact made.imp fun m i hmi => (h.fill hr (by rw [family]; rfl) hmi.1 hmi.2).2.1

/-- **Empty names, and what they tell.** Let a declaration be resolved to a table for its fields under a configuration.
An item that has no name has an empty one, and an item has a name that is empty if and only if the layers of options
erase the name of its member. Code is generated for the table, and in the code as it is read back the names are those
of the items, and a position is in the index if and only if the item there has a name. If no member is erased, and only
then, an empty name in the list stands for a member that is missing from the index, and looking the empty name up
fails. -/
theorem empty_names (c : Configuration) {r : Resolver} (hr : r.base = c.settings) {d : Declaration} {t : DocTable}
    (ht : t ∈ (r.process d).1.tables) (base : t.base = AttributeBase.documentedFields.name) :
    List.Forall₂ (fun m i => (i.named = false → i.name = []) ∧
      (i.IsErased ↔ (Layers.ofMember c .documentedFields d m).Erases m)) d.members t.items ∧
    ((∀ i ∈ t.items, i.named = true ↔ i.name ≠ []) ↔
      ∀ m ∈ d.members, ¬ (Layers.ofMember c .documentedFields d m).Erases m) ∧
    ∃ code names index, Emitter.fields.emit t = .ok code ∧
      Literal.read (Literal.fieldNames t) code = some (names, index) ∧ names = t.items.map (·.name) ∧
      (∀ (k : Nat) i, t.items[k]? = some i → ((∃ n, (n, (k : Int)) ∈ index) ↔ i.named = true)) ∧
      ((∀ k < names.length, names[k]? = some [] ↔ ∀ n, (n, (k : Int)) ∉ index) ↔
        ∀ m ∈ d.members, ¬ (Layers.ofMember c .documentedFields d m).Erases m) ∧
      (∀ docs : List Text, docs.length = names.length → (Access.lookup docs index [] = .error .noSuchField ↔
        ∀ m ∈ d.members, ¬ (Layers.ofMember c .documentedFields d m).Erases m)) ∧
      ∀ docs : List (Option Text), docs.length = names.length →
        (Access.lookupOptional docs index [] = .error .noSuchField ↔
          ∀ m ∈ d.members, ¬ (Layers.ofMember c .documentedFields d m).Erases m) := by
  have items := (fills_of_fields c hr ht base).imp fun m i fill => And.intro fill.name_eq_nil fill.erased_iff
  have erased := forall_iff_of_forall₂ (items.imp fun m i h => h.2)
  have blank : ∀ i ∈ t.items, i.named = false → i.name = [] := by
    intro i hi
    obtain ⟨m, -, h⟩ := exists_of_forall₂ items hi
    exact h.1
  obtain ⟨b, -, made⟩ := exists_binding_of_mem_tables ht
  obtain ⟨-, named, -, -⟩ := attribute_of_resolveBinding made
  have fields : b.attr.base = .documentedFields := eq_of_name_eq (named ▸ base)
  obtain ⟨table, compiled, entries, distinct⟩ := index_of_resolveBinding made (by rw [fields]; rfl)
  have reading := Literal.read_fieldNames t table
  rw [entries] at reading
  refine ⟨items, ?_, Emitter.fieldDecls t table, _, _, by simp only [Emitter.emit, compiled], reading, rfl,
    fun k i at_k => exists_mem_namedPositions_iff at_k, ?_, fun docs size => ?_, fun docs size => ?_⟩
  · rw [← erased]
    refine forall₂_congr fun i hi => ?_
    have told : i.name ≠ [] → i.named = true := fun some_name => by_contra fun unnamed =>
      some_name (blank i hi (Bool.eq_false_iff.2 unnamed))
    rw [TableItem.IsErased, not_and]
    exact ⟨Iff.mp, fun named => ⟨named, told⟩⟩
  · rw [← erased, List.length_map]
    exact empty_iff_missing blank
  · rw [← erased, ← nil_not_mem_namedPositions_iff, Access.lookup, Access.find_eq_error_iff]
    exact size ▸ DocTable.isIndex_namedPositions distinct _
  · rw [← erased, ← nil_not_mem_namedPositions_iff, Access.lookupOptional_eq_error_iff]
    exact size ▸ DocTable.isIndex_namedPositions distinct _

end Resolver

/-- A type with a field whose name has no letter that the convention keeps, a field without a name and another one. -/
def globe : Declaration where
  names := [⟨"Globe", 10⟩]
  placement := .struct
  exported := true
  fragments := []
  directives := [⟨"documented_fields", "rename_all = \"PascalCase\"", {}, 20⟩]
  members := [
    { name := "世界", placement := .field, pos := 30, fragments := ["The world."], directives := [] },
    { name := "_", placement := .field, pos := 40, fragments := ["Padding."], directives := [] },
    { name := "radius", placement := .field, pos := 50, fragments := ["In metres."], directives := [] }]
  file := "globe.go"

theorem exists_table_globe : ∃ t ∈ ((Resolver.ofConfiguration {}).process globe).1.tables,
    t.base = AttributeBase.documentedFields.name ∧ ∃ world padding radius : TableItem,
      t.items = [world, padding, radius] ∧ (world.named, world.name) = (true, []) ∧
      (padding.named, padding.name) = (false, []) ∧ (radius.named, radius.name) = (true, text "Radius") := by
  have tables : ((Resolver.ofConfiguration {}).process globe).1.tables.map
      (fun t => (t.base, t.items.map fun i => (i.named, i.name))) =
      [(AttributeBase.documentedFields.name, [(true, []), (false, []), (true, text "Radius")])] := by
    decide +kernel
  obtain ⟨t, ht, form⟩ := List.mem_map.1 (tables ▸ List.mem_singleton_self _)
  obtain ⟨base, items⟩ := Prod.mk.inj form
  obtain ⟨world, items, all, atWorld, items⟩ := List.map_eq_cons_iff.1 items
  obtain ⟨padding, items, rfl, atPadding, items⟩ := List.map_eq_cons_iff.1 items
  obtain ⟨radius, rfl, atRadius⟩ := List.map_eq_singleton_iff.1 items
  exact ⟨t, ht, base, world, padding, radius, all, atWorld, atPadding, atRadius⟩

/-- Under a convention that leaves nothing of a name, a field is published under a name that is empty. -/
theorem empty_name_published :
    ¬ ∀ (c : Configuration) (r : Resolver), r.base = c.settings → ∀ (d : Declaration) (t : DocTable),
      t ∈ (r.process d).1.tables → t.base = AttributeBase.documentedFields.name →
        ∀ i ∈ t.items, i.named = true ↔ i.name ≠ [] := by
  intro told
  obtain ⟨t, ht, base, world, padding, radius, items, atWorld, -, -⟩ := exists_table_globe
  obtain ⟨named, empty⟩ := Prod.mk.inj atWorld
  exact (told {} _ rfl globe t ht base world (items ▸ List.mem_cons_self)).1 named empty

theorem empty_names_globe : ∃ t ∈ ((Resolver.ofConfiguration {}).process globe).1.tables,
    ∃ code names index, Emitter.fields.emit t = .ok code ∧
      Literal.read (Literal.fieldNames t) code = some (names, index) ∧ names = [[], [], text "Radius"] ∧
      (∃ n, (n, 0) ∈ index) ∧ (∀ n, (n, 1) ∉ index) ∧
      Access.lookup ["The world.", "Padding.", "In metres."] index [] ≠ .error .noSuchField := by
  obtain ⟨t, ht, base, world, padding, radius, items, atWorld, atPadding, atRadius⟩ := exists_table_globe
  obtain ⟨-, -, code, names, index, emitted, reading, spelled, positions, -, found, -⟩ :=
    Resolver.empty_names {} rfl ht base
  rw [Prod.mk.injEq] at atWorld atPadding atRadius
  rw [items] at spelled positions
  simp only [List.map_cons, List.map_nil, atWorld.2, atPadding.2, atRadius.2] at spelled
  have missing := positions 1 padding rfl
  rw [atPadding.1] at missing
  refine ⟨t, ht, code, names, index, emitted, reading, spelled, (positions 0 world rfl).2 atWorld.1,
    fun n hn => Bool.false_ne_true (missing.1 ⟨n, hn⟩), fun fails => ?_⟩
  have some_left := (found _ (by rw [spelled]; rfl)).1 fails _ List.mem_cons_self
  exact some_left (Layers.name_eq_some_nil_iff.1 (by decide +kernel))

end DocAccessors
