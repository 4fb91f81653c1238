import DocAccessors.Proofs.Generate.FieldDecls
import DocAccessors.Proofs.Table.Verdict

/-!
# Fields are found by name

From a declaration to the look-up at run time: `Resolver.field_lookup` says that the code generated for the fields of
a type, read back, finds for each name the documentation of the one field that is published under it.

Positions are counted four times on the way: when the members are resolved, when the index is compiled, when the two
variables are written and when one is accessed through the other. `namedPositions` of the items is what all four
agree on.
-/

namespace DocAccessors

open Resolve (namedPositions mem_namedPositions)

/-! ## Documentation -/

/-- Where documentation may be absent, what a look-up says about a field that is found. -/
def DocValue.answer (eval : Text → Text) (v : DocValue) : Except Access.Miss Text :=
  match v.evaluate eval with
  | some d => .ok d
  | none => .error .noDocComments

theorem DocValue.answer_eq_error {eval : Text → Text} {v : DocValue} {m : Access.Miss} :
    v.answer eval = .error m ↔ v = .absent ∧ m = .noDocComments := by
  cases v <;> simp [DocValue.answer, DocValue.evaluate, eq_comm]

theorem DocValue.exists_evaluate (eval : Text → Text) {v : DocValue} (h : v.isPresent = true) :
    ∃ d, v.evaluate eval = some d := by
  cases v with
  | absent => cases h
  | text t => exact ⟨t, rfl⟩
  | default e => exact ⟨eval e, rfl⟩

/-! ## Items by name -/

/-- The item `i` at position `k` is published under the name `n`. -/
def DocTable.Publishes (t : DocTable) (n : Text) (k : Nat) (i : TableItem) : Prop :=
  t.items[k]? = some i ∧ i.named = true ∧ i.name = n

namespace DocTable

variable {t : DocTable} {n : Text}

theorem Publishes.mem {k : Nat} {i : TableItem} (h : t.Publishes n k i) : (n, (k : Int)) ∈ namedPositions t.items :=
  mem_namedPositions.2 ⟨k, i, h, rfl⟩

variable (distinct : ((namedPositions t.items).map Prod.fst).Nodup)
include distinct

/-- Positions of items are inside the list of their documentation. -/
theorem isIndex_namedPositions (g : TableItem → α) :
    Access.IsIndex (namedPositions t.items) (t.items.map g).length := by
  refine ⟨distinct, ?_⟩
  rintro ⟨n, z⟩ hp
  obtain ⟨k, i, ⟨hi, -, -⟩, rfl⟩ := mem_namedPositions.1 hp
  obtain ⟨bound, -⟩ := List.getElem?_eq_some_iff.1 hi
  rw [List.length_map]
  exact ⟨Int.natCast_nonneg k, Int.ofNat_lt.2 bound⟩

theorem Publishes.unique {k k' : Nat} {i i' : TableItem} (h : t.Publishes n k i) (h' : t.Publishes n k' i') :
    k' = k := by
  have found := Access.lookup_of_mem distinct h.mem
  rw [Access.lookup_of_mem distinct h'.mem] at found
  injection found with same
  exact Int.ofNat_inj.1 same

theorem Publishes.find {k : Nat} {i : TableItem} (h : t.Publishes n k i) (g : TableItem → α) :
    Access.find (t.items.map g) (namedPositions t.items) n = .ok (g i) := by
  refine Access.find_of_mem (isIndex_namedPositions distinct g) h.mem ?_
  rw [List.getElem?_map, h.1]
  rfl

theorem find_eq_error_iff (g : TableItem → α) :
    Access.find (t.items.map g) (namedPositions t.items) n = .error .noSuchField ↔ ∀ k i, ¬ t.Publishes n k i := by
  rw [Access.find_eq_error_iff (isIndex_namedPositions distinct g)]
  constructor
  · exact fun absent k i h => absent k h.mem
  · intro absent z hz
    obtain ⟨k, i, h, -⟩ := mem_namedPositions.1 hz
    exact absent k i h

variable {eval : Text → Text}

theorem Publishes.lookupOptional {k : Nat} {i : TableItem} (h : t.Publishes n k i) :
    Access.lookupOptional (t.items.map fun i => i.docs.evaluate eval) (namedPositions t.items) n =
      i.docs.answer eval := by
  unfold Access.lookupOptional
  rw [h.find distinct]
  cases hv : i.docs.evaluate eval <;> simp [DocValue.answer, hv, bind, Except.bind]

theorem lookupOptional_of_absent (absent : ∀ k i, ¬ t.Publishes n k i) :
    Access.lookupOptional (t.items.map fun i => i.docs.evaluate eval) (namedPositions t.items) n =
      .error .noSuchField := by
  unfold Access.lookupOptional
  rw [(find_eq_error_iff distinct _).2 absent]
  rfl

/-- A look-up where documentation may be absent fails in two ways. -/
theorem lookupOptional_eq_error_iff {m : Access.Miss} :
    Access.lookupOptional (t.items.map fun i => i.docs.evaluate eval) (namedPositions t.items) n = .error m ↔
      (m = .noDocComments ∧ ∃ k i, t.Publishes n k i ∧ i.docs = .absent) ∨
      (m = .noSuchField ∧ ∀ k i, ¬ t.Publishes n k i) := by
  by_cases absent : ∀ k i, ¬ t.Publishes n k i
  · rw [lookupOptional_of_absent distinct absent]
    constructor
    · intro h
      injection h with h
      exact .inr ⟨h.symm, absent⟩
    · rintro (⟨-, k, i, h, -⟩ | ⟨rfl, -⟩)
      · exact absurd h (absent k i)
      · rfl
  · simp only [not_forall, not_not] at absent
    obtain ⟨k, i, h⟩ := absent
    rw [h.lookupOptional distinct, DocValue.answer_eq_error]
    constructor
    · rintro ⟨none, rfl⟩
      exact .inl ⟨rfl, k, i, h, none⟩
    · rintro (⟨rfl, k', i', h', none⟩ | ⟨-, absent⟩)
      · obtain rfl := h.unique distinct h'
        obtain rfl : i' = i := Option.some.inj (h'.1.symm.trans h.1)
        exact ⟨none, rfl⟩
      · exact absurd h (absent k i)

end DocTable

/-! ## From declarations to look-ups -/

/-- **Fields are found by name, end to end.** Let a declaration be resolved to a table for its fields. Code is
generated for it, and in the code as it is read back, with default expressions evaluated in any way, the index has no
name twice and no position outside of the documentation. Where documentation is required, looking a name up gives the
documentation of the one item that is published under it, and fails exactly when there is none. Where documentation
may be absent, the look-up fails in another way exactly when there is such an item and its documentation is absent. -/
theorem Resolver.field_lookup (r : Resolver) (d : Declaration) (t : DocTable) (ht : t ∈ (r.process d).1.tables)
    (hb : t.base = AttributeBase.documentedFields.name) (eval : Text → Text) :
    ∃ code, Emitter.fields.emit t = .ok code ∧
      (t.optional = false → ∃ docs index, Literal.read (Literal.requiredFields eval t) code = some (docs, index) ∧
        Access.IsIndex index docs.length ∧ ∀ n,
          (∀ k i, t.Publishes n k i → (∀ k' i', t.Publishes n k' i' → k' = k) ∧
            ∃ v, i.docs.evaluate eval = some v ∧ Access.lookup docs index n = .ok v) ∧
          (Access.lookup docs index n = .error .noSuchField ↔ ∀ k i, ¬ t.Publishes n k i)) ∧
      (t.optional = true → ∃ docs index, Literal.read (Literal.optionalFields eval t) code = some (docs, index) ∧
        Access.IsIndex index docs.length ∧ ∀ n,
          (∀ k i, t.Publishes n k i → (∀ k' i', t.Publishes n k' i' → k' = k) ∧
            ∀ v, i.docs.evaluate eval = some v → Access.lookupOptional docs index n = .ok v) ∧
          (Access.lookupOptional docs index n = .error .noDocComments ↔
            ∃ k i, t.Publishes n k i ∧ i.docs = .absent) ∧
          (Access.lookupOptional docs index n = .error .noSuchField ↔ ∀ k i, ¬ t.Publishes n k i)) := by
  obtain ⟨b, -, made⟩ := exists_binding_of_mem_tables ht
  obtain ⟨-, base, optional, -⟩ := Resolve.attribute_of_resolveBinding made
  have fields : b.attr.base = .documentedFields := Resolve.eq_of_name_eq (base ▸ hb)
  obtain ⟨table, index, entries, distinct⟩ := Resolve.index_of_resolveBinding made (by rw [fields]; rfl)
  refine ⟨Emitter.fieldDecls t table, by simp only [Emitter.emit, index], fun required => ?_, fun optional => ?_⟩
  · have present := (Resolve.isPresent_of_resolveBinding made (optional ▸ required)).2
    have reading := Literal.read_requiredFields eval t table required
    rw [entries] at reading
    refine ⟨_, _, reading, DocTable.isIndex_namedPositions distinct _, fun n => ⟨fun k i h => ?_, ?_⟩⟩
    · obtain ⟨v, hv⟩ := DocValue.exists_evaluate eval (present i (List.mem_of_getElem? h.1))
      refine ⟨fun k' i' h' => h.unique distinct h', v, hv, ?_⟩
      rw [Access.lookup, h.find distinct, hv]
      rfl
    · exact DocTable.find_eq_error_iff distinct _
  · have reading := Literal.read_optionalFields eval t table optional
    rw [entries] at reading
    refine ⟨_, _, reading, DocTable.isIndex_namedPositions distinct _, fun n => ⟨fun k i h => ?_, ?_, ?_⟩⟩
    · refine ⟨fun k' i' h' => h.unique distinct h', fun v hv => ?_⟩
      rw [h.lookupOptional distinct, DocValue.answer, hv]
    · simp [DocTable.lookupOptional_eq_error_iff distinct]
    · simp [DocTable.lookupOptional_eq_error_iff distinct]

/-- A type with a documented field, a field without a name, one with a default and one without documentation. -/
def person : Declaration where
  names := [⟨"Person", 10⟩]
  placement := .struct
  exported := true
  fragments := []
  directives := [⟨"documented_fields_opt", "rename_all = \"snake_case\"", {}, 20⟩]
  members := [
    { name := "FullName", placement := .field, pos := 30, fragments := ["The name."], directives := [] },
    { name := "_", placement := .field, pos := 40, fragments := [], directives := [] },
    { name := "Age", placement := .field, pos := 50, fragments := [],
      directives := [⟨"documented_fields", "default = years", {}, 60⟩] },
    { name := "Mail", placement := .field, pos := 70, fragments := [], directives := [] }]
  file := "person.go"

theorem field_lookup_person : ∃ t ∈ (({ base := {} } : Resolver).process person).1.tables,
    t.base = AttributeBase.documentedFields.name ∧ ∃ code docs index, Emitter.fields.emit t = .ok code ∧
      Literal.read (Literal.optionalFields id t) code = some (docs, index) ∧
      Access.lookupOptional docs index "age" = .ok "years" ∧
      Access.lookupOptional docs index "mail" = .error .noDocComments := by
  obtain ⟨t, only⟩ : ∃ t, (({ base := {} } : Resolver).process person).1.tables = [t] :=
    List.length_eq_one_iff.1 (by decide +kernel)
  have ht : t ∈ (({ base := {} } : Resolver).process person).1.tables := by
    rw [only]
    exact List.mem_singleton_self t
  have form : (({ base := {} } : Resolver).process person).1.tables.map (fun t => (t.base, t.optional)) =
      [(AttributeBase.documentedFields.name, true)] := by
    decide +kernel
  have items : ((({ base := {} } : Resolver).process person).1.tables.flatMap (·.items)).map
      (fun i => (i.named, i.name, i.docs)) =
      [(true, text "full_name", .text "The name."), (false, [], .absent), (true, text "age", .default "years"),
        (true, text "mail", .absent)] := by
    decide +kernel
  rw [only, List.map_singleton, List.singleton_inj, Prod.mk.injEq] at form
  rw [only, List.flatMap_singleton] at items
  obtain ⟨base, optional⟩ := form
  obtain ⟨code, emitted, -, found⟩ := Resolver.field_lookup { base := {} } person t ht base id
  obtain ⟨docs, index, reading, -, found⟩ := found optional
  have at2 := congrArg (·[2]?) items
  have at3 := congrArg (·[3]?) items
  simp only [List.getElem?_map] at at2 at3
  obtain ⟨age, atAge, hage⟩ := Option.map_eq_some_iff.1 at2
  obtain ⟨mail, atMail, hmail⟩ := Option.map_eq_some_iff.1 at3
  simp only [Prod.mk.injEq] at hage hmail
  refine ⟨t, ht, base, code, docs, index, emitted, reading, ?_, ?_⟩
  · exact ((found "age").1 2 age ⟨atAge, hage.1, hage.2.1⟩).2 _ (by rw [hage.2.2]; rfl)
  · exact (found "mail").2.1.2 ⟨3, mail, ⟨atMail, hmail.1, hmail.2.1⟩, hmail.2.2⟩

end DocAccessors
