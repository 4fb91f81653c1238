import DocAccessors.Lookup.Basic
import Mathlib.Data.List.Forall2
import Mathlib.Data.List.Nodup

/-!
# Tables of distinct names

A table from names to indices exists when no name occurs twice. Otherwise every entry that repeats a name is reported,
and always with the first entry of that name, however many there are in between.

* `RepeatsAt es j`: the entry at position `j` has the name of an earlier one; `ReportsAt es j d`: the diagnostic says
  so;
* `reports_collisions`: the collisions of a list report exactly the positions at which a name is repeated, in order.
  What the entries before have in common with those remembered is the first entry of each name;
* `compile_eq`, `compile_ok`: what compiling gives;
* `get?_eq_some_iff`: a table of distinct names leads from each name to its own index;
* `compile_distinct`: all of this for a list of entries;
* `Access.IsIndex`: an index into a list, with each name once and each position inside the list;
* `Access.find_of_mem`, `Access.find_eq_error_iff`: through such an index, a name leads to its own position, and to
  none if it does not occur.
-/

namespace DocAccessors.LookupTable

/-! ## First entries -/

theorem firstWith?_append (n : Text) (es fs : List LookupEntry) :
    firstWith? n (es ++ fs) = (firstWith? n es).or (firstWith? n fs) := List.find?_append

theorem firstWith?_eq_none_iff {n : Text} {es : List LookupEntry} :
    firstWith? n es = none ↔ ∀ e ∈ es, e.name ≠ n := by
  simp [firstWith?]

theorem of_firstWith?_eq_some {n : Text} {es : List LookupEntry} {e : LookupEntry} (h : firstWith? n es = some e) :
    e ∈ es ∧ e.name = n :=
  ⟨List.mem_of_find?_eq_some h, by simpa using List.find?_some h⟩

theorem firstWith?_concat_of_known {es : List LookupEntry} {e first : LookupEntry}
    (known : firstWith? e.name es = some first) (n : Text) : firstWith? n (es ++ [e]) = firstWith? n es := by
  rw [firstWith?_append]
  by_cases named : e.name = n
  · rw [← named, known, Option.some_or]
  · have other : firstWith? n [e] = none := firstWith?_eq_none_iff.2 (by simpa using named)
    rw [other, Option.or_none]

/-! ## Collisions -/

/-- The entry at a position has the name of an earlier one. -/
def RepeatsAt (es : List LookupEntry) (j : Nat) : Prop := ∃ e, es[j]? = some e ∧ ∃ f ∈ es.take j, f.name = e.name

/-- The diagnostic reports the entry at a position: it names the indices of the first entry with that name and of this
one, and has one note, at the first entry. -/
def ReportsAt (es : List LookupEntry) (j : Nat) (d : Diagnostic) : Prop :=
  ∃ first e, firstWith? e.name es = some first ∧ es[j]? = some e ∧
    d = { severity := .error
          code := .duplicateLookupKey
          message := text "members " ++ Text.ofInt first.index ++ text " and " ++ Text.ofInt e.index ++
            text " both resolve to the name " ++ Text.quote e.name
          span := e.span
          notes := [⟨first.span, Text.quote e.name ++ text " first used here"⟩] }

theorem nodup_names_iff {es : List LookupEntry} : (es.map (·.name)).Nodup ↔ ∀ j, ¬ RepeatsAt es j := by
  rw [List.Nodup, List.pairwise_map, List.pairwise_iff_getElem]
  constructor
  · rintro distinct j ⟨e, there, f, before, same⟩
    obtain ⟨hj, rfl⟩ := List.getElem?_eq_some_iff.1 there
    obtain ⟨i, hi, rfl⟩ := List.mem_take_iff_getElem.1 before
    have earlier : i < j := Nat.lt_of_lt_of_le hi (Nat.min_le_left _ _)
    exact distinct i j (Nat.lt_trans earlier hj) hj earlier same
  · intro fresh i j hi hj earlier same
    refine fresh j ⟨es[j], List.getElem?_eq_getElem hj, es[i], ?_, same⟩
    exact List.mem_take_iff_getElem.2 ⟨i, Nat.lt_min.2 ⟨earlier, hi⟩, rfl⟩

section Boundary

variable {before es : List LookupEntry} {e : LookupEntry}

theorem getElem?_boundary : (before ++ e :: es)[before.length]? = some e := by simp

/-- Whether an entry repeats a name shows in the entries before it. -/
theorem repeatsAt_boundary_iff : RepeatsAt (before ++ e :: es) before.length ↔ firstWith? e.name before ≠ none := by
  unfold RepeatsAt
  rw [getElem?_boundary, List.take_left, Ne, firstWith?_eq_none_iff]
  simp

theorem reportsAt_boundary {first : LookupEntry} (h : firstWith? e.name before = some first) :
    ReportsAt (before ++ e :: es) before.length (collision first e) := by
  refine ⟨first, e, ?_, getElem?_boundary, rfl⟩
  rw [firstWith?_append, h, Option.some_or]

end Boundary

/-- **Each position at which a name is repeated is reported, in order.** -/
theorem reports_collisions (before seen es : List LookupEntry) (same : ∀ n, firstWith? n seen = firstWith? n before) :
    ∃ js : List Nat, js.Pairwise (· < ·) ∧
      (∀ j, j ∈ js ↔ before.length ≤ j ∧ RepeatsAt (before ++ es) j) ∧
      List.Forall₂ (ReportsAt (before ++ es)) js (collisions seen es) := by
  -- entries that repeat a name are in `before` only, so what is common to both is the first entry of each name
  induction es generalizing before seen with
  | nil =>
    refine ⟨[], List.Pairwise.nil, fun j => ?_, .nil⟩
    refine iff_of_false List.not_mem_nil ?_
    rintro ⟨beyond, e, there, -⟩
    rw [List.append_nil, List.getElem?_eq_none beyond] at there
    cases there
  | cons e es ih =>
    have one_more : (before ++ [e]) ++ es = before ++ e :: es := by simp
    have length : (before ++ [e]).length = before.length + 1 := by simp
    rw [collisions]
    cases found : firstWith? e.name seen with
    | none =>
      have kept : ∀ n, firstWith? n (seen ++ [e]) = firstWith? n (before ++ [e]) := fun n => by
        rw [firstWith?_append, firstWith?_append, same]
      obtain ⟨js, ordered, positions, reported⟩ := ih (before ++ [e]) (seen ++ [e]) kept
      rw [one_more] at positions reported
      refine ⟨js, ordered, fun j => ?_, reported⟩
      have fresh : ¬ RepeatsAt (before ++ e :: es) before.length := by
        rw [repeatsAt_boundary_iff, ← same, found, not_not]
      rw [positions, length]
      refine and_congr_left fun repeated => ?_
      have other : before.length ≠ j := fun at_boundary => fresh (at_boundary ▸ repeated)
      omega
    | some first =>
      have known : firstWith? e.name before = some first := by rw [← same, found]
      have kept : ∀ n, firstWith? n seen = firstWith? n (before ++ [e]) := fun n => by
        rw [same, firstWith?_concat_of_known known]
      obtain ⟨js, ordered, positions, reported⟩ := ih (before ++ [e]) seen kept
      rw [one_more, length] at positions
      rw [one_more] at reported
      have repeated : RepeatsAt (before ++ e :: es) before.length := by
        rw [repeatsAt_boundary_iff, known]
        exact Option.some_ne_none first
      refine ⟨before.length :: js, ordered.cons fun j hj => ((positions j).1 hj).1, fun j => ?_,
        .cons (reportsAt_boundary known) reported⟩
      rw [List.mem_cons, positions]
      constructor
      · rintro (rfl | ⟨later, repeats⟩)
        · exact ⟨Nat.le_refl _, repeated⟩
        · exact ⟨Nat.le_of_succ_le later, repeats⟩
      · rintro ⟨later, repeats⟩
        exact (Nat.eq_or_lt_of_le later).imp Eq.symm fun beyond => ⟨beyond, repeats⟩

theorem reports_collisions_nil (es : List LookupEntry) :
    ∃ js : List Nat, js.Pairwise (· < ·) ∧ (∀ j, j ∈ js ↔ RepeatsAt es j) ∧
      List.Forall₂ (ReportsAt es) js (collisions [] es) := by
  simpa using reports_collisions [] [] es fun _ => rfl

theorem collisions_eq_nil_iff {es : List LookupEntry} : collisions [] es = [] ↔ (es.map (·.name)).Nodup := by
  obtain ⟨js, -, positions, reported⟩ := reports_collisions_nil es
  rw [nodup_names_iff, ← List.length_eq_zero_iff, ← reported.length_eq, List.length_eq_zero_iff,
    List.eq_nil_iff_forall_not_mem]
  exact forall_congr' fun j => not_congr (positions j)

/-! ## Tables -/

/-- **When there is a table, and which.** -/
theorem compile_eq (es : List LookupEntry) :
    compile es = if (es.map (·.name)).Nodup then .ok ⟨es⟩ else .error (.diagnosed (collisions [] es)) := by
  unfold compile
  split
  · next clear => rw [if_pos (collisions_eq_nil_iff.1 clear)]
  · next found => rw [if_neg (mt collisions_eq_nil_iff.2 found)]

theorem compile_ok {es : List LookupEntry} {t : LookupTable} (h : compile es = .ok t) :
    t.entries = es ∧ (es.map (·.name)).Nodup := by
  rw [compile_eq] at h
  split at h
  · next distinct =>
    injection h with h
    exact ⟨by rw [← h], distinct⟩
  · cases h

theorem get?_eq_some_iff {t : LookupTable} (distinct : (t.entries.map (·.name)).Nodup) {n : Text} {i : Int} :
    t.get? n = some i ↔ ∃ e ∈ t.entries, e.index = i ∧ e.name = n := by
  rw [get?, Option.map_eq_some_iff]
  constructor
  · rintro ⟨e, found, rfl⟩
    obtain ⟨member, named⟩ := of_firstWith?_eq_some found
    exact ⟨e, member, rfl, named⟩
  · rintro ⟨e, member, rfl, rfl⟩
    cases found : firstWith? e.name t.entries with
    | none => exact absurd rfl (firstWith?_eq_none_iff.1 found e member)
    | some first =>
      obtain ⟨other, named⟩ := of_firstWith?_eq_some found
      exact ⟨first, rfl, by rw [List.inj_on_of_nodup_map distinct other member named]⟩

/-- **Lists without collisions have a table, and all others none.** From distinct names comes the table of all entries,
which leads from a name to an index exactly when there is an entry with both. Otherwise there is no table, but one
report for each entry whose name occurred before, in order: at that entry, with the indices of the first entry of that
name and of its own, and a note at the first entry. -/
theorem compile_distinct (es : List LookupEntry) :
    ((es.map (·.name)).Nodup → ∃ t, compile es = .ok t ∧ t.entries = es ∧ t.keys = es.map (·.name) ∧
      ∀ n i, t.get? n = some i ↔ ∃ e ∈ es, e.index = i ∧ e.name = n) ∧
    (¬ (es.map (·.name)).Nodup → ∃ js ds, compile es = .error (.diagnosed ds) ∧
      js.Pairwise (· < ·) ∧ (∀ j, j ∈ js ↔ RepeatsAt es j) ∧ List.Forall₂ (ReportsAt es) js ds) := by
  constructor
  · intro distinct
    refine ⟨⟨es⟩, ?_, rfl, rfl, fun n i => get?_eq_some_iff distinct⟩
    rw [compile_eq, if_pos distinct]
  · intro repeats
    obtain ⟨js, ordered, positions, reported⟩ := reports_collisions_nil es
    refine ⟨js, _, ?_, ordered, positions, reported⟩
    rw [compile_eq, if_neg repeats]

end DocAccessors.LookupTable

/-! ## Look-up by name -/

namespace DocAccessors.Access

/-- An index from names into a list of `n` elements. -/
structure IsIndex (index : List (Text × Int)) (n : Nat) : Prop where
  /-- No name occurs twice. -/
  distinct : (index.map Prod.fst).Nodup
  /-- Every position is inside the list. -/
  inside : ∀ p ∈ index, 0 ≤ p.2 ∧ p.2 < n

theorem lookup_of_mem {index : List (Text × Int)} (distinct : (index.map Prod.fst).Nodup) {name : Text} {i : Int}
    (h : (name, i) ∈ index) : index.lookup name = some i := by
  induction index with
  | nil => cases h
  | cons p index ih =>
    rw [List.map_cons, List.nodup_cons] at distinct
    rcases List.mem_cons.1 h with rfl | h
    · exact List.lookup_cons_self
    · have other : (name == p.1) = false := by
        rw [beq_eq_false_iff_ne]
        rintro rfl
        exact distinct.1 (List.mem_map.2 ⟨_, h, rfl⟩)
      rw [List.lookup_cons, other]
      exact ih distinct.2 h

variable {docs : List α} {index : List (Text × Int)}

theorem find_of_mem (h : IsIndex index docs.length) {name : Text} {k : Nat} {a : α} (hk : (name, (k : Int)) ∈ index)
    (ha : docs[k]? = some a) : find docs index name = .ok a := by
  have nonneg : ¬ (k : Int) < 0 := by omega
  simp [find, lookup_of_mem h.distinct hk, atIndex?, nonneg, ha]

theorem find_eq_error_iff (h : IsIndex index docs.length) {name : Text} :
    find docs index name = .error .noSuchField ↔ ∀ i, (name, i) ∉ index := by
  constructor
  · intro missing i hi
    obtain ⟨low, high⟩ := h.inside _ hi
    obtain ⟨k, rfl⟩ := Int.eq_ofNat_of_zero_le low
    have bound : k < docs.length := Int.ofNat_lt.1 high
    rw [find_of_mem h hi (List.getElem?_eq_getElem bound)] at missing
    cases missing
  · intro absent
    have none_found : index.lookup name = none := by
      rw [List.lookup_eq_none_iff]
      intro p hp
      rw [bne_iff_ne]
      rintro rfl
      exact absent p.2 hp
    simp [find, none_found]

end DocAccessors.Access
