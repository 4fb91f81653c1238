import DocAccessors.Proofs.Lookup.Compile
import DocAccessors.Proofs.Results
import DocAccessors.Proofs.Table.Member

/-!
# What a table holds

A table that is made tells how it was made: which options and settings it comes from, and what its entries are.

* `resolveMember_ok`, `memberTable_ok`, `itemTable_ok`, `resolveBinding_ok`: what success says of each part;
* `isPresent_of_resolveBinding`: where documentation is required, a table has it;
* `namedPositions`: the items with a name, each with its position; `entries_eq_namedPositions` says that the look-up
  entries of a declaration are exactly these, and `index_of_resolveBinding` that they are the index of its table.
-/

namespace DocAccessors.Resolve

/-! ## Success -/

theorem both_eq_ok {x : Result α} {y : Result β} {p : α × β} (h : both x y = .ok p) : x = .ok p.1 ∧ y = .ok p.2 := by
  cases x <;> cases y <;> simp only [both, reduceCtorEq] at h
  injection h with h
  exact ⟨by rw [← h], by rw [← h]⟩

/-- The place of a member in messages. -/
def MemberContext.place (c : MemberContext) (m : Member) (os : List ReadOption) : ItemPlace :=
  ⟨m.span, optionSpan os .default (optionSpan c.options .default m.span), c.what m⟩

/-- Documentation that is accepted is what the mode makes of the text and the default, and a default that is used
has no known problem. -/
theorem docValue_ok {mode : DocMode} {fragments : List Text} {s : Settings} {p : ItemPlace} {v : DocValue}
    (h : docValue mode fragments s p = .ok v) :
    mode.substitute? (normalize fragments s.trim) s.defaultExpr = some v ∧
      ∀ e, v = .default e → defaultProblem? e = none := by
  unfold docValue at h
  split at h
  · cases h
  · next e chosen =>
    split at h
    · cases h
    · next sound =>
      injection h with h
      subst h
      refine ⟨chosen, fun e' he' => ?_⟩
      rw [DocValue.default.injEq] at he'
      rw [← he']
      exact sound
  · next other chosen =>
    injection h with h
    subst h
    exact ⟨chosen, fun e he => absurd he (other e)⟩

theorem resolveMember_ok {c : MemberContext} {m : Member} {i : TableItem} (h : resolveMember c m = .ok i) :
    ∃ os s v, options (m.directives.filter fun d => Attribute.namesOneOf d.attr [c.attr.base.name]) = .ok os ∧
      settings c.base c.profile os = .ok s ∧
      docValue (.ofOptional c.attr.optional) m.fragments s (c.place m os) = .ok v ∧
      i = ⟨(s.exposedName m.lookupName).getD [], (s.exposedName m.lookupName).isSome, m.name, v, m.pos⟩ := by
  unfold resolveMember at h
  obtain ⟨os, hos, h⟩ := bind_eq_ok h
  obtain ⟨s, hs, h⟩ := bind_eq_ok h
  obtain ⟨v, hv, h⟩ := bind_eq_ok h
  injection h with h
  exact ⟨os, s, v, hos, hs, hv, h.symm⟩

theorem itemTable_ok {d : Declaration} {b : Binding} {s : Settings} {os : List ReadOption} {t : DocTable}
    (h : itemTable d b s os = .ok t) :
    ∃ v names, docValue (.ofOptional b.attr.optional) d.fragments s
        ⟨d.span, optionSpan os .default d.span, text "`" ++ d.name ++ text "`"⟩ = .ok v ∧
      (b.attr.base = .docsConst → constNames d s os = .ok names) ∧
      t = { DocTable.ofAttribute b.attr d with docs := v, constNames := names } := by
  unfold itemTable at h
  dsimp only at h
  split at h
  · obtain ⟨p, hp, h⟩ := bind_eq_ok h
    obtain ⟨hv, hn⟩ := both_eq_ok hp
    injection h with h
    exact ⟨p.1, p.2, hv, fun _ => hn, h.symm⟩
  · next other =>
    obtain ⟨v, hv, h⟩ := bind_eq_ok h
    injection h with h
    exact ⟨v, [], hv, fun const => absurd const other, h.symm⟩

theorem memberTable_ok {d : Declaration} {b : Binding} {p : Profile} {lookup : Bool} {s : Settings}
    {os : List ReadOption} {t : DocTable} (h : (memberTable d b p lookup s os).1 = .ok t) :
    (d.members.foldl (Members.step ⟨d, b.attr, p, s, os⟩) {}).problems = none ∧
    ∃ index, (lookup = true → ∃ table, index = some table ∧
        LookupTable.compile (d.members.foldl (Members.step ⟨d, b.attr, p, s, os⟩) {}).entries = .ok table) ∧
      t = { DocTable.ofAttribute b.attr d with
        items := (d.members.foldl (Members.step ⟨d, b.attr, p, s, os⟩) {}).items, index } := by
  unfold memberTable at h
  dsimp only at h
  split at h
  · cases h
  · next clear =>
    refine ⟨clear, ?_⟩
    split at h
    · cases compiled : LookupTable.compile (d.members.foldl (Members.step ⟨d, b.attr, p, s, os⟩) {}).entries with
      | error f => simp [compiled, Except.map] at h
      | ok table =>
        rw [compiled] at h
        injection h with h
        exact ⟨some table, fun _ => ⟨table, rfl, rfl⟩, h.symm⟩
    · next off =>
      injection h with h
      exact ⟨none, fun on => absurd on off, h.symm⟩

theorem resolveBinding_ok {base : Settings} {d : Declaration} {b : Binding} {t : DocTable}
    (h : (resolveBinding base d b).1 = .ok t) :
    ∃ os s, options b.directives = .ok os ∧ settings base b.attr.base.levels.container os = .ok s ∧
      match b.attr.base.levels.member with
      | none => itemTable d b s os = .ok t
      | some p => (memberTable d b p b.attr.base.levels.lookup s os).1 = .ok t := by
  unfold resolveBinding at h
  dsimp only at h
  split at h
  · cases h
  · next os s container =>
    obtain ⟨os', hos, container⟩ := bind_eq_ok container
    obtain ⟨s', hs, container⟩ := bind_eq_ok container
    injection container with container
    injection container with eos es
    subst eos es
    refine ⟨os', s', hos, hs, ?_⟩
    cases level : b.attr.base.levels.member <;> rw [level] at h <;> exact h

/-- Where the options and the settings of a binding are read, what it comes to is decided by its attribute. -/
theorem resolveBinding_of {base : Settings} {d : Declaration} {b : Binding} {os : List ReadOption} {s : Settings}
    (hos : options b.directives = .ok os) (hs : settings base b.attr.base.levels.container os = .ok s) :
    resolveBinding base d b =
      match b.attr.base.levels.member with
      | none => (itemTable d b s os, [])
      | some p => memberTable d b p b.attr.base.levels.lookup s os := by
  unfold resolveBinding
  cases level : b.attr.base.levels.member <;> simp only [hos, hs, level, bind, Except.bind, pure, Except.pure]

theorem eq_of_name_eq {a b : AttributeBase} (h : a.name = b.name) : a = b := by
  cases a <;> cases b <;> first | rfl | exact absurd h (by decide)

theorem attribute_of_resolveBinding {base : Settings} {d : Declaration} {b : Binding} {t : DocTable}
    (h : (resolveBinding base d b).1 = .ok t) :
    t.attr = b.attr.name ∧ t.base = b.attr.base.name ∧ t.optional = b.attr.optional ∧ t.decl = d := by
  obtain ⟨os, s, -, -, h⟩ := resolveBinding_ok h
  split at h
  · obtain ⟨v, names, -, -, rfl⟩ := itemTable_ok h
    exact ⟨rfl, rfl, rfl, rfl⟩
  · obtain ⟨-, index, -, rfl⟩ := memberTable_ok h
    exact ⟨rfl, rfl, rfl, rfl⟩

/-! ## Required documentation -/

theorem isPresent_of_substitute? {t e : Option Text} {v : DocValue}
    (h : DocMode.strict.substitute? t e = some v) : v.isPresent = true := by
  cases t <;> cases e <;> simp only [DocMode.substitute?, reduceCtorEq, Option.some.injEq] at h <;> subst h <;> rfl

/-- The items are those of members. -/
theorem exists_member_of_mem_items {c : MemberContext} {ms : List Member} :
    ∀ i ∈ (ms.foldl (Members.step c) {}).items, ∃ m ∈ ms, resolveMember c m = .ok i := by
  have pushed : ∀ {r : Members} {m : Member} {i : TableItem}, m ∈ ms → resolveMember c m = .ok i →
      (∀ j ∈ r.items, ∃ m ∈ ms, resolveMember c m = .ok j) → ∀ j ∈ (r.push m i).items, ∃ m ∈ ms, resolveMember c m = .ok j := by
    intro r m i hm hi hr j hj
    rcases List.mem_append.1 hj with hj | hj
    · exact hr j hj
    · rw [List.mem_singleton.1 hj]
      exact ⟨m, hm, hi⟩
  refine Members.foldl_induction (P := fun r => ∀ i ∈ r.items, ∃ m ∈ ms, resolveMember c m = .ok i) ms (by simp) ?_
  intro r m r' hm next hr
  cases next with
  | blank => exact hr
  | failed => exact hr
  | again => exact hr
  | plain hb hi hv => exact pushed hm hi hr
  | fresh hb hi => exact pushed (r := { r with seen := _ }) hm hi hr

theorem isPresent_of_members {c : MemberContext} (strict : c.attr.optional = false) (ms : List Member) :
    ∀ i ∈ (ms.foldl (Members.step c) {}).items, i.docs.isPresent = true := by
  intro i hi
  obtain ⟨m, -, made⟩ := exists_member_of_mem_items i hi
  obtain ⟨os, s, v, -, -, hv, rfl⟩ := resolveMember_ok made
  rw [strict] at hv
  exact isPresent_of_substitute? (docValue_ok hv).1

/-- **Where documentation is required, a table has it.** -/
theorem isPresent_of_resolveBinding {base : Settings} {d : Declaration} {b : Binding} {t : DocTable}
    (h : (resolveBinding base d b).1 = .ok t) (strict : b.attr.optional = false) :
    (b.attr.base.levels.member = none → t.docs.isPresent = true) ∧ ∀ i ∈ t.items, i.docs.isPresent = true := by
  obtain ⟨os, s, -, -, h⟩ := resolveBinding_ok h
  split at h
  · obtain ⟨v, names, hv, -, rfl⟩ := itemTable_ok h
    rw [strict] at hv
    exact ⟨fun _ => isPresent_of_substitute? (docValue_ok hv).1, by simp [DocTable.ofAttribute]⟩
  · next members =>
    obtain ⟨-, index, -, rfl⟩ := memberTable_ok h
    exact ⟨fun none => by simp [none] at members, isPresent_of_members strict d.members⟩

/-! ## Positions -/

/-- The names of the items that have one, each with the position of its item. Items without a name leave gaps. -/
def namedPositions (items : List TableItem) : List (Text × Int) :=
  (items.zipIdx.filter fun p => p.1.named).map fun p => (p.1.name, (p.2 : Int))

theorem namedPositions_append (items : List TableItem) (i : TableItem) :
    namedPositions (items ++ [i]) =
      namedPositions items ++ if i.named then [(i.name, (items.length : Int))] else [] := by
  cases named : i.named <;> simp [namedPositions, List.zipIdx_append, named]

theorem mem_namedPositions {items : List TableItem} {n : Text} {z : Int} :
    (n, z) ∈ namedPositions items ↔
      ∃ (k : Nat) (i : TableItem), (items[k]? = some i ∧ i.named = true ∧ i.name = n) ∧ z = k := by
  unfold namedPositions
  rw [List.mem_map]
  constructor
  · rintro ⟨⟨i, k⟩, hp, h⟩
    obtain ⟨hi, named⟩ := List.mem_filter.1 hp
    injection h with hn hz
    exact ⟨k, i, ⟨List.mk_mem_zipIdx_iff_getElem?.1 hi, named, hn⟩, hz.symm⟩
  · rintro ⟨k, i, ⟨hi, named, rfl⟩, rfl⟩
    exact ⟨(i, k), List.mem_filter.2 ⟨List.mk_mem_zipIdx_iff_getElem?.2 hi, named⟩, rfl⟩

/-- Whatever members fail, are passed over or have no name, the entries are the named items at their positions. -/
theorem entries_eq_namedPositions (c : MemberContext) (ms : List Member) :
    (ms.foldl (Members.step c) {}).entries.map (fun e => (e.name, e.index)) =
      namedPositions (ms.foldl (Members.step c) {}).items := by
  have pushed : ∀ (r : Members) (m : Member) (i : TableItem),
      r.entries.map (fun e => (e.name, e.index)) = namedPositions r.items →
      (r.push m i).entries.map (fun e => (e.name, e.index)) = namedPositions (r.push m i).items := by
    intro r m i hr
    rw [Members.push, namedPositions_append, ← hr]
    cases i.named <;> simp
  refine Members.foldl_induction (P := fun r => r.entries.map (fun e => (e.name, e.index)) = namedPositions r.items)
    ms rfl ?_
  intro r m r' _ next hr
  cases next with
  | blank => exact hr
  | failed => exact hr
  | again => exact hr
  | plain => exact pushed r m _ hr
  | fresh => exact pushed { r with seen := _ } m _ hr

/-- **The index of a table with a look-up is the named items at their positions, and no name occurs twice.** -/
theorem index_of_resolveBinding {base : Settings} {d : Declaration} {b : Binding} {t : DocTable}
    (h : (resolveBinding base d b).1 = .ok t) (lookup : b.attr.base.levels.lookup = true) :
    ∃ table, t.index = some table ∧ table.entries.map (fun e => (e.name, e.index)) = namedPositions t.items ∧
      ((namedPositions t.items).map Prod.fst).Nodup := by
  obtain ⟨os, s, -, -, h⟩ := resolveBinding_ok h
  split at h
  · next alone =>
    cases base : b.attr.base <;> simp [base, AttributeBase.levels] at lookup alone
  · obtain ⟨-, index, made, rfl⟩ := memberTable_ok h
    obtain ⟨table, rfl, compiled⟩ := made lookup
    obtain ⟨entries, distinct⟩ := LookupTable.compile_ok compiled
    refine ⟨table, rfl, ?_, ?_⟩
    · rw [entries, entries_eq_namedPositions]
    · rw [← entries_eq_namedPositions, List.map_map]
      exact distinct

end DocAccessors.Resolve
