import DocAccessors.Declaration.Extract

/-!
# The constants of enums

A constant is declared twice: in a declaration of its own, and as a member of the enum that it belongs to. Both carry
the same directives.

* `Extract.Entry.Shared`: the constants of an entry carry the directives of its declaration;
* `exists_enum_of_constant`: what stands on a constant that belongs to an enum stands on a member of an enum;
* `exists_constant_of_member`: what stands on a member of an enum stands on a declaration of its own.
-/

namespace DocAccessors

namespace Extract

/-- The constants of an entry carry the directives of its declaration, and its other members are fields. -/
structure Entry.Shared (e : Entry) : Prop where
  fields : ∀ m ∈ e.decl.members, m.placement = .field
  constants : ∀ p ∈ e.consts, p.2.placement = .enumValue ∧ p.2.directives = e.decl.directives

variable (c : Context)

theorem placement_of_fieldMembers (f : Source.Field) : ∀ m ∈ c.fieldMembers f, m.placement = .field := by
  intro m hm
  unfold Context.fieldMembers at hm
  split at hm
  · rw [List.mem_singleton.1 hm]
  · obtain ⟨n, -, rfl⟩ := List.mem_map.1 hm
    rfl

theorem shared_of_typeEntry? {above : Option Source.CommentGroup} {lparen : Option Nat} {s : Source.Spec} {e : Entry}
    (h : c.typeEntry? above lparen s = some e) : e.Shared := by
  unfold Context.typeEntry? at h
  split at h
  · injection h with h
    subst h
    split
    · refine ⟨fun m hm => ?_, by simp⟩
      obtain ⟨f, -, hm⟩ := List.mem_flatMap.1 hm
      exact placement_of_fieldMembers c f m hm
    · exact ⟨by simp, by simp⟩
    · exact ⟨by simp, by simp⟩
  · cases h

theorem shared_of_varEntry? {above : Option Source.CommentGroup} {lparen : Option Nat} {s : Source.Spec} {e : Entry}
    (h : c.varEntry? above lparen s = some e) : e.Shared := by
  unfold Context.varEntry? at h
  split at h
  · injection h with h
    subst h
    exact ⟨by simp [Context.valueDecl], by simp⟩
  · cases h

theorem shared_of_constEntries (above : Option Source.CommentGroup) (lparen : Option Nat)
    (before : Option Source.Expr × List Source.Expr) (specs : List Source.Spec) :
    ∀ e ∈ c.constEntries above lparen before specs, e.Shared := by
  fun_induction Context.constEntries c above lparen before specs with
  | case1 => simp
  | case2 before doc names type values comment specs effect d ih =>
    intro e he
    rcases List.mem_cons.1 he with rfl | he
    · refine ⟨by simp [d, Context.valueDecl], fun p hp => ?_⟩
      obtain ⟨n, -, made⟩ := List.mem_filterMap.1 hp
      obtain ⟨t, -, rfl⟩ := Option.map_eq_some_iff.1 made
      exact ⟨rfl, rfl⟩
    · exact ih e he
  | case3 before spec specs _ ih => exact ih

theorem shared_of_entries (d : Source.Decl) : ∀ e ∈ c.entries d, e.Shared := by
  intro e he
  unfold Context.entries at he
  split at he
  · cases he
  · split at he
    · obtain ⟨s, -, made⟩ := List.mem_filterMap.1 he
      exact shared_of_typeEntry? c made
    · exact shared_of_constEntries c _ _ _ _ e he
    · obtain ⟨s, -, made⟩ := List.mem_filterMap.1 he
      exact shared_of_varEntry? c made
    · cases he
  · split at he
    · cases he
    · rw [List.mem_singleton.1 he]
      exact ⟨by simp, by simp⟩

/-- **All entries share their directives with their constants.** -/
theorem shared_of_allEntries {space : Text} {info : Option TypeInfo} {fs : List PackageFile} :
    ∀ e ∈ allEntries space info fs, e.Shared := by
  intro e he
  obtain ⟨f, -, he⟩ := List.mem_flatMap.1 he
  obtain ⟨d, -, he⟩ := List.mem_flatMap.1 he
  exact shared_of_entries _ d e he

/-! ## Linking -/

/-- The declaration of an entry with the constants that belong to it. -/
def link (es : List Entry) (e : Entry) (i : Nat) : Declaration :=
  let d := { e.decl with enum := enumOf es e }
  match membersOf es i with
  | [] => d
  | ms => { d with placement := .enum, members := d.members ++ ms }

theorem mem_linkEnums {es : List Entry} {d : Declaration} :
    d ∈ linkEnums es ↔ ∃ i e, es[i]? = some e ∧ d = link es e i := by
  rw [linkEnums, List.mem_map]
  constructor
  · rintro ⟨⟨e, i⟩, hp, rfl⟩
    exact ⟨i, e, List.mk_mem_zipIdx_iff_getElem?.1 hp, rfl⟩
  · rintro ⟨i, e, he, rfl⟩
    exact ⟨(e, i), List.mk_mem_zipIdx_iff_getElem?.2 he, rfl⟩

section Link

variable (es : List Entry) (e : Entry) (i : Nat)

@[simp]
theorem link_names : (link es e i).names = e.decl.names := by
  unfold link
  dsimp only
  split <;> rfl

@[simp]
theorem link_directives : (link es e i).directives = e.decl.directives := by
  unfold link
  dsimp only
  split <;> rfl

@[simp]
theorem link_enum : (link es e i).enum = enumOf es e := by
  unfold link
  dsimp only
  split <;> rfl

@[simp]
theorem link_members : (link es e i).members = e.decl.members ++ membersOf es i := by
  unfold link
  dsimp only
  split
  · next none_given => simp [none_given]
  · rfl

end Link

theorem mem_membersOf {es : List Entry} {i : Nat} {m : Member} :
    m ∈ membersOf es i ↔ ∃ e ∈ es, ∃ t, (t, m) ∈ e.consts ∧ candidate? es t = some i := by
  simp only [membersOf, List.mem_filterMap, List.mem_flatMap]
  constructor
  · rintro ⟨⟨t, m'⟩, ⟨e, he, hp⟩, made⟩
    dsimp only at made
    split at made
    · next found =>
      obtain rfl := Option.some.inj made
      exact ⟨e, he, t, hp, beq_iff_eq.1 found⟩
    · cases made
  · rintro ⟨e, he, t, hp, found⟩
    exact ⟨(t, m), ⟨e, he, hp⟩, by simp [found]⟩

theorem exists_of_candidate? {es : List Entry} {t : Text} {i : Nat} (h : candidate? es t = some i) :
    ∃ e, es[i]? = some e ∧ e.canBeEnum = true ∧ e.decl.name = t := by
  obtain ⟨p, last, rfl⟩ := Option.map_eq_some_iff.1 h
  obtain ⟨member, named⟩ := List.mem_filter.1 (List.mem_of_getLast? last)
  rw [Bool.and_eq_true, beq_iff_eq] at named
  exact ⟨p.1, List.mk_mem_zipIdx_iff_getElem?.1 member, named⟩

theorem canBeEnum_of_membersOf {es : List Entry} {i : Nat} {e : Entry} (he : es[i]? = some e)
    (given : membersOf es i ≠ []) : e.canBeEnum = true := by
  obtain ⟨m, hm⟩ := List.exists_mem_of_ne_nil _ given
  obtain ⟨-, -, t, -, found⟩ := mem_membersOf.1 hm
  obtain ⟨e', he', candidate, -⟩ := exists_of_candidate? found
  rw [he] at he'
  rwa [Option.some.inj he']

theorem exists_of_enumOf {es : List Entry} {e : Entry} (h : enumOf es e ≠ []) :
    ∃ p ∈ e.consts, ∃ i, candidate? es p.1 = some i := by
  unfold enumOf at h
  cases last : ((e.consts.map Prod.fst).filter fun t => (candidate? es t).isSome).getLast? with
  | none => exact absurd (by rw [last]; rfl) h
  | some t =>
    obtain ⟨named, found⟩ := List.mem_filter.1 (List.mem_of_getLast? last)
    obtain ⟨p, hp, rfl⟩ := List.mem_map.1 named
    exact ⟨p, hp, Option.isSome_iff_exists.1 found⟩

end Extract

/-! ## Declarations -/

open Extract

variable {space : Text} {info : Option TypeInfo} {fs : List PackageFile}

/-- **What stands on a constant that belongs to an enum stands on a member of an enum.** -/
theorem exists_enum_of_constant {d : Declaration} (hd : d ∈ extract space info fs) (constant : d.enum ≠ []) :
    ∃ d' ∈ extract space info fs, ∃ m ∈ d'.members, m.placement = .enumValue ∧ m.directives = d.directives := by
  obtain ⟨i, e, he, rfl⟩ := mem_linkEnums.1 hd
  rw [link_enum] at constant
  have here : e ∈ allEntries space info fs := List.mem_of_getElem? he
  obtain ⟨⟨t, m⟩, hp, j, found⟩ := exists_of_enumOf constant
  obtain ⟨e', he', -⟩ := exists_of_candidate? found
  obtain ⟨placement, directives⟩ := (shared_of_allEntries e here).constants _ hp
  refine ⟨_, mem_linkEnums.2 ⟨j, e', he', rfl⟩, m, ?_, placement, by rw [directives, link_directives]⟩
  rw [link_members]
  exact List.mem_append_right _ (mem_membersOf.2 ⟨e, here, t, hp, found⟩)

/-- **What stands on a member of an enum stands on a declaration of its own.** -/
theorem exists_constant_of_member {d : Declaration} (hd : d ∈ extract space info fs) {m : Member}
    (hm : m ∈ d.members) (constant : m.placement = .enumValue) :
    ∃ d' ∈ extract space info fs, d'.directives = m.directives := by
  obtain ⟨i, e, he, rfl⟩ := mem_linkEnums.1 hd
  rw [link_members] at hm
  rcases List.mem_append.1 hm with field | given
  · rw [(shared_of_allEntries e (List.mem_of_getElem? he)).fields m field] at constant
    cases constant
  · obtain ⟨e', he', t, hp, -⟩ := mem_membersOf.1 given
    obtain ⟨j, hj⟩ := List.mem_iff_getElem?.1 he'
    refine ⟨_, mem_linkEnums.2 ⟨j, e', hj, rfl⟩, ?_⟩
    rw [link_directives]
    exact ((shared_of_allEntries e' he').constants _ hp).2.symm

end DocAccessors
