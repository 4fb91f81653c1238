import DocAccessors.Proofs.Declaration.SpelledOut

/-!
# Enums and their constants

Which types are enums, and with which members, follows from the constants alone: from the type in effect for each of
them.

* `candidate?_eq_some_iff`: with different names, a constant is given to the one type that it names;
* `membersOf_eq`: the members of a type are the constants that are given to it, in order;
* `enumOf_ne_nil_iff`: a declaration has an enum when one of its constants is given to a type;
* `EnumMembership`, `enumMembership`: how enums follow their constants.
-/

namespace DocAccessors

namespace Extract

variable {es : List Entry} {e : Entry} {i : Nat} {t : Text}

/-! ## Candidates -/

/-- Candidates with different names stand where their names say. -/
theorem eq_of_canBeEnum (distinct : ((es.filter (·.canBeEnum)).map (·.decl.name)).Nodup) {e' : Entry} {j : Nat}
    (he : es[i]? = some e) (he' : es[j]? = some e') (candidate : e.canBeEnum = true) (candidate' : e'.canBeEnum = true)
    (same : e.decl.name = e'.decl.name) : i = j := by
  rw [List.Nodup, List.pairwise_map, List.pairwise_filter, List.pairwise_iff_getElem] at distinct
  obtain ⟨hi, rfl⟩ := List.getElem?_eq_some_iff.1 he
  obtain ⟨hj, rfl⟩ := List.getElem?_eq_some_iff.1 he'
  rcases lt_trichotomy i j with lt | eq | gt
  · exact absurd same (distinct i j hi hj lt candidate candidate')
  · exact eq
  · exact absurd same.symm (distinct j i hj hi gt candidate' candidate)

/-- **A constant is given to the one candidate that it names.** -/
theorem candidate?_eq_some_iff (distinct : ((es.filter (·.canBeEnum)).map (·.decl.name)).Nodup)
    (he : es[i]? = some e) (candidate : e.canBeEnum = true) : candidate? es t = some i ↔ e.decl.name = t := by
  refine ⟨fun h => ?_, fun h => ?_⟩
  · obtain ⟨e', he', -, named⟩ := exists_of_candidate? h
    rw [he] at he'
    cases he'
    exact named
  · have some_found : (candidate? es t).isSome := by
      rw [candidate?, Option.isSome_map, List.getLast?_isSome]
      refine List.ne_nil_of_mem (a := (e, i)) (List.mem_filter.2 ⟨List.mk_mem_zipIdx_iff_getElem?.2 he, ?_⟩)
      simp [candidate, h]
    obtain ⟨j, found⟩ := Option.isSome_iff_exists.1 some_found
    obtain ⟨e', he', candidate', named⟩ := exists_of_candidate? found
    rw [found, eq_of_canBeEnum distinct he he' candidate candidate' (h.trans named.symm)]

/-! ## Members -/

section Found

variable {space : Text} {cs : List DeclaredConst} {ts : List DeclaredType} {ns : List DeclaredName}

/-- **The members of a type are the constants that are given to it**, in order. -/
theorem membersOf_eq (found : Found space es cs ts ns) :
    membersOf es i = (cs.filter fun k => k.typeName?.bind (candidate? es) = some i).map (·.member space) := by
  rw [membersOf, found.consts, List.filterMap_filterMap, ← List.filterMap_eq_map, List.filterMap_filter]
  refine congrArg (List.filterMap · cs) (funext fun k => ?_)
  cases named : k.typeName? with
  | none => simp [DeclaredConst.given?, named]
  | some t => simp [DeclaredConst.given?, named]

/-- A declaration has an enum when one of its constants is given to a type. -/
theorem enumOf_ne_nil_iff (spelled : ∀ e ∈ es, e.canBeEnum = true → e.decl.name ≠ []) :
    enumOf es e ≠ [] ↔ ∃ p ∈ e.consts, ∃ i, candidate? es p.1 = some i := by
  refine ⟨exists_of_enumOf, fun ⟨p, hp, i, given⟩ => ?_⟩
  unfold enumOf
  have some_given : (((e.consts.map Prod.fst).filter fun t => (candidate? es t).isSome).getLast?).isSome := by
    rw [List.getLast?_isSome]
    exact List.ne_nil_of_mem (List.mem_filter.2 ⟨List.mem_map_of_mem hp, Option.isSome_iff_exists.2 ⟨i, given⟩⟩)
  obtain ⟨t, last⟩ := Option.isSome_iff_exists.1 some_given
  obtain ⟨j, given⟩ := Option.isSome_iff_exists.1 (List.mem_filter.1 (List.mem_of_getLast? last)).2
  obtain ⟨e', he', candidate, rfl⟩ := exists_of_candidate? given
  rw [last]
  exact spelled e' (List.mem_of_getElem? he') candidate

/-! ## Links -/

theorem link_placement (es : List Entry) (e : Entry) (i : Nat) :
    (link es e i).placement = if membersOf es i = [] then e.decl.placement else .enum := by
  unfold link
  dsimp only
  split
  · next none_given => rw [if_pos none_given]
  · next some_given => rw [if_neg some_given]

theorem Entry.Plain.link_enum_iff (plain : e.Plain) : (link es e i).placement = .enum ↔ membersOf es i ≠ [] := by
  rw [link_placement]
  split
  · next none_given => simp [none_given, plain.noEnum]
  · next some_given => simp [some_given]

theorem Entry.Plain.members_eq (plain : e.Plain) (candidate : e.canBeEnum = true) :
    (link es e i).members = membersOf es i := by
  rw [link_members, (plain.candidate candidate).2, List.nil_append]

theorem Entry.Plain.canBeEnum_of_enum (plain : e.Plain) (he : es[i]? = some e)
    (isEnum : (link es e i).placement = .enum) : e.canBeEnum = true :=
  canBeEnum_of_membersOf he (plain.link_enum_iff.1 isEnum)

theorem Entry.Plain.link_const_iff (plain : e.Plain) (he : es[i]? = some e) :
    (link es e i).placement = .const ↔ e.decl.placement = .const := by
  rw [link_placement]
  split
  · rfl
  · next given => simp [(plain.candidate (canBeEnum_of_membersOf he given)).1]

/-! ## Declarations -/

namespace Found

variable (found : Found space es cs ts ns)
include found

theorem candidateNames : (es.filter (·.canBeEnum)).map (·.decl.name) = (ts.filter (·.isBasic)).map (·.id.name) := by
  have names := congrArg (List.map fun ns => (ns.head?.map DeclaredName.name).getD []) found.candidates
  rwa [List.map_map, List.map_map] at names

theorem candidates_nodup (distinct : (ts.map (·.id.name)).Nodup) :
    ((es.filter (·.canBeEnum)).map (·.decl.name)).Nodup := by
  rw [found.candidateNames]
  exact distinct.sublist (List.filter_sublist.map _)

theorem exists_type (he : e ∈ es) (candidate : e.canBeEnum = true) :
    ∃ t ∈ ts, t.isBasic = true ∧ e.decl.names = [t.name] := by
  have named : e.decl.names ∈ (es.filter (·.canBeEnum)).map (·.decl.names) :=
    List.mem_map_of_mem (List.mem_filter.2 ⟨he, candidate⟩)
  rw [found.candidates] at named
  obtain ⟨t, ht, same⟩ := List.mem_map.1 named
  exact ⟨t, (List.mem_filter.1 ht).1, (List.mem_filter.1 ht).2, same.symm⟩

theorem exists_entry {t : DeclaredType} (ht : t ∈ ts) (basic : t.isBasic = true) :
    ∃ (e : Entry) (i : Nat), es[i]? = some e ∧ e.canBeEnum = true ∧ e.decl.names = [t.name] := by
  have named : [t.name] ∈ (ts.filter (·.isBasic)).map fun t => [t.name] :=
    List.mem_map_of_mem (List.mem_filter.2 ⟨ht, basic⟩)
  rw [← found.candidates] at named
  obtain ⟨e, he, same⟩ := List.mem_map.1 named
  obtain ⟨here, candidate⟩ := List.mem_filter.1 he
  obtain ⟨i, hi⟩ := List.mem_iff_getElem?.1 here
  exact ⟨e, i, hi, candidate, same⟩

theorem name_ne_nil (spelled : ∀ n ∈ ns, n.name ≠ []) (he : e ∈ es) (candidate : e.canBeEnum = true) :
    e.decl.name ≠ [] := by
  obtain ⟨t, -, -, named⟩ := found.exists_type he candidate
  have among : t.name ∈ ns := found.names.subset (List.mem_flatMap.2 ⟨e, he, named ▸ List.mem_singleton_self _⟩)
  rw [Declaration.name, named]
  exact spelled _ among

/-- **A type over a basic type is an enum when a constant names it**, and has the constants that do as members. -/
theorem exists_of_type (distinct : (ts.map (·.id.name)).Nodup) {t : DeclaredType} (ht : t ∈ ts)
    (basic : t.isBasic = true) :
    ∃ d ∈ linkEnums es, d.names = [t.name] ∧ (d.placement = .enum ↔ ∃ k ∈ cs, k.typeName? = some t.id.name) ∧
      d.members = (cs.filter fun k => k.typeName? = some t.id.name).map (·.member space) := by
  obtain ⟨e, i, he, candidate, named⟩ := found.exists_entry ht basic
  have plain := found.plain e (List.mem_of_getElem? he)
  have name : e.decl.name = t.id.name := by rw [Declaration.name, named]; rfl
  have given : membersOf es i = (cs.filter fun k => k.typeName? = some t.id.name).map (·.member space) := by
    rw [membersOf_eq found]
    refine congrArg (List.map _) (List.filter_congr fun k _ => ?_)
    cases k.typeName? with
    | none => simp
    | some t' => simp [candidate?_eq_some_iff (found.candidates_nodup distinct) he candidate, name, eq_comm]
  refine ⟨_, mem_linkEnums.2 ⟨i, e, he, rfl⟩, by rw [link_names, named], ?_, ?_⟩
  · rw [plain.link_enum_iff, given]
    simp
  · rw [plain.members_eq candidate, given]

theorem exists_type_of_enum {d : Declaration} (hd : d ∈ linkEnums es) (isEnum : d.placement = .enum) :
    ∃ t ∈ ts, t.isBasic = true ∧ d.names = [t.name] := by
  obtain ⟨i, e, he, rfl⟩ := mem_linkEnums.1 hd
  have here := List.mem_of_getElem? he
  rw [link_names]
  exact found.exists_type here ((found.plain e here).canBeEnum_of_enum he isEnum)

theorem members_of_enum (he : es[i]? = some e) (isEnum : (link es e i).placement = .enum) :
    (link es e i).members = membersOf es i :=
  have plain := found.plain e (List.mem_of_getElem? he)
  plain.members_eq (plain.canBeEnum_of_enum he isEnum)

/-- Declarations have the names of their entries, and those of constants are declarations of constants. -/
theorem kinds_linkEnums :
    (linkEnums es).map (fun d => (d.names, decide (d.placement = .const))) =
      es.map fun e => (e.decl.names, decide (e.decl.placement = .const)) := by
  change (es.zipIdx.map fun p => link es p.1 p.2).map _ = _
  rw [List.map_map]
  have same : ∀ p ∈ es.zipIdx, ((fun d => (d.names, decide (d.placement = .const))) ∘ fun p => link es p.1 p.2) p =
      ((fun e : Entry => (e.decl.names, decide (e.decl.placement = .const))) ∘ Prod.fst) p := by
    rintro ⟨e, i⟩ hp
    have he := List.mk_mem_zipIdx_iff_getElem?.1 hp
    dsimp only [Function.comp]
    rw [link_names, decide_eq_decide.2 ((found.plain e (List.mem_of_getElem? he)).link_const_iff he)]
  rw [List.map_congr_left same, ← List.map_map, List.zipIdx_map_fst]

/-- Declarations of constants name the constants. -/
theorem names_linkEnums :
    ((linkEnums es).filter fun d => d.placement = .const).flatMap (·.names) = cs.map (·.name) := by
  have named := congrArg (fun l => (l.filter Prod.snd).flatMap Prod.fst) found.kinds_linkEnums
  rw [List.filter_map, List.filter_map, List.flatMap_map, List.flatMap_map] at named
  rw [← found.constNames]
  exact named

theorem names_nodup (apart : (ns.map (·.pos)).Nodup) : (((linkEnums es).flatMap (·.names)).map (·.pos)).Nodup := by
  have named := congrArg (List.flatMap Prod.fst) found.kinds_linkEnums
  rw [List.flatMap_map, List.flatMap_map] at named
  rw [named]
  exact apart.sublist (found.names.map _)

theorem consts_nodup (apart : (ns.map (·.pos)).Nodup) : (cs.map (·.name.pos)).Nodup := by
  have positions := found.sublist.map (·.pos)
  rw [List.map_map] at positions
  exact apart.sublist positions

/-- A position is that of a constant that is given to a type when a member of the type stands there. -/
theorem mem_pos_membersOf {p : Pos} :
    p ∈ (membersOf es i).map (·.pos) ↔ ∃ k ∈ cs, k.typeName?.bind (candidate? es) = some i ∧ k.name.pos = p := by
  rw [membersOf_eq found, List.map_map]
  simp only [List.mem_map, List.mem_filter, decide_eq_true_eq, and_assoc]
  rfl

/-- **A constant is a member of one enum at most, and of that once.** -/
theorem members_nodup (apart : (ns.map (·.pos)).Nodup) :
    (((linkEnums es).filter fun d => d.placement = .enum).flatMap fun d => d.members.map (·.pos)).Nodup := by
  have consts := found.consts_nodup apart
  rw [List.nodup_flatMap, List.pairwise_filter]
  refine ⟨fun d hd => ?_, ?_⟩
  · obtain ⟨hd, isEnum⟩ := List.mem_filter.1 hd
    obtain ⟨i, e, he, rfl⟩ := mem_linkEnums.1 hd
    rw [found.members_of_enum he (of_decide_eq_true isEnum), membersOf_eq found, List.map_map]
    exact consts.sublist (List.filter_sublist.map _)
  · change (es.zipIdx.map fun p => link es p.1 p.2).Pairwise _
    have indices : es.zipIdx.Pairwise fun p q => p.2 ≠ q.2 := by
      rw [← List.pairwise_map (f := Prod.snd) (R := fun i j => i ≠ j), List.zipIdx_map_snd]
      exact List.nodup_range'
    rw [List.pairwise_map]
    refine indices.imp_of_mem fun {p q} hp hq apart isEnum isEnum' => List.disjoint_left.2 fun o ho ho' => apart ?_
    dsimp only at ho ho'
    have hp := List.mk_mem_zipIdx_iff_getElem?.1 hp
    have hq := List.mk_mem_zipIdx_iff_getElem?.1 hq
    rw [found.members_of_enum hp (of_decide_eq_true isEnum), found.mem_pos_membersOf] at ho
    rw [found.members_of_enum hq (of_decide_eq_true isEnum'), found.mem_pos_membersOf] at ho'
    obtain ⟨k, hk, given, rfl⟩ := ho
    obtain ⟨k', hk', given', same⟩ := ho'
    -- constants at one position are one constant, which is given to one type
    obtain rfl := List.inj_on_of_nodup_map consts hk' hk same
    exact Option.some.inj (given.symm.trans given')

theorem eq_of_pos (apart : (ns.map (·.pos)).Nodup) {e e' : Entry} (he : e ∈ es) (he' : e' ∈ es) {p : Pos}
    (hp : p ∈ e.decl.names.map (·.pos)) (hp' : p ∈ e'.decl.names.map (·.pos)) : e = e' := by
  have names := apart.sublist (found.names.map (·.pos))
  rw [List.map_flatMap, List.nodup_flatMap] at names
  by_contra other
  have : Std.Symm (Function.onFun List.Disjoint fun e : Entry => e.decl.names.map (·.pos)) := ⟨fun _ _ h => h.symm⟩
  exact names.2.forall he he' other hp hp'

/-- **A declaration of constants has an enum when one of its names is a member of an enum.** -/
theorem enum_ne_nil_iff (apart : (ns.map (·.pos)).Nodup) (spelled : ∀ n ∈ ns, n.name ≠ []) {d : Declaration}
    (hd : d ∈ linkEnums es) (isConst : d.placement = .const) :
    d.enum ≠ [] ↔ ∃ n ∈ d.names, ∃ d' ∈ linkEnums es, d'.placement = .enum ∧ ∃ m ∈ d'.members, m.pos = n.pos := by
  obtain ⟨i, e, he, rfl⟩ := mem_linkEnums.1 hd
  have here := List.mem_of_getElem? he
  rw [link_enum, enumOf_ne_nil_iff fun e => found.name_ne_nil spelled, link_names]
  constructor
  · rintro ⟨⟨t, m⟩, hp, j, given⟩
    obtain ⟨e', he', -⟩ := exists_of_candidate? given
    obtain ⟨n, hn, same⟩ := List.mem_map.1 ((found.plain e here).consts _ hp).2
    have member : m ∈ membersOf es j := mem_membersOf.2 ⟨e, here, t, hp, given⟩
    have isEnum := (found.plain e' (List.mem_of_getElem? he')).link_enum_iff.2 (List.ne_nil_of_mem member)
    refine ⟨n, hn, _, mem_linkEnums.2 ⟨j, e', he', rfl⟩, isEnum, m, ?_, same.symm⟩
    rw [link_members]
    exact List.mem_append_right _ member
  · rintro ⟨n, hn, _, hd', isEnum, m, hm, same⟩
    obtain ⟨j, e', he', rfl⟩ := mem_linkEnums.1 hd'
    rw [found.members_of_enum he' isEnum] at hm
    obtain ⟨e'', there, t, hp, given⟩ := mem_membersOf.1 hm
    -- the entry that the member is a constant of names the same position, so it is this entry
    obtain rfl := found.eq_of_pos apart there here ((found.plain e'' there).consts _ hp).2
      (same ▸ List.mem_map_of_mem hn)
    exact ⟨(t, m), hp, j, given⟩

end Found

end Found

/-! ## Files -/

variable {f : PackageFile} {fs : List PackageFile}

theorem source_of_constsOf {d : Source.Decl} {k : DeclaredConst} (hk : k ∈ constsOf f d) : k.source = f := by
  unfold constsOf at hk
  split at hk
  · obtain ⟨⟨earlier, s⟩, -, hk⟩ := List.mem_flatMap.1 hk
    cases s with
    | valueSpec doc names type values comment =>
      obtain ⟨p, -, rfl⟩ := List.mem_map.1 hk
      rfl
    | _ => cases hk
  · cases hk

theorem areRead_sortFiles (h : AreRead fs) : AreRead (sortFiles fs) where
  read f hf := h.read f ((sortFiles_perm_self fs).mem_iff.1 hf)
  apart := ((sortFiles_perm_self fs).pairwise_iff Or.symm).2 h.apart

/-- **Constants come in the order of their files**, and in a file in the order of their positions. -/
theorem constants_sorted (h : AreRead fs) :
    (constants fs).Pairwise fun a b =>
      a.source.name ≤ b.source.name ∧ (a.source = b.source → a.name.pos < b.name.pos) := by
  have sorted := areRead_sortFiles h
  have source {f : PackageFile} {k : DeclaredConst} (hk : k ∈ f.tree.decls.flatMap (constsOf f)) : k.source = f := by
    obtain ⟨d, -, hk⟩ := List.mem_flatMap.1 hk
    exact source_of_constsOf hk
  refine List.pairwise_flatMap.2 ⟨fun f hf => ?_, ?_⟩
  · have positions := (sorted.read f hf).declared_sorted.sublist (found_file f []).sublist
    rw [List.pairwise_map] at positions
    refine positions.imp_of_mem fun {a b} ha hb before => ⟨?_, fun _ => before⟩
    rw [source ha, source hb]
    exact List.le_refl _
  · refine (pairwise_sortFiles fs).imp₂ (fun f g named apart a ha b hb => ?_) sorted.apart
    rw [source ha, source hb]
    refine ⟨named, ?_⟩
    rintro rfl
    unfold PackageFile.Before at apart
    omega

end Extract

open Extract

/-- How enums follow their constants. -/
structure EnumMembership (space : Text) (fs : List PackageFile) : Prop where
  /-- A type over a basic type is an enum when a constant belongs to it, and has the constants that do as members. -/
  type : ∀ t ∈ types fs, t.isBasic = true →
    ∃ d ∈ extract space none fs, d.names = [t.name] ∧
      (d.placement = .enum ↔ ∃ k ∈ constants fs, k.typeName? = some t.id.name) ∧
      d.members = ((constants fs).filter fun k => k.typeName? = some t.id.name).map (·.member space)
  /-- Nothing else is an enum. -/
  enum : ∀ d ∈ extract space none fs, d.placement = .enum → ∃ t ∈ types fs, t.isBasic = true ∧ d.names = [t.name]
  /-- Constants come in the order of their files, and in a file in the order of their positions. -/
  order : (constants fs).Pairwise fun a b =>
    a.source.name ≤ b.source.name ∧ (a.source = b.source → a.name.pos < b.name.pos)
  /-- Declarations of constants name the constants. -/
  declared : ((extract space none fs).filter fun d => d.placement = .const).flatMap (·.names) = (constants fs).map (·.name)
  /-- No two names are declared at one position. -/
  apart : (((extract space none fs).flatMap (·.names)).map (·.pos)).Nodup
  /-- A constant is a member of one enum at most, and of that once. -/
  once : (((extract space none fs).filter fun d => d.placement = .enum).flatMap fun d => d.members.map (·.pos)).Nodup
  /-- A declaration of constants has an enum when one of its names is a member of an enum. -/
  marked : ∀ d ∈ extract space none fs, d.placement = .const →
    (d.enum ≠ [] ↔ ∃ n ∈ d.names, ∃ d' ∈ extract space none fs, d'.placement = .enum ∧ ∃ m ∈ d'.members, m.pos = n.pos)
  /-- It does not matter whether types and values are repeated or written out. -/
  spelledOut : extract space none (fs.map PackageFile.spelledOut) = extract space none fs

/-- **Enums follow their constants**, in files that were read and whose types have different names. -/
theorem enumMembership (space : Text) {fs : List PackageFile} (read : AreRead fs)
    (distinct : ((types fs).map (·.id.name)).Nodup) : EnumMembership space fs := by
  have found := found_allEntries space fs
  have sorted := areRead_sortFiles read
  have apart := declared_nodup sorted
  have spelled : ∀ n ∈ (sortFiles fs).flatMap PackageFile.declared, n.name ≠ [] := by
    intro n hn
    obtain ⟨f, hf, hn⟩ := List.mem_flatMap.1 hn
    obtain ⟨i, hi, rfl⟩ := List.mem_map.1 hn
    exact ((sorted.read f hf).declared.2 i hi).1
  exact {
    type := fun t ht => found.exists_of_type distinct ht
    enum := fun d hd => found.exists_type_of_enum hd
    order := constants_sorted read
    declared := found.names_linkEnums
    apart := found.names_nodup apart
    once := found.members_nodup apart
    marked := fun d hd => found.enum_ne_nil_iff apart spelled hd
    spelledOut := congrArg linkEnums (allEntries_spelledOut space fs) }

theorem enumMembership_scatteredEnum :
    AreRead scatteredEnum.files ∧ (types scatteredEnum.files).map (·.id.name) = ["Unit"] ∧
      EnumMembership "documented" scatteredEnum.files := by
  have read : scatteredEnum.IsPlaced := by
    unfold scatteredEnum
    exact (Package.isPlaced_empty.takeFile _ _ _).takeFile _ _ _
  have names : (scatteredEnum.files.map PackageFile.name) = ["b.go", "a.go"] := by decide +kernel
  have order : sortFiles scatteredEnum.files = scatteredEnum.files.reverse := by
    rw [sortFiles_perm (List.reverse_perm scatteredEnum.files) (by rw [List.map_reverse, names]; decide)]
    exact sortFiles_of_pairwise (by decide +kernel)
  have named : (types scatteredEnum.files).map (·.id.name) = ["Unit"] := by
    rw [types, order]
    decide +kernel
  exact ⟨read.files, named, enumMembership "documented" read.files (by rw [named]; decide)⟩

end DocAccessors
