import DocAccessors.Proofs.Table.Accepted
import DocAccessors.Proofs.Table.Layer

/-!
# The order of directive lines

* `Declaration.Rearranged d d'`: the same declaration with its directive lines, and those of its members, in another
  order;
* `resolveMember_rearranged`, `memberTable_rearranged`, `resolveBinding_rearranged`: an item, a table and a binding
  come out the same;
* `Resolver.process_rearranged`: so does the declaration as a whole, with its tables in another order at most.
-/

namespace DocAccessors

/-- The same member with its directive lines in another order. -/
inductive Member.Rearranged (m : Member) : Member → Prop
  | mk {xs : List Directive} (lines : m.directives.Perm xs) : Rearranged m { m with directives := xs }

/-- The same declaration with its directive lines, and those of its members, in another order. -/
inductive Declaration.Rearranged (d : Declaration) : Declaration → Prop
  | mk {xs : List Directive} {ms : List Member} (lines : d.directives.Perm xs)
      (members : List.Forall₂ Member.Rearranged d.members ms) :
      Rearranged d { d with directives := xs, members := ms }

theorem Member.Rearranged.lines {m m' : Member} (h : m.Rearranged m') : m.directives.Perm m'.directives := by
  cases h with
  | mk lines => exact lines

theorem Member.Rearranged.symm {m m' : Member} (h : m.Rearranged m') : m'.Rearranged m := by
  cases h with
  | mk lines => exact Member.Rearranged.mk lines.symm

namespace Declaration.Rearranged

theorem lines {d d' : Declaration} (h : d.Rearranged d') : d.directives.Perm d'.directives := by
  cases h with
  | mk lines _ => exact lines

theorem members {d d' : Declaration} (h : d.Rearranged d') :
    List.Forall₂ Member.Rearranged d.members d'.members := by
  cases h with
  | mk _ members => exact members

theorem symm {d d' : Declaration} (h : d.Rearranged d') : d'.Rearranged d := by
  cases h with
  | mk lines members => exact mk lines.symm (members.flip.imp fun _ _ h => h.symm)

end Declaration.Rearranged

namespace Resolve

/-! ## Items -/

/-- Two contexts that differ in the lines of the declaration only. -/
structure MemberContext.Alike (c c' : MemberContext) : Prop where
  attr : c.attr = c'.attr
  profile : c.profile = c'.profile
  base : c.base = c'.base

theorem MemberContext.Alike.symm {c c' : MemberContext} (h : c.Alike c') : c'.Alike c :=
  ⟨h.attr.symm, h.profile.symm, h.base.symm⟩

/-- What the mode makes of the text and the default is accepted, unless it is a default with a known problem. -/
theorem docValue_of {mode : DocMode} {fragments : List Text} {s : Settings} {v : DocValue}
    (chosen : mode.substitute? (normalize fragments s.trim) s.defaultExpr = some v)
    (sound : ∀ e, v = .default e → defaultProblem? e = none) (p : ItemPlace) : docValue mode fragments s p = .ok v := by
  unfold docValue
  rw [chosen]
  cases v with
  | absent => rfl
  | text t => rfl
  | default e => simp [sound e rfl]

theorem docValue_place {mode : DocMode} {fragments : List Text} {s : Settings} {p : ItemPlace} {v : DocValue}
    (h : docValue mode fragments s p = .ok v) (p' : ItemPlace) : docValue mode fragments s p' = .ok v :=
  docValue_of (docValue_ok h).1 (docValue_ok h).2 p'

theorem constNames_options {d : Declaration} {s : Settings} {os : List ReadOption} {names : List Text}
    (h : constNames d s os = .ok names) (os' : List ReadOption) : constNames d s os' = .ok names := by
  unfold constNames at h ⊢
  cases custom : s.customName with
  | none => simpa only [custom] using h
  | some n =>
    simp only [custom] at h ⊢
    by_cases many : 1 < d.names.length
    · rw [if_pos many] at h
      cases h
    · rw [if_neg many] at h ⊢
      cases shown : s.visibility <;> simp only [shown] at h ⊢ <;> split at h
      all_goals simp_all

theorem resolveMember_of {c : MemberContext} {m : Member} {os : List ReadOption} {s : Settings} {v : DocValue}
    (hos : options (m.directives.filter fun d => Attribute.namesOneOf d.attr [c.attr.base.name]) = .ok os)
    (hs : settings c.base c.profile os = .ok s)
    (hv : docValue (.ofOptional c.attr.optional) m.fragments s (c.place m os) = .ok v) :
    resolveMember c m =
      .ok ⟨(s.exposedName m.lookupName).getD [], (s.exposedName m.lookupName).isSome, m.name, v, m.pos⟩ := by
  unfold resolveMember
  unfold MemberContext.place at hv
  simp only [hos, hs, hv, bind, Except.bind, pure, Except.pure]

theorem resolveMember_rearranged {c c' : MemberContext} (hc : c.Alike c') {m m' : Member} (hm : m.Rearranged m')
    {i : TableItem} (h : resolveMember c m = .ok i) : resolveMember c' m' = .ok i := by
  cases hm with
  | mk lines =>
    obtain ⟨os, s, v, hos, hs, hv, rfl⟩ := resolveMember_ok h
    obtain ⟨os', hos', same, distinct⟩ := options_perm (lines.filter _) hos
    rw [hc.attr] at hos' hv
    rw [hc.profile, hc.base] at hs
    exact resolveMember_of hos' (settings_perm same distinct hs) (docValue_place hv _)

/-! ## Members -/

/-- The members resolved so far in two runs: the same items, and problems in both runs or in none. -/
structure Members.Agree (r r' : Members) : Prop where
  items : r.items = r'.items
  entries : r.entries = r'.entries
  seen : r.seen = r'.seen
  problems : r.problems = none ↔ r'.problems = none

theorem Members.Agree.push {r r' : Members} (h : r.Agree r') {m m' : Member} (hm : m.Rearranged m') (i : TableItem) :
    (r.push m i).Agree (r'.push m' i) := by
  have span : m'.span = m.span := by cases hm; rfl
  unfold Members.push
  exact ⟨by simp [h.items], by simp [h.items, h.entries, span], h.seen, h.problems⟩

theorem Members.Agree.step {c c' : MemberContext} (hc : c.Alike c') {m m' : Member} (hm : m.Rearranged m')
    {r r' : Members} (h : r.Agree r') : (Members.step c r m).Agree (Members.step c' r' m') := by
  have variants : c'.isVariants = c.isVariants := by simp [MemberContext.isVariants, hc.attr]
  have anonymous : m'.isAnonymous = m.isAnonymous := by cases hm; rfl
  have value : m'.value = m.value := by cases hm; rfl
  have name : m'.name = m.name := by cases hm; rfl
  unfold Members.step
  rw [variants, anonymous, value, name]
  split
  · exact h
  · cases made : resolveMember c m with
    | error f =>
      -- a failure in one order is a failure in the other, or both would succeed
      cases made' : resolveMember c' m' with
      | ok i =>
        rw [resolveMember_rearranged hc.symm hm.symm made'] at made
        cases made
      | error f' => exact ⟨h.items, h.entries, h.seen, by simp [Failure.combine_eq_none]⟩
    | ok i =>
      rw [resolveMember_rearranged hc hm made]
      dsimp only
      split
      · exact h.push hm i
      · rw [← h.seen]
        split
        · exact ⟨h.items, h.entries, rfl, h.problems⟩
        · refine Members.Agree.push ?_ hm i
          exact ⟨h.items, h.entries, rfl, h.problems⟩

theorem Members.Agree.foldl {c c' : MemberContext} (hc : c.Alike c') {ms ms' : List Member}
    (hms : List.Forall₂ Member.Rearranged ms ms') :
    (ms.foldl (Members.step c) {}).Agree (ms'.foldl (Members.step c') {}) :=
  List.rel_foldl (fun _ _ h _ _ hm => h.step hc hm) ⟨rfl, rfl, rfl, Iff.rfl⟩ hms

/-! ## Tables -/

/-- The documentation of a declaration itself is made of its names and its text. -/
theorem itemTable_of_same {d d' : Declaration} (names : d'.names = d.names) (fragments : d'.fragments = d.fragments)
    {b b' : Binding} (attr : b.attr = b'.attr) {s : Settings} {os : List ReadOption} (os' : List ReadOption)
    {t : DocTable} (h : itemTable d b s os = .ok t) : itemTable d' b' s os' = .ok { t with decl := d' } := by
  have alike : d'.span = d.span ∧ d'.name = d.name := by
    rw [Declaration.span, Declaration.name, names]
    exact ⟨rfl, rfl⟩
  have constants : constNames d' s os' = constNames d s os' := by
    unfold constNames
    rw [alike.1, names]
  unfold itemTable at h ⊢
  dsimp only at h ⊢
  rw [alike.1, alike.2, fragments, constants, ← attr]
  split at h
  · next const =>
    obtain ⟨⟨v, ns⟩, made, h⟩ := bind_eq_ok h
    obtain ⟨hv, hn⟩ := both_eq_ok made
    rw [if_pos const, docValue_place hv, constNames_options hn]
    cases h
    rfl
  · next other =>
    obtain ⟨v, hv, h⟩ := bind_eq_ok h
    rw [if_neg other, docValue_place hv]
    cases h
    rfl

section Bindings

variable {d d' : Declaration} (hd : d.Rearranged d') {b b' : Binding} (attr : b.attr = b'.attr)
include hd attr

theorem itemTable_rearranged {s : Settings} {os : List ReadOption} (os' : List ReadOption) {t : DocTable}
    (h : itemTable d b s os = .ok t) : itemTable d' b' s os' = .ok { t with decl := d' } := by
  have same : d'.names = d.names ∧ d'.fragments = d.fragments := by
    cases hd
    exact ⟨rfl, rfl⟩
  exact itemTable_of_same same.1 same.2 attr os' h

theorem memberTable_rearranged {p : Profile} {lookup : Bool} {s : Settings} {os : List ReadOption}
    (os' : List ReadOption) {t : DocTable} (h : (memberTable d b p lookup s os).1 = .ok t) :
    (memberTable d' b' p lookup s os').1 = .ok { t with decl := d' } := by
  have alike : MemberContext.Alike ⟨d, b.attr, p, s, os⟩ ⟨d', b'.attr, p, s, os'⟩ := ⟨attr, rfl, rfl⟩
  have same := Members.Agree.foldl alike hd.members
  unfold memberTable at h ⊢
  dsimp only at h ⊢
  generalize d.members.foldl (Members.step ⟨d, b.attr, p, s, os⟩) {} = r at h same
  generalize d'.members.foldl (Members.step ⟨d', b'.attr, p, s, os'⟩) {} = r' at same ⊢
  cases clear : r.problems with
  | some f =>
    rw [clear] at h
    cases h
  | none =>
    rw [clear] at h
    rw [same.problems.1 clear, ← same.items, ← same.entries, ← attr]
    dsimp only at h ⊢
    split at h
    · next on =>
      cases compiled : LookupTable.compile r.entries with
      | error f => simp [compiled, Except.map] at h
      | ok table =>
        rw [compiled] at h
        rw [if_pos on]
        cases h
        rfl
    · next off =>
      cases h
      rw [if_neg off]
      rfl

end Bindings

/-- A binding has the same table when its lines and those of its declaration are in another order. -/
theorem resolveBinding_rearranged {base : Settings} {d d' : Declaration} (hd : d.Rearranged d') {b b' : Binding}
    (attr : b.attr = b'.attr) (lines : b.directives.Perm b'.directives) {t : DocTable}
    (h : (resolveBinding base d b).1 = .ok t) : (resolveBinding base d' b').1 = .ok { t with decl := d' } := by
  obtain ⟨os, s, hos, hs, made⟩ := resolveBinding_ok h
  obtain ⟨os', hos', same, distinct⟩ := options_perm lines hos
  have hs' := settings_perm same distinct hs
  rw [attr] at hs' made
  rw [resolveBinding_of hos' hs']
  split at made
  · exact itemTable_rearranged hd attr os' made
  · exact memberTable_rearranged hd attr os' made

end Resolve

/-! ## Validation -/

namespace Validation

variable {d d' : Declaration} (h : d.Rearranged d')
include h

theorem stands_rearranged {a : Attribute} : Stands d a ↔ Stands d' a := by
  cases h
  rfl

theorem deferred_rearranged {a : Attribute} : Deferred d a ↔ Deferred d' a := by
  cases h
  rfl

theorem Coherent.rearranged (coherent : Coherent d d.directives) : Coherent d' d'.directives := by
  have lines : ∀ x, x ∈ d'.directives → x ∈ d.directives := fun x hx => h.lines.mem_iff.2 hx
  refine ⟨fun x hx => ?_, fun x hx y hy a c hxa hyc stands => ?_⟩
  · obtain ⟨a, named, placed⟩ := coherent.known x (lines x hx)
    rw [stands_rearranged h, deferred_rearranged h] at placed
    exact ⟨a, named, placed⟩
  · exact coherent.oneForm x (lines x hx) y (lines y hy) a c hxa hyc ((stands_rearranged h).2 stands)

theorem Suits.rearranged {bs bs' : List Binding} (hs : Sorts d d.directives bs) (hs' : Sorts d' d'.directives bs')
    {m m' : Member} (hm : m.Rearranged m') {x : Directive} (suits : Suits bs m x) : Suits bs' m' x := by
  have placement : m'.placement = m.placement := by
    cases hm
    rfl
  unfold Suits at suits ⊢
  rw [placement]
  refine suits.imp_left ?_
  rintro ⟨a, named, member, required, enabled⟩
  refine ⟨a, named, member, required, ?_⟩
  rw [hs.exists_binding_iff] at enabled
  rw [hs'.exists_binding_iff]
  obtain ⟨y, hy, c, line, stands, base⟩ := enabled
  exact ⟨y, h.lines.mem_iff.1 hy, c, line, (stands_rearranged h).1 stands, base⟩

/-- Validation finds no error in the other order either. -/
theorem IsClean.rearranged (clean : (ofDeclaration d).IsClean) : (ofDeclaration d').IsClean := by
  obtain ⟨coherent, suits⟩ := isClean_ofDeclaration_iff.1 clean
  have coherent' := coherent.rearranged h
  refine isClean_ofDeclaration_iff.2 ⟨coherent', fun m' hm' x hx => ?_⟩
  obtain ⟨m, hm, same⟩ := exists_of_forall₂ h.members hm'
  exact (suits m hm x (same.lines.mem_iff.2 hx)).rearranged h (sorts_of_coherent coherent) (sorts_of_coherent coherent')
    same

/-- Each attribute that is enabled is enabled in the other order, by the same lines. -/
theorem Sorts.exists_rearranged {bs bs' : List Binding} (hs : Sorts d d.directives bs)
    (hs' : Sorts d' d'.directives bs') {b : Binding} (hb : b ∈ bs) :
    ∃ b' ∈ bs', b.attr = b'.attr ∧ b.directives.Perm b'.directives := by
  obtain ⟨x, hx, named⟩ := hs.exists_line hb
  obtain ⟨b', hb', same⟩ :=
    hs'.complete x (h.lines.mem_iff.1 hx) b.attr named ((stands_rearranged h).1 (hs.stands b hb))
  refine ⟨b', hb', same.symm, ?_⟩
  rw [hs.lines b hb, hs'.lines b' hb', same]
  exact h.lines.filter _

end Validation

/-! ## Declarations -/

namespace Resolver

open Resolve

variable {r : Resolver} {d d' : Declaration} (h : d.Rearranged d')
include h

theorem succeeds_rearranged (succeeded : (r.process d).1.failure = none) : (r.process d').1.failure = none := by
  obtain ⟨clean, made⟩ := process_succeeds_iff.1 succeeded
  have clean' := clean.rearranged h
  refine process_succeeds_iff.2 ⟨clean', fun b' hb' => ?_⟩
  obtain ⟨b, hb, attr, lines⟩ :=
    (Validation.sorts_ofDeclaration clean').exists_rearranged h.symm (Validation.sorts_ofDeclaration clean) hb'
  obtain ⟨t, ht⟩ := made b hb
  exact ⟨_, resolveBinding_rearranged h attr.symm lines.symm ht⟩

theorem mem_tables_rearranged {t : DocTable} (ht : t ∈ (r.process d).1.tables) :
    { t with decl := d' } ∈ (r.process d').1.tables := by
  have succeeded := failure_of_mem_tables ht
  obtain ⟨clean, -⟩ := process_succeeds_iff.1 succeeded
  obtain ⟨b, hb, made⟩ := exists_binding_of_mem_tables ht
  obtain ⟨b', hb', attr, lines⟩ :=
    (Validation.sorts_ofDeclaration clean).exists_rearranged h (Validation.sorts_ofDeclaration (clean.rearranged h)) hb
  refine mem_tables_of_made (succeeds_rearranged h succeeded) hb' ?_
  exact resolveBinding_rearranged h attr lines made

omit h in
/-- **The order of directive lines does not matter.** A declaration with its lines in another order is resolved when it
was before, and has the same tables, apart from the declaration that each of them holds and from their order. -/
theorem process_rearranged (r : Resolver) {d d' : Declaration} (h : d.Rearranged d') :
    ((r.process d).1.failure = none ↔ (r.process d').1.failure = none) ∧
      ((r.process d').1.tables.map fun t => { t with decl := d }).Perm (r.process d).1.tables := by
  refine ⟨⟨succeeds_rearranged h, succeeds_rearranged h.symm⟩, ?_⟩
  have distinct : ((r.process d').1.tables.map fun t => { t with decl := d }).Nodup := by
    refine List.Nodup.of_map (·.base) ?_
    rw [List.map_map]
    exact nodup_tables r d'
  refine (List.perm_ext_iff_of_nodup distinct (nodup_tables r d).of_map).2 fun t => ?_
  rw [List.mem_map]
  constructor
  · rintro ⟨t', ht', rfl⟩
    exact mem_tables_rearranged h.symm ht'
  · intro ht
    refine ⟨_, mem_tables_rearranged h ht, ?_⟩
    obtain ⟨b, -, made⟩ := exists_binding_of_mem_tables ht
    obtain ⟨-, -, -, rfl⟩ := attribute_of_resolveBinding made
    rfl

end Resolver

/-- A type with a constant, a field and a look-up, on which `lines` stand, and on whose field `own` stand. -/
def account (lines own : List Directive) : Declaration where
  names := [⟨"Account", 10⟩]
  placement := .struct
  exported := true
  fragments := ["An account."]
  directives := lines
  members := [{ name := "OwnerName", placement := .field, pos := 30, fragments := [" The owner. "], directives := own }]
  file := "account.go"

theorem process_rearranged_account :
    let const : Directive := ⟨"docs_const", "", {}, 40⟩
    let convention : Directive := ⟨"documented_fields", "rename_all = \"snake_case\"", {}, 50⟩
    let fallback : Directive := ⟨"documented_fields", "default = none", {}, 60⟩
    let name : Directive := ⟨"documented_fields", "rename = \"owner\"", {}, 70⟩
    let whole : Directive := ⟨"documented_fields", "trim = false", {}, 80⟩
    let d := account [const, convention, fallback] [name, whole]
    let d' := account [fallback, const, convention] [whole, name]
    let r : Resolver := { base := {} }
    (r.process d).1.failure = none ∧ (r.process d').1.failure = none ∧
      (r.process d).1.tables.map (·.base) = [text "docs_const", text "documented_fields"] ∧
      (r.process d').1.tables.map (·.base) = [text "documented_fields", text "docs_const"] ∧
      ((r.process d').1.tables.map fun t => { t with decl := d }).Perm (r.process d).1.tables := by
  intro const convention fallback name whole d d' r
  have same : d.Rearranged d' := by
    refine .mk ?_ (.cons (.mk ?_) .nil)
    · exact (List.perm_append_comm : ([const, convention] ++ [fallback]).Perm ([fallback] ++ [const, convention]))
    · exact .swap whole name []
  have succeeded : (r.process d).1.failure = none := Option.isNone_iff_eq_none.1 (by decide +kernel)
  obtain ⟨both, tables⟩ := Resolver.process_rearranged r same
  exact ⟨succeeded, both.1 succeeded, by decide +kernel, by decide +kernel, tables⟩

end DocAccessors
