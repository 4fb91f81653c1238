import DocAccessors.Proofs.Table.Precedence
import Mathlib.Data.List.Find

/-!
# The constants of an enum

In a table for the constants of an enum, a value has one item: that of the first constant with the value that has a
name.

* `firsts key ms`: the members whose key no earlier one has; `repeats key ms`: the warnings about all others, each
  naming the first member with its key;
* `find?_firsts`: the first member with a key is among them, whatever the key;
* `foldl_variants`: the members taken up are the first ones with their values, and the others are warned about;
* `Resolver.warnings_of_variants`: a declaration gives no other warnings but those about deprecated names;
* `Resolver.variants_by_value`: so a table has the first constants with their values, documented by precedence.
-/

namespace DocAccessors

namespace Resolve

/-! ## Members with the same key -/

section Keys

variable {κ : Type} [DecidableEq κ] (key : Member → κ)

/-- What is made of each member and the first of the members before it that has its key. -/
def byEarlier (f : Member → Option Member → Option β) (ms : List Member) : List β :=
  ms.zipIdx.filterMap fun p => f p.1 ((ms.take p.2).find? fun x => key x = key p.1)

/-- The members whose key no earlier one has. -/
def firsts (ms : List Member) : List Member := byEarlier key (fun m e => if e.isNone then some m else none) ms

/-- What is said about the members whose key an earlier one has. -/
def repeats (ms : List Member) : List Diagnostic :=
  byEarlier key (fun m e => e.map fun first => repeatedValue m first.name) ms

variable {key}

theorem byEarlier_append (f : Member → Option Member → Option β) (ms : List Member) (m : Member) :
    byEarlier key f (ms ++ [m]) = byEarlier key f ms ++ (f m (ms.find? fun x => key x = key m)).toList := by
  unfold byEarlier
  rw [List.zipIdx_append, List.filterMap_append]
  congr 1
  · refine List.filterMap_congr fun p hp => ?_
    rw [List.take_append_of_le_length (Nat.le_of_lt (by simpa using List.snd_lt_of_mem_zipIdx hp))]
  · rw [List.zipIdx_singleton, Nat.zero_add]
    cases made : f m (ms.find? fun x => key x = key m) <;> simp [made]

theorem byEarlier_congr {κ' : Type} [DecidableEq κ'] {key' : Member → κ'} (f : Member → Option Member → Option β)
    {ms : List Member} (same : ∀ m ∈ ms, ∀ m' ∈ ms, key m = key m' ↔ key' m = key' m') :
    byEarlier key f ms = byEarlier key' f ms := by
  unfold byEarlier
  refine List.filterMap_congr fun p hp => ?_
  have member : p.1 ∈ ms := List.fst_mem_of_mem_zipIdx hp
  have first : (ms.take p.2).find? (fun x => key x = key p.1) = (ms.take p.2).find? fun x => key' x = key' p.1 := by
    refine List.find?_congr fun x hx => ?_
    rw [decide_eq_decide]
    exact same x (List.mem_of_mem_take hx) p.1 member
  rw [first]

theorem find?_firsts (key : Member → κ) (ms : List Member) (k : κ) :
    (firsts key ms).find? (fun x => key x = k) = ms.find? fun x => key x = k := by
  induction ms using List.reverseRecOn with
  | nil => rfl
  | append_singleton ms m ih =>
    rw [firsts, byEarlier_append, ← firsts, List.find?_append, List.find?_append, ih]
    cases before : ms.find? fun x => key x = key m with
    | none => rfl
    | some first =>
      -- an earlier member has the key of the last one, so the last one is never found
      have none_added : (ms.find? fun x => key x = k).or ([m].find? fun x => key x = k) =
          ms.find? fun x => key x = k := by
        by_cases hk : key m = k
        · rw [← hk, before, Option.some_or]
        · simp [hk]
      rw [none_added]
      simp

theorem mem_of_mem_firsts {ms : List Member} {m : Member} (h : m ∈ firsts key ms) : m ∈ ms := by
  obtain ⟨p, hp, made⟩ := List.mem_filterMap.1 h
  dsimp only at made
  split at made
  · rw [← Option.some.inj made]
    exact List.fst_mem_of_mem_zipIdx hp
  · cases made

theorem nodup_firsts (key : Member → κ) (ms : List Member) : ((firsts key ms).map key).Nodup := by
  induction ms using List.reverseRecOn with
  | nil => exact List.nodup_nil
  | append_singleton ms m ih =>
    rw [firsts, byEarlier_append, ← firsts]
    cases before : ms.find? fun x => key x = key m with
    | none =>
      have unseen : ∀ x ∈ firsts key ms, key x ≠ key m := by
        rw [← find?_firsts] at before
        simpa using before
      simp only [Option.isNone_none, if_true, Option.toList_some, List.map_append, List.map_singleton]
      refine ih.append (List.nodup_singleton _) ?_
      simpa [List.disjoint_singleton] using unseen
    | some first => simpa using ih

end Keys

/-! ## Taking up constants -/

/-- The text of the value of a constant. -/
def valueText (m : Member) : Text := (m.value.map Constant.render).getD []

def shown (ms : List Member) : List Member := ms.filter fun m => !m.isAnonymous

/-- What is known of the members resolved so far when all have values and none has a problem. -/
structure Members.Tracks (k : MemberContext) (ms : List Member) (r : Members) : Prop where
  seen : r.seen = (firsts valueText ms).map fun m => (valueText m, m.name)
  items : List.Forall₂ (fun m i => resolveMember k m = .ok i) (firsts valueText ms) r.items
  warnings : r.warnings = repeats valueText ms

theorem lookup_map_name (key : Member → Text) (ms : List Member) (v : Text) :
    (ms.map fun m => (key m, m.name)).lookup v = (ms.find? fun m => key m = v).map (·.name) := by
  induction ms with
  | nil => rfl
  | cons m rest ih =>
    rw [List.map_cons, List.lookup_cons, ih, List.find?_cons]
    by_cases same : key m = v
    · simp [same]
    · have other : (v == key m) = false := beq_eq_false_iff_ne.2 (Ne.symm same)
      simp [same, other]

theorem Members.Tracks.lookup {k : MemberContext} {ms : List Member} {r : Members} (h : r.Tracks k ms) (v : Text) :
    r.seen.lookup v = (ms.find? fun x => valueText x = v).map (·.name) := by
  rw [h.seen, lookup_map_name, find?_firsts]

theorem shown_append (ms : List Member) (m : Member) :
    shown (ms ++ [m]) = shown ms ++ if m.isAnonymous then [] else [m] := by
  unfold shown
  cases anonymous : m.isAnonymous <;> simp [anonymous]

theorem valueText_eq {m : Member} {v : Constant} (value : m.value = some v) : valueText m = v.render := by
  rw [valueText, value]
  rfl

theorem Members.Tracks.step {k : MemberContext} (variants : k.isVariants = true) {ms : List Member} {r : Members}
    (h : r.Tracks k (shown ms)) {m : Member} (valued : m.value ≠ none) {r' : Members} (next : Members.Step k r m r')
    (clear : r'.problems = none) : r'.Tracks k (shown (ms ++ [m])) := by
  have named : ∀ {b : Bool}, (k.isVariants && m.isAnonymous) = b → m.isAnonymous = b := by
    rintro b rfl
    rw [variants, Bool.true_and]
  rw [shown_append]
  cases next with
  | blank _ blank =>
    rw [blank, if_pos rfl, List.append_nil]
    exact h
  | failed => simp [Failure.combine_eq_none] at clear
  | plain _ _ unvalued => exact absurd (unvalued variants) valued
  | @again i v first hb made _ value seen =>
    rw [named hb, if_neg Bool.false_ne_true]
    rw [h.lookup, ← valueText_eq value] at seen
    obtain ⟨x, found, rfl⟩ := Option.map_eq_some_iff.1 seen
    refine ⟨?_, ?_, ?_⟩
    · simp [firsts, byEarlier_append, found, h.seen]
    · simpa [firsts, byEarlier_append, found] using h.items
    · simp [repeats, byEarlier_append, found, h.warnings]
  | @fresh i v hb made _ value seen =>
    rw [named hb, if_neg Bool.false_ne_true]
    rw [h.lookup, ← valueText_eq value, Option.map_eq_none_iff] at seen
    refine ⟨?_, ?_, ?_⟩
    · rw [firsts, byEarlier_append, seen, List.map_append, ← firsts, ← h.seen]
      simp [Members.push, valueText_eq value]
    · rw [firsts, byEarlier_append, seen]
      exact List.rel_append h.items (.cons made .nil)
    · simp [Members.push, repeats, byEarlier_append, seen, h.warnings]

/-- **The first constants with their values are taken up, and the others are warned about.** -/
theorem foldl_variants {k : MemberContext} (variants : k.isVariants = true) (ms : List Member) :
    (∀ m ∈ ms, m.value ≠ none) → (ms.foldl (Members.step k) {}).problems = none →
      (ms.foldl (Members.step k) {}).Tracks k (shown ms) := by
  refine Members.foldl_steps (P := fun ms r =>
    (∀ m ∈ ms, m.value ≠ none) → r.problems = none → r.Tracks k (shown ms)) (fun _ _ => ⟨rfl, .nil, rfl⟩) ?_ ms
  intro ms m r r' next ih valued clear
  have before := ih (fun m' hm' => valued m' (List.mem_append_left _ hm')) (next.clear clear)
  exact before.step variants (valued m (List.mem_append_right _ (List.mem_singleton_self m))) next clear

theorem warnings_of_fields {k : MemberContext} (fields : k.isVariants = false) (ms : List Member) :
    (ms.foldl (Members.step k) {}).warnings = [] := by
  refine Members.foldl_induction (P := fun r => r.warnings = []) ms rfl ?_
  intro r m r' _ next hr
  cases next with
  | again _ _ variants =>
    rw [fields] at variants
    cases variants
  | _ => exact hr

/-- Only constants of an enum are warned about. -/
theorem warnings_of_other {base : Settings} {d : Declaration} {b : Binding}
    (other : b.attr.base ≠ .documentedVariants) : (resolveBinding base d b).2 = [] := by
  unfold resolveBinding
  dsimp only
  split
  · rfl
  · split
    · rfl
    · refine warnings_of_fields ?_ d.members
      rw [MemberContext.isVariants, beq_eq_false_iff_ne]
      exact other

end Resolve

/-! ## Declarations -/

namespace Resolver

open Resolve

/-- **A declaration with a table for the constants of an enum gives no other warnings but about deprecated names, and
about the constants that are left out of the table.** -/
theorem warnings_of_variants {r : Resolver} {d : Declaration} (succeeded : (r.process d).1.failure = none)
    {b : Binding} (hb : b ∈ (Validation.ofDeclaration d).bindings) (variants : b.attr.base = .documentedVariants) :
    (r.process d).2.warnings =
        r.warnings ++ (Validation.ofDeclaration d).found ++ (resolveBinding r.base d b).2 ∧
      ∀ w ∈ (Validation.ofDeclaration d).found, w.code = .unknownOption := by
  have clear := failure_eq_none_iff.1 succeeded
  obtain ⟨clean, made⟩ := process_succeeds_iff.1 succeeded
  have sorts := Validation.sorts_ofDeclaration clean
  have only : (Validation.ofDeclaration d).bindings.flatMap (fun c => reports (resolveBinding r.base d c)) =
      (resolveBinding r.base d b).2 := by
    have silent : ∀ c ∈ (Validation.ofDeclaration d).bindings, c ≠ b → reports (resolveBinding r.base d c) = [] := by
      intro c hc hne
      obtain ⟨t, ht⟩ := made c hc
      have other : c.attr.base ≠ .documentedVariants := fun same =>
        hne (sorts.eq_of_base_eq hc hb (same.trans variants.symm))
      rw [reports, ht, warnings_of_other other, List.append_nil]
    obtain ⟨before, after, split⟩ := List.append_of_mem hb
    have distinct := sorts.distinct.of_map
    rw [split] at silent distinct ⊢
    rw [List.nodup_middle, List.nodup_cons] at distinct
    have outside : ∀ c ∈ before ++ after, reports (resolveBinding r.base d c) = [] := fun c hc =>
      silent c (by grind) fun same => distinct.1 (same ▸ hc)
    obtain ⟨t, ht⟩ := made b hb
    rw [List.flatMap_append, List.flatMap_cons, List.flatMap_eq_nil_iff.2 fun c hc => outside c (by simp [hc]),
      List.flatMap_eq_nil_iff.2 fun c hc => outside c (by simp [hc]), reports, ht]
    simp
  refine ⟨?_, fun w hw => ?_⟩
  · rw [warnings_process, List.filter_eq_self.2 fun x hx => by simp [clear x hx], reported, only, List.append_assoc]
  · rcases Validation.explained_ofDeclaration d w hw with fault | ⟨x, a, rfl⟩
    · have error := fault.1
      rw [clean w hw] at error
      cases error
    · rfl

/-- **A table for the constants of an enum has the first constants with their values, and the others are warned
about.** -/
theorem variants_by_value (c : Configuration) {r : Resolver} (hr : r.base = c.settings) {d : Declaration}
    {t : DocTable} (ht : t ∈ (r.process d).1.tables) (base : t.base = AttributeBase.documentedVariants.name)
    (valued : ∀ m ∈ d.members, m.value ≠ none) :
    List.Forall₂ (fun m i => i.ident = m.name ∧ i.docs = (Layers.ofMember c .documentedVariants d m).docs m)
        (firsts valueText (shown d.members)) t.items ∧
      ∃ ws, (∀ w ∈ ws, w.code = .unknownOption) ∧
        (r.process d).2.warnings = r.warnings ++ ws ++ repeats valueText (shown d.members) := by
  obtain ⟨k, rfl, family, h⟩ := exists_context ht base (by simp [AttributeBase.levels])
  have variants : k.isVariants = true := by
    rw [MemberContext.isVariants, family]
    rfl
  have tracks := foldl_variants variants k.decl.members valued h.clear
  have inDecl : ∀ m ∈ firsts valueText (shown k.decl.members), m ∈ k.decl.members := fun m hm =>
    (List.mem_filter.1 (mem_of_mem_firsts hm)).1
  obtain ⟨b, hb, attr, own⟩ := h.warnings
  obtain ⟨warnings, deprecated⟩ := warnings_of_variants (failure_of_mem_tables ht) hb (by rw [attr, family])
  refine ⟨?_, _, deprecated, by rw [warnings, own, tracks.warnings]⟩
  rw [← family, h.items]
  refine ((List.forall₂_and_left _ _).2 ⟨inDecl, tracks.items⟩).imp fun m i hmi => ?_
  obtain ⟨-, fill, -⟩ := h.fill hr (by rw [family]; rfl) hmi.1 hmi.2
  exact ⟨fill.ident, fill.docs_eq⟩

end Resolver

end DocAccessors
