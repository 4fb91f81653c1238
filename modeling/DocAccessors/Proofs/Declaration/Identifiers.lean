import DocAccessors.Proofs.Declaration.Enum
import DocAccessors.Proofs.Source.Identifiers

/-!
# Names of declarations

The names in the declarations of files that were read are identifiers: those declared, those of type parameters, and those
of the constants of enums.

* `Declaration.IsSpelled`: the names in a declaration are identifiers;
* `isSpelled_of_extract`: so they are in the declarations of files whose names are.
-/

namespace DocAccessors

/-- The names in the declaration are identifiers. -/
structure Declaration.IsSpelled (d : Declaration) : Prop where
  names : ∀ n ∈ d.names, isIdentifier n.name = true
  typeParams : ∀ n ∈ d.typeParams, isIdentifier n = true
  constants : d.placement = .enum → ∀ m ∈ d.members, isIdentifier m.name = true

namespace Extract

/-- The names in an entry are identifiers, and a type that can be an enum has no members of its own. -/
structure Entry.IsSpelled (e : Entry) : Prop where
  names : ∀ n ∈ e.decl.names, isIdentifier n.name = true
  typeParams : ∀ n ∈ e.decl.typeParams, isIdentifier n = true
  constants : ∀ p ∈ e.consts, isIdentifier p.2.name = true
  other : e.decl.placement ≠ .enum
  plain : e.canBeEnum = true → e.decl.members = []

variable (c : Context)

theorem isSpelled_of_typeEntry? {above : Option Source.CommentGroup} {lparen : Option Nat} {s : Source.Spec} {e : Entry}
    (h : c.typeEntry? above lparen s = some e) (spelled : s.IsSpelled) : e.IsSpelled := by
  unfold Context.typeEntry? at h
  split at h
  · next doc name typeParams assign type comment =>
    obtain ⟨named, params⟩ := spelled
    have names : ∀ n ∈ [c.declared name], isIdentifier n.name = true := List.forall_mem_singleton.2 named
    have params : ∀ n ∈ ((typeParams.map fun l => l.fields).getD []).flatMap fun f => f.names.map (·.name),
        isIdentifier n = true := by
      cases typeParams with
      | none => simp
      | some l =>
        intro n hn
        obtain ⟨f, hf, hn⟩ := List.mem_flatMap.1 hn
        obtain ⟨i, hi, rfl⟩ := List.mem_map.1 hn
        exact params l rfl f hf i hi
    injection h with h
    subst h
    split
    · exact ⟨names, params, by simp, by simp, by simp⟩
    · exact ⟨names, params, by simp, by simp, by simp⟩
    · exact ⟨names, params, by simp, by simp, by simp⟩
  · cases h

theorem names_of_valueDecl {doc : Option Source.CommentGroup} {names : List Source.Ident} {p : Placement}
    (spelled : ∀ n ∈ names, n.IsSpelled) : ∀ n ∈ (c.valueDecl doc names p).names, isIdentifier n.name = true := by
  intro n hn
  obtain ⟨i, hi, rfl⟩ := List.mem_map.1 hn
  exact spelled i hi

theorem isSpelled_of_varEntry? {above : Option Source.CommentGroup} {lparen : Option Nat} {s : Source.Spec} {e : Entry}
    (h : c.varEntry? above lparen s = some e) (spelled : s.IsSpelled) : e.IsSpelled := by
  unfold Context.varEntry? at h
  split at h
  · injection h with h
    subst h
    exact ⟨names_of_valueDecl c spelled, by simp [Context.valueDecl], by simp, by simp [Context.valueDecl], by simp⟩
  · cases h

theorem isSpelled_of_constEntries (above : Option Source.CommentGroup) (lparen : Option Nat)
    (before : Option Source.Expr × List Source.Expr) (specs : List Source.Spec) (spelled : ∀ s ∈ specs, s.IsSpelled) :
    ∀ e ∈ c.constEntries above lparen before specs, e.IsSpelled := by
  fun_induction Context.constEntries c above lparen before specs with
  | case1 => simp
  | case2 before doc names type values comment specs effect d ih =>
    obtain ⟨first, rest⟩ := List.forall_mem_cons.1 spelled
    refine List.forall_mem_cons.2 ⟨?_, ih rest⟩
    refine ⟨names_of_valueDecl c first, by simp [d, Context.valueDecl], fun p hp => ?_, by simp [d, Context.valueDecl], by simp⟩
    obtain ⟨⟨n, k⟩, hn, made⟩ := List.mem_filterMap.1 hp
    obtain ⟨t, -, rfl⟩ := Option.map_eq_some_iff.1 made
    exact first n (List.fst_mem_of_mem_zipIdx hn)
  | case3 before spec specs _ ih => exact ih (List.forall_mem_cons.1 spelled).2

theorem isSpelled_of_entries {d : Source.Decl} (spelled : d.IsSpelled) : ∀ e ∈ c.entries d, e.IsSpelled := by
  intro e he
  unfold Context.entries at he
  split at he
  · cases he
  · split at he
    · obtain ⟨s, hs, made⟩ := List.mem_filterMap.1 he
      exact isSpelled_of_typeEntry? c made (spelled s hs)
    · exact isSpelled_of_constEntries c _ _ _ _ spelled e he
    · obtain ⟨s, hs, made⟩ := List.mem_filterMap.1 he
      exact isSpelled_of_varEntry? c made (spelled s hs)
    · cases he
  · split at he
    · cases he
    · rw [List.mem_singleton.1 he]
      exact ⟨List.forall_mem_singleton.2 spelled, by simp, by simp, by simp, by simp⟩

theorem isSpelled_of_allEntries (space : Text) (info : Option TypeInfo) {fs : List PackageFile}
    (spelled : ∀ f ∈ fs, f.tree.IsSpelled) : ∀ e ∈ allEntries space info fs, e.IsSpelled := by
  intro e he
  obtain ⟨f, hf, he⟩ := List.mem_flatMap.1 he
  obtain ⟨d, hd, he⟩ := List.mem_flatMap.1 he
  exact isSpelled_of_entries _ ((spelled f (by simpa [sortFiles] using hf)).decls d hd) e he

theorem link_typeParams (es : List Entry) (e : Entry) (i : Nat) : (link es e i).typeParams = e.decl.typeParams := by
  unfold link
  dsimp only
  split <;> rfl

end Extract

open Extract

/-- **The names in declarations are identifiers.** -/
theorem isSpelled_of_extract {space : Text} {info : Option TypeInfo} {fs : List PackageFile}
    (spelled : ∀ f ∈ fs, f.tree.IsSpelled) : ∀ d ∈ extract space info fs, d.IsSpelled := by
  intro d hd
  obtain ⟨i, e, he, rfl⟩ := mem_linkEnums.1 hd
  have all := isSpelled_of_allEntries space info spelled
  have here := all e (List.mem_of_getElem? he)
  refine ⟨by rw [link_names]; exact here.names, by rw [link_typeParams]; exact here.typeParams, fun isEnum m hm => ?_⟩
  have given : membersOf (allEntries space info fs) i ≠ [] := by
    intro none
    refine here.other ?_
    rw [← isEnum]
    unfold link
    rw [none]
  rw [link_members, here.plain (canBeEnum_of_membersOf he given), List.nil_append] at hm
  obtain ⟨e', he', t, hp, -⟩ := mem_membersOf.1 hm
  exact (all e' he').constants (t, m) hp

end DocAccessors
