import DocAccessors.Proofs.Table.Order
import DocAccessors.Proofs.Table.Variants

/-!
# One more constant with a known value

A constant that has the value of an earlier one is left out of the table for the constants of an enum.

* `Declaration.withMember d m`: the declaration `d` with one more member at its end;
* `Declaration.Repeats d m`: the constant `m` has the value of an earlier one;
* `Layers.Documents l o m`: the layers `l` give the member `m` the documentation that a table needs;
* `resolveMember_withoutLines`: a member without directive lines is then resolved;
* `memberTable_withRepeated`: one more constant whose value is known leaves the table as it is;
* `Resolver.process_withRepeated`: and so it does with all that the declaration comes to, but for what the attribute for
  fields makes of the new constant.
-/

namespace DocAccessors

/-- A declaration with one more member at its end. -/
def Declaration.withMember (d : Declaration) (m : Member) : Declaration := { d with members := d.members ++ [m] }

variable {d : Declaration} {m : Member}

/-- A member without directive lines does not change what validation finds. -/
theorem Validation.ofDeclaration_withMember (plain : m.directives = []) :
    ofDeclaration (d.withMember m) = ofDeclaration d := by
  unfold ofDeclaration Declaration.withMember
  rw [List.foldl_append, List.foldl_cons, List.foldl_nil, plain, List.foldl_nil]
  rfl

/-- Layers give a member documentation; `optional` says whether there may be none. A default is used only where there is
no known problem with it. -/
structure Layers.Documents (l : Layers) (optional : Bool) (m : Member) : Prop where
  present : optional = true ∨ (l.docs m).isPresent = true
  sound : ∀ e, l.docs m = .default e → defaultProblem? e = none

theorem Layers.Documents.substitute? {l : Layers} {optional : Bool} (h : l.Documents optional m) :
    (DocMode.ofOptional optional).substitute? (normalize m.fragments l.trim) l.fallback = some (l.docs m) := by
  have present := h.present
  unfold Layers.docs at present ⊢
  cases text : normalize m.fragments l.trim with
  | some t => rfl
  | none =>
    cases fallback : l.fallback with
    | some e => rfl
    | none =>
      rw [text, fallback] at present
      rcases present with rfl | present
      · rfl
      · cases present

/-- All members have values, and a constant without directive lines has that of one of them which has a name. -/
structure Declaration.Repeats (d : Declaration) (m : Member) : Prop where
  valued : ∀ x ∈ d.members, x.value ≠ none
  plain : m.directives = []
  known : ∃ x ∈ Resolve.shown d.members, x.value.map Constant.render = m.value.map Constant.render

namespace Resolve

theorem first_of_repeats (h : d.Repeats m) :
    ∃ first, (shown d.members).find? (fun x => valueText x = valueText m) = some first := by
  obtain ⟨x, hx, known⟩ := h.known
  have same : valueText x = valueText m := by rw [valueText, valueText, known]
  exact Option.isSome_iff_exists.1 (List.find?_isSome.2 ⟨x, hx, decide_eq_true same⟩)

theorem value_of_repeats (h : d.Repeats m) : m.value ≠ none := by
  obtain ⟨x, hx, known⟩ := h.known
  intro missing
  rw [missing, Option.map_none, Option.map_eq_none_iff] at known
  exact h.valued x (List.mem_filter.1 hx).1 known

theorem resolveMember_withoutLines {c : Configuration} {k : MemberContext}
    (read : options (Directive.linesOf k.attr.base k.decl.directives) = .ok k.options)
    (resolved : settings c.settings k.attr.base.levels.container k.options = .ok k.base)
    (unnamed : k.attr.base.levels.container.accepts .rename = false) (plain : m.directives = [])
    (documents : (Layers.ofMember c k.attr.base k.decl m).Documents k.attr.optional m) :
    ∃ i, resolveMember k m = .ok i := by
  have none_read : options (m.directives.filter fun x => Attribute.namesOneOf x.attr [k.attr.base.name]) = .ok [] := by
    rw [plain]
    rfl
  have kept : settings k.base k.profile [] = .ok k.base := rfl
  obtain ⟨-, -, container⟩ := options_eq_ok_iff.1 read
  obtain ⟨trim, -, fallback, -⟩ := settings_of_layers resolved kept unnamed
  have layers : (⟨[], k.options, c.defaults.getD {}⟩ : Layers) = Layers.ofMember c k.attr.base k.decl m := by
    rw [← container, Layers.ofMember, plain]
    rfl
  rw [layers] at trim fallback
  have chosen := documents.substitute?
  rw [← trim, ← fallback] at chosen
  exact ⟨_, resolveMember_of none_read kept (docValue_of chosen documents.sound _)⟩

/-- A constant that has the value of an earlier one is warned about, and one without a name is passed over; nothing else
changes. -/
theorem Members.Tracks.step_repeated {k : MemberContext} (variants : k.isVariants = true) {ms : List Member}
    {r : Members} (h : r.Tracks k ms) (valued : m.value ≠ none) {first : Member}
    (found : ms.find? (fun x => valueText x = valueText m) = some first)
    (item : m.isAnonymous = false → ∃ i, resolveMember k m = .ok i) :
    Members.step k r m =
      { r with warnings := r.warnings ++ if m.isAnonymous = true then [] else [repeatedValue m first.name] } := by
  unfold Members.step
  cases blank : m.isAnonymous with
  | true => simp [variants]
  | false =>
    obtain ⟨i, made⟩ := item blank
    obtain ⟨v, value⟩ := Option.ne_none_iff_exists'.1 valued
    have seen : r.seen.lookup v.render = some first.name := by
      rw [h.lookup, ← valueText_eq value, found, Option.map_some]
    simp [variants, made, value, seen]

/-- **One more constant whose value is known leaves the table of its enum as it is.** -/
theorem resolveBinding_withRepeated {base : Settings} {b : Binding} {t : DocTable}
    (made : (resolveBinding base d b).1 = .ok t) (variants : b.attr.base = .documentedVariants) (h : d.Repeats m)
    {first : Member} (found : (shown d.members).find? (fun x => valueText x = valueText m) = some first)
    (item : m.isAnonymous = false → ∀ os s, options b.directives = .ok os →
      settings base b.attr.base.levels.container os = .ok s → ∃ i, resolveMember ⟨d, b.attr, .variant, s, os⟩ m = .ok i) :
    resolveBinding base (d.withMember m) b =
      (.ok { t with decl := d.withMember m },
        (resolveBinding base d b).2 ++ if m.isAnonymous = true then [] else [repeatedValue m first.name]) := by
  obtain ⟨os, s, hos, hs, made⟩ := resolveBinding_ok made
  have level : b.attr.base.levels = { container := .type, member := some .variant } := by
    rw [variants]
    rfl
  rw [resolveBinding_of hos hs, resolveBinding_of hos hs]
  have item := fun named => item named os s hos hs
  rw [level] at made ⊢
  dsimp only at made ⊢
  have clear := (memberTable_ok made).1
  have variants : MemberContext.isVariants ⟨d, b.attr, .variant, s, os⟩ = true := by
    rw [MemberContext.isVariants, variants]
    rfl
  have last := (foldl_variants variants d.members h.valued clear).step_repeated variants (value_of_repeats h) found
    item
  have all : (d.withMember m).members.foldl (Members.step ⟨d.withMember m, b.attr, .variant, s, os⟩) {} =
      Members.step ⟨d, b.attr, .variant, s, os⟩
        (d.members.foldl (Members.step ⟨d, b.attr, .variant, s, os⟩) {}) m :=
    List.foldl_concat ..
  unfold memberTable at made ⊢
  rw [all, last]
  dsimp only at made ⊢
  rw [clear] at made ⊢
  cases made
  rfl

end Resolve

namespace Resolver

open Resolve

/-- The attributes that document a declaration itself know nothing of its members. -/
theorem resolveBinding_withMember {base : Settings} {b : Binding} {t : DocTable}
    (made : (resolveBinding base d b).1 = .ok t) (itself : b.attr.base.levels.member = none) (m : Member) :
    (resolveBinding base (d.withMember m) b).1 = .ok { t with decl := d.withMember m } := by
  obtain ⟨os, s, hos, hs, made⟩ := resolveBinding_ok made
  rw [resolveBinding_of hos hs]
  rw [itself] at made ⊢
  dsimp only at made ⊢
  have names : (d.withMember m).names = d.names := rfl
  have fragments : (d.withMember m).fragments = d.fragments := rfl
  exact itemTable_of_same names fragments rfl os made

/-- **A constant that repeats a value never breaks the table of its enum.** Let a constant without directive lines be
added to an enum, with the value of an earlier one that has a name, and either without a name itself or with the
documentation that the table needs. Then the declaration is still resolved, unless the attribute for fields rejects the
constant; the table has the same items; and there is one more warning, at the end, if the constant has a name. -/
theorem process_withRepeated (c : Configuration) {r : Resolver} (hr : r.base = c.settings) {t : DocTable}
    (ht : t ∈ (r.process d).1.tables) (base : t.base = AttributeBase.documentedVariants.name)
    (repeats : d.Repeats m)
    (documents : m.isAnonymous = false → (Layers.ofMember c .documentedVariants d m).Documents t.optional m) :
    ((r.process (d.withMember m)).1.failure = none ↔
      ∀ b ∈ (Validation.ofDeclaration d).bindings, b.attr.base = .documentedFields →
        ∃ t', (resolveBinding r.base (d.withMember m) b).1 = .ok t') ∧
    ((r.process (d.withMember m)).1.failure = none →
      { t with decl := d.withMember m } ∈ (r.process (d.withMember m)).1.tables ∧
      ∃ first, (shown d.members).find? (fun x => valueText x = valueText m) = some first ∧
        (r.process (d.withMember m)).2.warnings = (r.process d).2.warnings ++
          if m.isAnonymous = true then [] else [repeatedValue m first.name]) := by
  have succeeded := failure_of_mem_tables ht
  obtain ⟨clean, all⟩ := process_succeeds_iff.1 succeeded
  have sorts := Validation.sorts_ofDeclaration clean
  have same := Validation.ofDeclaration_withMember (d := d) repeats.plain
  obtain ⟨b, hb, made⟩ := exists_binding_of_mem_tables ht
  obtain ⟨-, family, optional, -⟩ := attribute_of_resolveBinding made
  have variants : b.attr.base = .documentedVariants := eq_of_name_eq (family.symm.trans base)
  obtain ⟨first, found⟩ := first_of_repeats repeats
  have one_more := resolveBinding_withRepeated made variants repeats found fun named os s hos hs => by
    rw [hr] at hs
    rw [sorts.linesOf_eq hb] at hos
    refine resolveMember_withoutLines hos hs (by rw [variants]; rfl) repeats.plain ?_
    rw [variants, ← optional]
    exact documents named
  refine ⟨?_, fun succeeded' => ⟨?_, first, found, ?_⟩⟩
  · rw [process_succeeds_iff, same]
    refine ⟨fun ⟨_, all'⟩ b' hb' _ => all' b' hb', fun fields => ⟨clean, fun b' hb' => ?_⟩⟩
    obtain ⟨t', made'⟩ := all b' hb'
    cases kind : b'.attr.base with
    | docsConst => exact ⟨_, resolveBinding_withMember made' (by rw [kind]; rfl) m⟩
    | documented => exact ⟨_, resolveBinding_withMember made' (by rw [kind]; rfl) m⟩
    | documentedFields => exact fields b' hb' kind
    | documentedVariants =>
      obtain rfl := sorts.eq_of_base_eq hb' hb (kind.trans variants.symm)
      exact ⟨_, congrArg Prod.fst one_more⟩
  · exact mem_tables_of_made succeeded' (same ▸ hb) (congrArg Prod.fst one_more)
  · rw [(warnings_of_variants succeeded' (same ▸ hb) variants).1, (warnings_of_variants succeeded hb variants).1, same,
      one_more, List.append_assoc _ (resolveBinding r.base d b).2]

end Resolver

/-- A constant with a number as its value. -/
def numbered (name : Text) (value : Int) (fragments : List Text) : Member :=
  { name, placement := .enumValue, pos := 30, fragments, directives := [], value := some (.int value) }

/-- An enum with two documented constants. -/
def signal (lines : List Directive) : Declaration where
  names := [⟨"Signal", 10⟩]
  placement := .enum
  exported := true
  fragments := [" Signal."]
  directives := lines
  members := [numbered "Low" 1 [" Low."], numbered "High" 2 [" High."]]
  file := "signal.go"

/-- The line that asks for a table of constants. -/
def variantsLine : Directive := ⟨"documented_variants", "", {}, 20⟩

/-- A documented constant with the value of an earlier one. -/
def alsoLow : Member := numbered "LOW" 1 [" As low."]

theorem process_withRepeated_signal :
    ∃ t ∈ ((Resolver.ofConfiguration {}).process (signal [variantsLine])).1.tables, t.optional = false ∧
      { t with decl := (signal [variantsLine]).withMember alsoLow } ∈
        ((Resolver.ofConfiguration {}).process ((signal [variantsLine]).withMember alsoLow)).1.tables ∧
      ((Resolver.ofConfiguration {}).process ((signal [variantsLine]).withMember alsoLow)).2.warnings =
        [Resolve.repeatedValue alsoLow "Low"] := by
  have form : ((Resolver.ofConfiguration {}).process (signal [variantsLine])).1.tables.map
      (fun t => (t.base, t.optional)) = [(AttributeBase.documentedVariants.name, false)] := by
    decide +kernel
  obtain ⟨t, ht, kind⟩ := List.mem_map.1 (form ▸ List.mem_singleton_self (AttributeBase.documentedVariants.name, false))
  rw [Prod.mk.injEq] at kind
  have docs : (Layers.ofMember {} .documentedVariants (signal [variantsLine]) alsoLow).docs alsoLow =
      .text "As low." := by
    decide +kernel
  have no_fields : ∀ b ∈ (Validation.ofDeclaration (signal [variantsLine])).bindings,
      b.attr.base ≠ .documentedFields := by
    decide +kernel
  have repeats : (signal [variantsLine]).Repeats alsoLow := ⟨by decide, rfl, by decide +kernel⟩
  have documents : (Layers.ofMember {} .documentedVariants (signal [variantsLine]) alsoLow).Documents t.optional
      alsoLow := ⟨.inr (by rw [docs]; rfl), by rw [docs]; nofun⟩
  obtain ⟨resolved, made⟩ := Resolver.process_withRepeated {} rfl ht kind.1 repeats fun _ => documents
  obtain ⟨same, -⟩ := made (resolved.2 fun b hb fields => absurd fields (no_fields b hb))
  exact ⟨t, ht, kind.2, same, by decide +kernel⟩

/-- A constant with a known value may make a difference after all: one without a name is not warned about; and where the
attribute for fields is enabled as well, it is a field more, here with the name of another one. -/
theorem repeated_value_matters :
    ((∃ t ∈ ((Resolver.ofConfiguration {}).process (signal [variantsLine])).1.tables,
        t.base = AttributeBase.documentedVariants.name ∧ t.optional = false) ∧
      (signal [variantsLine]).Repeats (numbered "_" 1 []) ∧
      ((Resolver.ofConfiguration {}).process ((signal [variantsLine]).withMember (numbered "_" 1 []))).2.warnings =
        ((Resolver.ofConfiguration {}).process (signal [variantsLine])).2.warnings) ∧
    let lines := [variantsLine, ⟨"documented_fields", "rename_all = \"lowercase\"", {}, 25⟩]
    (∃ t ∈ ((Resolver.ofConfiguration {}).process (signal lines)).1.tables,
        t.base = AttributeBase.documentedVariants.name ∧ t.optional = false) ∧
      (signal lines).Repeats alsoLow ∧
      ((Resolver.ofConfiguration {}).process ((signal lines).withMember alsoLow)).1.failure ≠ none := by
  refine ⟨⟨by decide +kernel, ⟨by decide, rfl, by decide +kernel⟩, by decide +kernel⟩, by decide +kernel,
    ⟨by decide, rfl, by decide +kernel⟩, ?_⟩
  exact Option.isSome_iff_ne_none.1 (by decide +kernel)

end DocAccessors
