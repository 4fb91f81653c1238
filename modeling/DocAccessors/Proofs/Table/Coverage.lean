import DocAccessors.Proofs.Declaration.Enum
import DocAccessors.Proofs.Table.Variants

/-!
# Directives that count

No directive of a package is passed over in silence, unless it is about constants of enums that have no name.

* `Resolve.Passed`: the options of a directive are read, and settings are made with them;
* `Resolver.Applied r d x`: that is done with the directive `x` on the way to a table of the declaration `d`;
* `taken_of_members`: when no member has a problem, each has an item or is warned about, unless it is passed over;
* `Resolver.applied_of_declaration`, `Resolver.applied_of_member`: the directives on one declaration;
* `Resolver.directives_applied`: those of a package.
-/

namespace DocAccessors

namespace Resolve

/-- The options of the line `x` are read with those of all `lines`, and settings are made with them at one level. -/
structure Passed (lines : List Directive) (x : Directive) (os : List ReadOption) (s : Settings) (p : Profile)
    (s' : Settings) : Prop where
  line : x ∈ lines
  read : options lines = .ok os
  given : ∀ o ∈ (x.options OptionKind.all).1, o ∈ os
  resolved : settings s p os = .ok s'

theorem passed_of_options {lines : List Directive} {x : Directive} {os : List ReadOption} {s s' : Settings}
    {p : Profile} (line : x ∈ lines) (read : options lines = .ok os) (resolved : settings s p os = .ok s') :
    Passed lines x os s p s' := by
  refine ⟨line, read, fun o ho => ?_, resolved⟩
  obtain ⟨-, -, rfl⟩ := options_eq_ok_iff.1 read
  exact List.mem_flatMap.2 ⟨x, line, ho⟩

theorem Passed.readable {lines : List Directive} {x : Directive} {os : List ReadOption} {s s' : Settings}
    {p : Profile} (h : Passed lines x os s p s') : (x.options OptionKind.all).2 = none :=
  (options_eq_ok_iff.1 h.read).1 x h.line

/-! ## Members -/

theorem Members.Step.subset {k : MemberContext} {r r' : Members} {m : Member} (next : Members.Step k r m r') :
    r.items ⊆ r'.items ∧ r.warnings ⊆ r'.warnings := by
  cases next with
  | again => exact ⟨List.Subset.refl _, List.subset_append_left _ _⟩
  | plain => exact ⟨List.subset_append_left _ _, List.Subset.refl _⟩
  | fresh => exact ⟨List.subset_append_left _ _, List.Subset.refl _⟩
  | _ => exact ⟨List.Subset.refl _, List.Subset.refl _⟩

/-- Each member has an item or is warned about, unless it is passed over. -/
theorem taken_of_members {k : MemberContext} (ms : List Member) :
    (ms.foldl (Members.step k) {}).problems = none → ∀ m ∈ ms, (k.isVariants && m.isAnonymous) = false →
      ∃ i, resolveMember k m = .ok i ∧ (i ∈ (ms.foldl (Members.step k) {}).items ∨
        ∃ first, repeatedValue m first ∈ (ms.foldl (Members.step k) {}).warnings) := by
  refine Members.foldl_steps (P := fun ms r => r.problems = none → ∀ m ∈ ms,
    (k.isVariants && m.isAnonymous) = false → ∃ i, resolveMember k m = .ok i ∧ (i ∈ r.items ∨
      ∃ first, repeatedValue m first ∈ r.warnings)) (by simp) ?_ ms
  intro ms m' r r' next ih clear m hm considered
  rcases List.mem_append.1 hm with before | last
  · obtain ⟨i, made, kept⟩ := ih (next.clear clear) m before considered
    obtain ⟨items, warnings⟩ := next.subset
    exact ⟨i, made, kept.imp (fun h => items h) fun ⟨first, h⟩ => ⟨first, warnings h⟩⟩
  · rw [List.mem_singleton.1 last] at considered ⊢
    cases next with
    | blank variants blank => simp [variants, blank] at considered
    | failed => simp [Failure.combine_eq_none] at clear
    | again _ made => exact ⟨_, made, .inr ⟨_, List.mem_append_right _ (List.mem_singleton_self _)⟩⟩
    | plain _ made => exact ⟨_, made, .inl (List.mem_append_right _ (List.mem_singleton_self _))⟩
    | fresh _ made => exact ⟨_, made, .inl (List.mem_append_right _ (List.mem_singleton_self _))⟩

end Resolve

namespace Resolver

open Resolve

/-- The options of a directive are applied where a table of the declaration is made: with those of the declaration, or
with those of a member that has an item in the table, or has a value of which the table has an item already. -/
inductive Applied (r : Resolver) (d : Declaration) (x : Directive) : Prop
  | onDeclaration {b : Binding} {t : DocTable} {os : List ReadOption} {s : Settings}
      (hb : b ∈ (Validation.ofDeclaration d).bindings) (made : (resolveBinding r.base d b).1 = .ok t)
      (ht : t ∈ (r.process d).1.tables) (passed : Passed b.directives x os r.base b.attr.base.levels.container s)
  | onMember {b : Binding} {t : DocTable} {os os' : List ReadOption} {s s' : Settings} {p : Profile} {m : Member}
      {i : TableItem} (hb : b ∈ (Validation.ofDeclaration d).bindings)
      (made : (resolveBinding r.base d b).1 = .ok t) (ht : t ∈ (r.process d).1.tables)
      (container : options b.directives = .ok os ∧ settings r.base b.attr.base.levels.container os = .ok s)
      (level : b.attr.base.levels.member = some p) (hm : m ∈ d.members)
      (passed : Passed (m.directives.filter fun y => Attribute.namesOneOf y.attr [b.attr.base.name]) x os' s p s')
      (item : resolveMember ⟨d, b.attr, p, s, os⟩ m = .ok i)
      (kept : i ∈ t.items ∨ ∃ first, repeatedValue m first ∈ (resolveBinding r.base d b).2) : Applied r d x

theorem Applied.readable {r : Resolver} {d : Declaration} {x : Directive} (h : Applied r d x) :
    (x.options OptionKind.all).2 = none := by
  cases h with
  | onDeclaration _ _ _ passed => exact passed.readable
  | onMember _ _ _ _ _ _ passed => exact passed.readable

variable {r : Resolver} {d : Declaration} (succeeded : (r.process d).1.failure = none)
include succeeded

theorem applied_of_declaration {x : Directive} (hx : x ∈ d.directives) {a : Attribute}
    (named : x.attribute? = some a) (stands : Validation.Stands d a) : Applied r d x := by
  obtain ⟨clean, made⟩ := process_succeeds_iff.1 succeeded
  have sorts := Validation.sorts_ofDeclaration clean
  obtain ⟨b, hb, rfl⟩ := sorts.complete x hx a named stands
  obtain ⟨t, ht⟩ := made b hb
  obtain ⟨os, s, hos, hs, -⟩ := resolveBinding_ok ht
  refine .onDeclaration hb ht (mem_tables_of_made succeeded hb ht) (passed_of_options ?_ hos hs)
  exact (sorts.mem_directives_iff hb).2 ⟨hx, named⟩

omit succeeded in
theorem exists_level {a : Attribute} {p : Placement} (member : a.isMemberOn p = true) :
    ∃ level, a.base.levels.member = some level := by
  obtain ⟨f, optional⟩ := a
  cases f with
  | docsConst => cases member
  | documented => cases member
  | documentedFields => exact ⟨_, rfl⟩
  | documentedVariants => exact ⟨_, rfl⟩

omit succeeded in
theorem placement_of_variants {a : Attribute} (variants : a.base = .documentedVariants) {p : Placement}
    (member : a.isMemberOn p = true) : p = .enumValue := by
  rw [Attribute.isMemberOn, Attribute.memberOn, variants] at member
  simpa using member

/-- A directive on a member is applied, unless it is about a constant that is passed over. -/
theorem applied_of_member {m : Member} (hm : m ∈ d.members) {x : Directive} (hx : x ∈ m.directives) {a : Attribute}
    (named : x.attribute? = some a) (member : a.isMemberOn m.placement = true)
    (considered : a.base = .documentedVariants → m.isAnonymous = false) : Applied r d x := by
  obtain ⟨clean, made⟩ := process_succeeds_iff.1 succeeded
  rcases (Validation.isClean_ofDeclaration_iff.1 clean).2 m hm x hx with suits | ⟨-, foreign⟩
  · obtain ⟨c, named', -, required, b, hb, base⟩ := suits
    rw [named] at named'
    obtain rfl := Option.some.inj named'
    obtain ⟨t, ht⟩ := made b hb
    obtain ⟨os, s, hos, hs, table⟩ := resolveBinding_ok ht
    obtain ⟨p, level⟩ := exists_level member
    rw [← base] at level considered
    have warnings := congrArg Prod.snd (resolveBinding_of (d := d) hos hs)
    rw [level] at table warnings
    obtain ⟨clear, index, -, items⟩ := memberTable_ok table
    have taken : ((MemberContext.mk d b.attr p s os).isVariants && m.isAnonymous) = false := by
      rw [Bool.and_eq_false_iff, MemberContext.isVariants, beq_eq_false_iff_ne]
      by_cases variants : b.attr.base = .documentedVariants
      · exact .inr (considered variants)
      · exact .inl variants
    obtain ⟨i, item, kept⟩ := taken_of_members d.members clear m hm taken
    obtain ⟨os', s', v, hos', hs', -, -⟩ := resolveMember_ok item
    have line : x ∈ m.directives.filter fun y => Attribute.namesOneOf y.attr [b.attr.base.name] := by
      refine List.mem_filter.2 ⟨hx, Attribute.namesOneOf_iff.2 ?_⟩
      rw [← Directive.attribute?, named, base, ← required]
    refine .onMember hb ht (mem_tables_of_made succeeded hb ht) ⟨hos, hs⟩ level hm (passed_of_options line hos' hs')
      item ?_
    rw [warnings, items]
    exact kept
  · rw [foreign a named] at member
    cases member

end Resolver

/-! ## Packages -/

namespace Resolver

open Resolve

/-- **No directive of a package is passed over in silence.** When no declaration is rejected, the options of each
directive are read without a problem and are applied, as long as a directive for the constants of an enum that stands
on a constant stands on one with a name. -/
theorem directives_applied {space : Text} {info : Option TypeInfo} {fs : List PackageFile} {r : Resolver}
    (succeeds : ∀ d ∈ extract space info fs, (r.process d).1.failure = none) {x : Directive}
    (attached : ∃ d ∈ extract space info fs, x ∈ d.directives ∨ ∃ m ∈ d.members, x ∈ m.directives)
    (shown : x.family? = some .documentedVariants →
      (∃ d ∈ extract space info fs, ∃ m ∈ d.members, m.placement = .enumValue ∧ x ∈ m.directives) →
      ∃ d ∈ extract space info fs, ∃ m ∈ d.members, m.placement = .enumValue ∧ x ∈ m.directives ∧
        m.isAnonymous = false) :
    (x.options OptionKind.all).2 = none ∧ ∃ d ∈ extract space info fs, Applied r d x := by
  suffices applied : ∃ d ∈ extract space info fs, Applied r d x by
    obtain ⟨d, hd, h⟩ := applied
    exact ⟨h.readable, d, hd, h⟩
  have onMember : ∀ d ∈ extract space info fs, ∀ m ∈ d.members, x ∈ m.directives → ∀ a, x.attribute? = some a →
      a.isMemberOn m.placement = true → ∃ d ∈ extract space info fs, Applied r d x := by
    intro d hd m hm hx a named member
    by_cases passed : a.base = .documentedVariants ∧ m.isAnonymous = true
    · have constant := placement_of_variants passed.1 member
      -- the constant is passed over, but another one with a name carries the directive as well
      obtain ⟨d', hd', m', hm', placement, hx', isNamed⟩ :=
        shown (Directive.family?_eq_some_iff.2 ⟨a, named, passed.1⟩) ⟨d, hd, m, hm, constant, hx⟩
      rw [constant, ← placement] at member
      exact ⟨d', hd', applied_of_member (succeeds d' hd') hm' hx' named member fun _ => isNamed⟩
    · refine ⟨d, hd, applied_of_member (succeeds d hd) hm hx named member fun variants => ?_⟩
      rw [← Bool.not_eq_true]
      exact fun blank => passed ⟨variants, blank⟩
  have known : ∀ d ∈ extract space info fs, x ∈ d.directives → ∃ a, x.attribute? = some a ∧
      (Validation.Deferred d a ∨ Validation.Stands d a) := fun d hd hx =>
    (Validation.isClean_ofDeclaration_iff.1 (process_succeeds_iff.1 (succeeds d hd)).1).1.known x hx
  obtain ⟨d, hd, hx | ⟨m, hm, hx⟩⟩ := attached
  · obtain ⟨a, named, deferred | stands⟩ := known d hd hx
    · obtain ⟨d', hd', m, hm, placement, same⟩ := exists_enum_of_constant hd deferred.2.1
      exact onMember d' hd' m hm (same ▸ hx) a named (placement ▸ deferred.2.2)
    · exact ⟨d, hd, applied_of_declaration (succeeds d hd) hx named stands⟩
  · have clean := (process_succeeds_iff.1 (succeeds d hd)).1
    rcases (Validation.isClean_ofDeclaration_iff.1 clean).2 m hm x hx with suits | ⟨constant, foreign⟩
    · obtain ⟨a, named, member, -⟩ := suits
      exact onMember d hd m hm hx a named member
    · -- the directive is left to the declaration of the constant, where it stands by right
      obtain ⟨d', hd', same⟩ := exists_constant_of_member hd hm constant
      have hx' : x ∈ d'.directives := same ▸ hx
      obtain ⟨a, named, deferred | stands⟩ := known d' hd' hx'
      · have other := foreign a named
        rw [constant, deferred.2.2] at other
        cases other
      · exact ⟨d', hd', applied_of_declaration (succeeds d' hd') hx' named stands⟩

end Resolver

/-- A package with an enum, and a directive on two of its constants of which one has no name. -/
def sharedDirective : Package :=
  (({} : Package).takeFile "a.go" "package p

//documented:documented_variants
type K int

// A.
//documented:documented_variants trim = false
const A, _ K = 1, 2
" false).1

theorem directives_applied_shared :
    ∃ d ∈ sharedDirective.declarations {}, ∃ x ∈ d.directives, x.args = text "trim = false" ∧
      (x.options OptionKind.all).2 = none ∧
      ∃ d' ∈ sharedDirective.declarations {}, Resolver.Applied { base := {} } d' x := by
  have resolved : ∀ d ∈ sharedDirective.declarations {}, (({ base := {} } : Resolver).process d).1.failure.isNone := by
    decide +kernel
  have found : ∃ d ∈ sharedDirective.declarations {}, ∃ x ∈ d.directives, x.args = text "trim = false" ∧
      ∃ d' ∈ sharedDirective.declarations {}, ∃ m ∈ d'.members, m.placement = .enumValue ∧ x ∈ m.directives ∧
        m.isAnonymous = false := by
    decide +kernel
  obtain ⟨d, hd, x, hx, args, named⟩ := found
  refine ⟨d, hd, x, hx, args, Resolver.directives_applied (fun d hd => ?_) ⟨d, hd, .inl hx⟩ fun _ _ => named⟩
  exact Option.isNone_iff_eq_none.1 (resolved d hd)

/-- A package with an enum, and a directive that cannot be read on a constant without a name. -/
def blankDirective : Package :=
  (({} : Package).takeFile "a.go" "package p

// K.
//documented:documented_variants
type K int

const (
	// A.
	A K = iota
	//documented:documented_variants bogus ===
	_
)
" false).1

/-- The directive of a constant without a name is passed over, even if it cannot be read. -/
theorem directive_passed_over :
    (∀ d ∈ blankDirective.declarations {}, (({ base := {} } : Resolver).process d).1.failure = none) ∧
    ∃ d ∈ blankDirective.declarations {}, ∃ x ∈ d.directives, (x.options OptionKind.all).2 ≠ none ∧
      ∀ d' ∈ blankDirective.declarations {}, ¬ Resolver.Applied { base := {} } d' x := by
  have resolved : ∀ d ∈ blankDirective.declarations {}, (({ base := {} } : Resolver).process d).1.failure.isNone := by
    decide +kernel
  have found : ∃ d ∈ blankDirective.declarations {}, ∃ x ∈ d.directives, (x.options OptionKind.all).2.isSome := by
    decide +kernel
  obtain ⟨d, hd, x, hx, unread⟩ := found
  have unreadable : (x.options OptionKind.all).2 ≠ none := Option.isSome_iff_ne_none.1 unread
  refine ⟨fun d hd => Option.isNone_iff_eq_none.1 (resolved d hd), d, hd, x, hx, unreadable, fun d' _ applied => ?_⟩
  exact unreadable applied.readable

end DocAccessors
