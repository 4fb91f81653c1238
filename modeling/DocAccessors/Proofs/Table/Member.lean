import DocAccessors.Table.Resolve
import Mathlib.Data.List.Induction

/-!
# What one member changes

The members of a declaration are taken up one after the other. `Members.Step c r m r'` lists all that can happen to
the members `r` resolved so far when the member `m` is taken up; `Members.step_spec` says that nothing else does.
An invariant of the members follows from its five cases by `Members.foldl_induction`, and one that speaks of the members
taken up so far by `Members.foldl_steps`.
-/

namespace DocAccessors.Resolve

namespace Members

/-- What a member can change: nothing, the problems, the warnings, or the items. -/
inductive Step (c : MemberContext) (r : Members) (m : Member) : Members → Prop
  /-- A constant without a name. -/
  | blank (hv : c.isVariants = true) (hm : m.isAnonymous = true) : Step c r m r
  | failed {f : Failure} (hb : (c.isVariants && m.isAnonymous) = false) (hf : resolveMember c m = .error f) :
      Step c r m { r with problems := Failure.combine r.problems (some f) }
  /-- A constant whose value an earlier one has. -/
  | again {i : TableItem} {v : Constant} {first : Text} (hb : (c.isVariants && m.isAnonymous) = false)
      (hi : resolveMember c m = .ok i) (hv : c.isVariants = true) (hm : m.value = some v)
      (seen : r.seen.lookup v.render = some first) :
      Step c r m { r with warnings := r.warnings ++ [repeatedValue m first] }
  | plain {i : TableItem} (hb : (c.isVariants && m.isAnonymous) = false) (hi : resolveMember c m = .ok i)
      (hv : c.isVariants = true → m.value = none) : Step c r m (r.push m i)
  /-- A constant with a value that no earlier one has. -/
  | fresh {i : TableItem} {v : Constant} (hb : (c.isVariants && m.isAnonymous) = false)
      (hi : resolveMember c m = .ok i) (hv : c.isVariants = true) (hm : m.value = some v)
      (seen : r.seen.lookup v.render = none) :
      Step c r m ({ r with seen := r.seen ++ [(v.render, m.name)] }.push m i)

theorem step_spec (c : MemberContext) (r : Members) (m : Member) : Step c r m (step c r m) := by
  unfold step
  cases hb : c.isVariants && m.isAnonymous with
  | true =>
    rw [Bool.and_eq_true] at hb
    rw [if_pos rfl]
    exact .blank hb.1 hb.2
  | false =>
    rw [if_neg Bool.false_ne_true]
    cases hi : resolveMember c m with
    | error f => exact .failed hb hi
    | ok i =>
      dsimp only
      cases hv : c.isVariants with
      | false => exact .plain hb hi fun h => absurd h (by simp [hv])
      | true =>
        rw [if_pos rfl]
        cases hm : m.value with
        | none => exact .plain hb hi fun _ => hm
        | some v =>
          dsimp only
          cases seen : r.seen.lookup v.render with
          | none => exact .fresh hb hi hv hm seen
          | some first => exact .again hb hi hv hm seen

/-- What holds at the start and survives every member holds in the end. -/
theorem foldl_induction {c : MemberContext} {P : Members → Prop} (ms : List Member) (start : P {})
    (next : ∀ r m r', m ∈ ms → Step c r m r' → P r → P r') : P (ms.foldl (step c) {}) := by
  suffices h : ∀ r, P r → P (ms.foldl (step c) r) from h {} start
  induction ms with
  | nil => exact fun r hr => hr
  | cons m ms ih =>
    intro r hr
    rw [List.foldl_cons]
    refine ih (fun r m' r' hm' => next r m' r' (by simp [hm'])) _ ?_
    exact next r m _ (by simp) (step_spec c r m) hr

/-- What holds of no members at the start, and of one member more after each, holds of all members in the end. -/
theorem foldl_steps {c : MemberContext} {P : List Member → Members → Prop} (start : P [] {})
    (next : ∀ ms m r r', Step c r m r' → P ms r → P (ms ++ [m]) r') (ms : List Member) :
    P ms (ms.foldl (step c) {}) := by
  induction ms using List.reverseRecOn with
  | nil => exact start
  | append_singleton ms m ih =>
    rw [List.foldl_append, List.foldl_cons, List.foldl_nil]
    exact next ms m _ _ (step_spec c _ m) ih

end Members

end DocAccessors.Resolve
