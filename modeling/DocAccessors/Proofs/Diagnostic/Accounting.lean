import DocAccessors.Proofs.Diagnostic.Bag
import Mathlib.Algebra.GroupWithZero.Nat

/-!
# The accounts of a bag

A bag turns away what it has no room for, but it counts it. Whatever is done to a bag, its limit only grows, only errors
go beyond it, and no diagnostic is lost without being counted.

* `Bag.Operation`: what can be done to a bag, `Bag.run`: one operation after the other;
* `Bag.add_of_isError`, `Bag.add_of_minor`: what one offer does;
* `Bag.WithinLimit`: the limit is one that a bag can have, and what is no error fits it. Every operation keeps this
  (`WithinLimit.apply`), so every run does (`WithinLimit.run`);
* `Bag.size_run`: the balance of a run;
* `Bag.accounting`: all of this for a bag that starts empty.
-/

namespace DocAccessors.Bag

/-! ## Operations -/

/-- What can be done to a bag. -/
inductive Operation where
  | add (d : Diagnostic)
  | addFailure (f : Option Failure)
  /-- The diagnostics of another bag are put after its own. -/
  | merge (other : Bag)
  | sort (files : Option FileSet)
  | dedup

namespace Operation

def apply (b : Bag) : Operation → Bag
  | .add d => b.add d
  | .addFailure f => b.addFailure f
  | .merge other => b.merge other
  | .sort files => b.sort files
  | .dedup => b.dedup

/-- The number of diagnostics that an operation offers. A bag that is merged offers those that it holds and those that
it has omitted. -/
def offered : Operation → Nat
  | .add _ => 1
  | .addFailure f => (f.elim [] ofFailure).length
  | .merge other => other.size + other.omitted
  | .sort _ | .dedup => 0

/-- The number of repetitions that an operation removes from a bag. -/
def removed (b : Bag) : Operation → Nat
  | .dedup => b.size - b.dedup.size
  | _ => 0

end Operation

/-- The bag after operations, one after the other. -/
def run (b : Bag) (os : List Operation) : Bag := os.foldl Operation.apply b

/-- The number of repetitions that a run of operations removes. -/
def removedBy (b : Bag) : List Operation → Nat
  | [] => 0
  | o :: os => o.removed b + (o.apply b).removedBy os

/-- The diagnostics of a bag that are no errors. -/
def minor (b : Bag) : List Diagnostic := b.items.filter fun d => !d.isError

/-! ## One offer -/

variable {b : Bag}

theorem add_of_accepts {d : Diagnostic} (h : b.accepts d = true) : b.add d = { b with items := b.items ++ [d] } := by
  rw [add, if_pos h]

theorem add_of_not_accepts {d : Diagnostic} (h : b.accepts d = false) :
    b.add d = { b with omitted := b.omitted + 1 } := by
  rw [add, if_neg (by simp [h])]

theorem accepts_of_isError (b : Bag) {d : Diagnostic} (error : d.isError = true) : b.accepts d = true := by
  simp [accepts, error]

theorem accepts_of_minor (b : Bag) {d : Diagnostic} (minor : d.isError = false) :
    b.accepts d = decide (b.size < b.cap) := by
  rw [accepts, minor, Bool.false_or]
  rfl

/-- **An error is always kept.** -/
theorem add_of_isError (b : Bag) {d : Diagnostic} (error : d.isError = true) :
    b.add d = { b with items := b.items ++ [d] } :=
  add_of_accepts (b.accepts_of_isError error)

/-- **What is no error is turned away exactly when the bag is full**, and then it is only counted. -/
theorem add_of_minor (b : Bag) {d : Diagnostic} (minor : d.isError = false) :
    b.add d = if b.cap ≤ b.size then { b with omitted := b.omitted + 1 } else { b with items := b.items ++ [d] } := by
  split
  · next full => exact add_of_not_accepts (by simpa [accepts_of_minor b minor] using full)
  · next room => exact add_of_accepts (by simpa [accepts_of_minor b minor] using room)

/-- What holds of a bag and of the bag after each offer holds after several offers. -/
theorem addAll_induction {P : Bag → Prop} (next : ∀ b d, P b → P (b.add d)) (start : P b) (ds : List Diagnostic) :
    P (b.addAll ds) := by
  rw [addAll_eq_foldl_add]
  induction ds generalizing b with
  | nil => exact start
  | cons d ds ih => exact ih (next b d start)

theorem addAll_cons (b : Bag) (d : Diagnostic) (ds : List Diagnostic) : b.addAll (d :: ds) = (b.add d).addAll ds := by
  rw [addAll_eq_foldl_add, addAll_eq_foldl_add, List.foldl_cons]

@[simp] theorem addAll_nil (b : Bag) : b.addAll [] = b := by rw [addAll_eq_foldl_add, List.foldl_nil]

@[simp] theorem cap_addAll (b : Bag) (ds : List Diagnostic) : (b.addAll ds).cap = b.cap := rfl

theorem addFailure_eq (b : Bag) (f : Option Failure) : b.addFailure f = b.addAll (f.elim [] ofFailure) := by
  cases f with
  | none => exact (addAll_nil b).symm
  | some f => rfl

theorem size_add (b : Bag) (d : Diagnostic) : (b.add d).size + (b.add d).omitted = b.size + b.omitted + 1 := by
  cases h : b.accepts d with
  | true =>
    rw [add_of_accepts h]
    simp only [size, List.length_append, List.length_singleton]
    omega
  | false =>
    rw [add_of_not_accepts h]
    exact (Nat.add_assoc ..).symm

/-- Every offer is kept or counted. -/
theorem size_addAll (b : Bag) (ds : List Diagnostic) :
    (b.addAll ds).size + (b.addAll ds).omitted = b.size + b.omitted + ds.length := by
  induction ds generalizing b with
  | nil => simp
  | cons d ds ih =>
    rw [addAll_cons, ih, size_add, List.length_cons]
    omega

/-! ## Merging -/

/-- The limit of a bag after another one was merged into it. -/
def mergedCap (b other : Bag) : Nat :=
  if b.cap < b.size + other.size then min (b.size + other.size) limit else b.cap

/-- Merging raises the limit, offers all that the other bag holds, and counts all that it has omitted. -/
theorem merge_eq (b other : Bag) :
    b.merge other =
      { ({ b with cap := b.mergedCap other } : Bag).addAll other.items with
        omitted := (({ b with cap := b.mergedCap other } : Bag).addAll other.items).omitted + other.omitted } := by
  have grown : (if b.cap < b.size + other.size then { b with cap := min (b.size + other.size) limit } else b) =
      { b with cap := b.mergedCap other } := by
    unfold mergedCap
    split <;> rfl
  rw [← grown]
  rfl

/-- Merging keeps every error, however full the bag is. -/
theorem errors_merge (b other : Bag) : (b.merge other).errors = b.errors ++ other.errors := by
  rw [merge_eq]
  exact errors_addAll _ other.items

theorem cap_merge (b other : Bag) : (b.merge other).cap = b.mergedCap other := by
  rw [merge_eq]
  rfl

theorem size_merge (b other : Bag) :
    (b.merge other).size + (b.merge other).omitted = b.size + b.omitted + (other.size + other.omitted) := by
  have filled := size_addAll { b with cap := b.mergedCap other } other.items
  rw [merge_eq]
  simp only [size] at filled ⊢
  omega

/-! ## Runs -/

/-- The limit is one that a bag can have, and what is no error fits it. -/
structure WithinLimit (b : Bag) : Prop where
  cap : b.cap ≤ limit
  minor : b.minor.length ≤ b.cap

theorem withinLimit_empty (max : Int) : (empty max).WithinLimit := ⟨Nat.min_le_right _ _, Nat.zero_le _⟩

namespace WithinLimit

/-- A bag with the same limit or a higher one, and no more that is no error. -/
theorem of_le {b' : Bag} (h : b.WithinLimit) (bound : b'.cap ≤ limit) (grown : b.cap ≤ b'.cap)
    (fewer : b'.minor.length ≤ b.minor.length) : b'.WithinLimit :=
  ⟨bound, Nat.le_trans fewer (Nat.le_trans h.minor grown)⟩

theorem add (h : b.WithinLimit) (d : Diagnostic) : (b.add d).WithinLimit := by
  cases error : d.isError with
  | true =>
    rw [b.add_of_isError error]
    exact h.of_le h.cap (Nat.le_refl _) (by simp [Bag.minor, error])
  | false =>
    rw [b.add_of_minor error]
    split
    · exact ⟨h.cap, h.minor⟩
    · next room =>
      refine ⟨h.cap, ?_⟩
      have all : b.minor.length ≤ b.size := List.length_filter_le _ _
      simp only [Bag.minor, List.filter_append, List.length_append] at all ⊢
      have one : ([d].filter fun d => !d.isError).length ≤ 1 := List.length_filter_le _ _
      omega

theorem addAll (h : b.WithinLimit) (ds : List Diagnostic) : (b.addAll ds).WithinLimit :=
  addAll_induction (fun _ d h => h.add d) h ds

theorem cap_le_mergedCap (h : b.WithinLimit) (other : Bag) : b.cap ≤ b.mergedCap other := by
  have bound := h.cap
  unfold mergedCap
  split <;> omega

theorem mergedCap_le (h : b.WithinLimit) (other : Bag) : b.mergedCap other ≤ limit := by
  have bound := h.cap
  unfold mergedCap
  split <;> omega

theorem merge (h : b.WithinLimit) (other : Bag) : (b.merge other).WithinLimit := by
  have grown : ({ b with cap := b.mergedCap other } : Bag).WithinLimit :=
    h.of_le (h.mergedCap_le other) (h.cap_le_mergedCap other) (Nat.le_refl _)
  obtain ⟨cap, minor⟩ := grown.addAll other.items
  rw [merge_eq]
  exact ⟨cap, minor⟩

theorem sort (h : b.WithinLimit) (files : Option FileSet) : (b.sort files).WithinLimit :=
  h.of_le h.cap (Nat.le_refl _) (Nat.le_of_eq ((items_sort_perm files b).filter _).length_eq)

theorem dedup (h : b.WithinLimit) : b.dedup.WithinLimit :=
  h.of_le h.cap (Nat.le_refl _) ((items_dedup_sublist b).filter _).length_le

/-- **Every operation keeps a bag within its limit.** -/
theorem apply (h : b.WithinLimit) (o : Operation) : (o.apply b).WithinLimit := by
  cases o with
  | add d => exact h.add d
  | addFailure f =>
    rw [Operation.apply, addFailure_eq]
    exact h.addAll _
  | merge other => exact h.merge other
  | sort files => exact h.sort files
  | dedup => exact h.dedup

theorem cap_le_apply (h : b.WithinLimit) (o : Operation) : b.cap ≤ (o.apply b).cap := by
  cases o with
  | add d =>
    rw [Operation.apply, Bag.add]
    split <;> exact Nat.le_refl _
  | addFailure f => exact Nat.le_of_eq (by rw [Operation.apply, addFailure_eq, cap_addAll])
  | merge other =>
    rw [Operation.apply, cap_merge]
    exact h.cap_le_mergedCap other
  | sort | dedup => exact Nat.le_refl _

theorem run (h : b.WithinLimit) (os : List Operation) : (b.run os).WithinLimit := by
  induction os generalizing b with
  | nil => exact h
  | cons o os ih => exact ih (h.apply o)

theorem cap_le_run (h : b.WithinLimit) (os : List Operation) : b.cap ≤ (b.run os).cap := by
  induction os generalizing b with
  | nil => exact Nat.le_refl _
  | cons o os ih => exact Nat.le_trans (h.cap_le_apply o) (ih (h.apply o))

end WithinLimit

theorem size_apply (b : Bag) (o : Operation) :
    (o.apply b).size + (o.apply b).omitted + o.removed b = b.size + b.omitted + o.offered := by
  cases o with
  | add d => exact size_add b d
  | addFailure f =>
    rw [Operation.apply, addFailure_eq]
    exact size_addAll b _
  | merge other => exact size_merge b other
  | sort files =>
    have same : (b.sort files).size = b.size := (items_sort_perm files b).length_eq
    simp only [Operation.apply, Operation.removed, Operation.offered, same]
    rfl
  | dedup =>
    have fewer : b.dedup.size ≤ b.size := (items_dedup_sublist b).length_le
    simp only [Operation.apply, Operation.removed, Operation.offered]
    change b.dedup.size + b.omitted + _ = _
    omega

theorem size_run (b : Bag) (os : List Operation) :
    (b.run os).size + (b.run os).omitted + b.removedBy os = b.size + b.omitted + (os.map Operation.offered).sum := by
  induction os generalizing b with
  | nil => rfl
  | cons o os ih =>
    have one := size_apply b o
    have rest := ih (o.apply b)
    simp only [run, List.foldl_cons, removedBy, List.map_cons, List.sum_cons] at rest ⊢
    omega

/-- **The accounts of a bag.** However a bag has come about: its limit starts as the given number moved into the range
from 0 to 65535, stays in that range and never falls; no more than that of what it holds is no error; an error is always
kept, and anything else is turned away exactly when the bag is full, which changes nothing but the count of what is
omitted. What it holds and what it has omitted are all that was ever offered, less the repetitions removed. -/
theorem accounting (max : Int) (os : List Operation) :
    let b := (empty max).run os
    ((empty max).cap : Int) = min (Max.max 0 max) 65535 ∧
    (b.cap ≤ 65535 ∧ ∀ later, b.cap ≤ (b.run later).cap) ∧
    b.minor.length ≤ b.cap ∧
    (∀ d, d.isError = true → b.accepts d = true ∧ b.add d = { b with items := b.items ++ [d] }) ∧
    (∀ d, d.isError = false → (b.accepts d = false ↔ b.cap ≤ b.size) ∧
      b.add d = if b.cap ≤ b.size then { b with omitted := b.omitted + 1 } else { b with items := b.items ++ [d] }) ∧
    b.size + b.omitted + (empty max).removedBy os = (os.map Operation.offered).sum := by
  intro b
  have within : b.WithinLimit := (withinLimit_empty max).run os
  refine ⟨?_, ⟨within.cap, within.cap_le_run⟩, within.minor, fun d error => ?_, fun d minor => ?_, ?_⟩
  · simp only [empty, limit]
    omega
  · exact ⟨b.accepts_of_isError error, b.add_of_isError error⟩
  · refine ⟨?_, b.add_of_minor minor⟩
    rw [b.accepts_of_minor minor, decide_eq_false_iff_not, Nat.not_lt]
  · rw [size_run]
    exact Nat.zero_add _

end DocAccessors.Bag
