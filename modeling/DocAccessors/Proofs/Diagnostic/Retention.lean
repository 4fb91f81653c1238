import DocAccessors.Proofs.Diagnostic.Accounting
import Mathlib.Data.List.Induction
import Mathlib.Tactic.Push

/-!
# How long a bag holds errors

Whether a bag holds an error decides whether files are written. A limit never stands in the way of an error, but dropping
repetitions does not look at severities: an error is dropped behind a warning that says the same.

* `Bag.Masked`: every error of the bag stands behind a diagnostic that says the same and is no error;
* `hasErrors_dedup_iff`: dropping repetitions leaves an error unless the bag is masked;
* `hasErrors_apply_iff`: what one operation does to the errors of a bag;
* `hasErrors_run_iff`: a bag holds an error exactly if one was offered to it since it was last masked when repetitions
  were dropped.
-/

namespace DocAccessors.Bag

def Operation.diagnostics : Operation → List Diagnostic
  | .add d => [d]
  | .addFailure f => f.elim [] ofFailure
  | .merge other => other.items
  | .sort _ | .dedup => []

def Operation.OffersError (o : Operation) : Prop := ∃ d ∈ o.diagnostics, d.isError = true

/-- Every error of the bag repeats an earlier diagnostic that is none. -/
def Masked (b : Bag) : Prop :=
  ∀ before d after, b.items = before ++ d :: after → d.isError = true →
    ∃ e ∈ before, e.isError = false ∧ e.code = d.code ∧ e.span.pos = d.span.pos ∧ e.message = d.message

/-! ## One operation -/

variable {b : Bag}

/-- A bag that has been offered diagnostics holds an error if one of them is an error, or if it held one before. -/
theorem hasErrors_of_errors {b' : Bag} {ds : List Diagnostic}
    (offered : b'.errors = b.errors ++ ds.filter Diagnostic.isError) :
    b'.hasErrors = true ↔ (∃ d ∈ ds, d.isError = true) ∨ b.hasErrors = true := by
  rw [hasErrors_iff_errors, hasErrors_iff_errors, offered, ne_eq, List.append_eq_nil_iff, not_and_or,
    List.filter_eq_nil_iff, or_comm]
  simp

/-- **Dropping repetitions leaves an error unless the bag is masked.** -/
theorem hasErrors_dedup_iff : b.dedup.hasErrors = true ↔ ¬ b.Masked := by
  rw [hasErrors_iff]
  constructor
  · rintro ⟨d, hd, error⟩ masked
    -- what is left is the first one that says so
    obtain ⟨-, before, after, items, first⟩ := List.find?_eq_some_iff_append.1 (mem_dedup_iff.1 hd)
    obtain ⟨e, he, -, alike⟩ := masked before d after items error
    exact absurd (said_eq_iff.2 alike) (by simpa using first e he)
  · intro unmasked
    unfold Masked at unmasked
    push Not at unmasked
    obtain ⟨before, d, after, items, error, clear⟩ := unmasked
    obtain ⟨y, first⟩ : ∃ y, b.items.find? (said · = said d) = some y :=
      Option.isSome_iff_exists.1 (List.find?_isSome.2 ⟨d, by simp [items], by simp⟩)
    have alike : said y = said d := by simpa using List.find?_some first
    refine ⟨y, mem_dedup_iff.2 (alike ▸ first), ?_⟩
    rw [items, List.find?_append] at first
    cases found : before.find? (said · = said d) with
    | none =>
      rw [found, Option.none_or, List.find?_cons_of_pos (by simp)] at first
      rw [← Option.some.inj first]
      exact error
    | some z =>
      rw [found, Option.some_or] at first
      obtain rfl : z = y := Option.some.inj first
      by_contra minor
      obtain ⟨code, pos, message⟩ := said_eq_iff.1 alike
      exact clear z (List.mem_of_find?_eq_some found) (by simpa using minor) code pos message

/-- **The errors of a bag after an operation**: those that it offers join those that are held, unless they are masked and
repetitions are dropped. -/
theorem hasErrors_apply_iff (b : Bag) (o : Operation) :
    (o.apply b).hasErrors = true ↔ o.OffersError ∨ b.hasErrors = true ∧ ¬ (o = .dedup ∧ b.Masked) := by
  cases o with
  | add d =>
    rw [Operation.apply, hasErrors_of_errors (errors_add b d)]
    simp [Operation.OffersError, Operation.diagnostics]
  | addFailure f =>
    rw [Operation.apply, addFailure_eq, hasErrors_of_errors (errors_addAll b (f.elim [] ofFailure))]
    simp [Operation.OffersError, Operation.diagnostics]
  | merge other =>
    have offered : (b.merge other).errors = b.errors ++ other.items.filter Diagnostic.isError := errors_merge b other
    rw [Operation.apply, hasErrors_of_errors offered]
    simp [Operation.OffersError, Operation.diagnostics]
  | sort files =>
    have same : (b.sort files).hasErrors = true ↔ b.hasErrors = true := by
      simp only [hasErrors_iff, mem_sort]
    simp [Operation.apply, Operation.OffersError, Operation.diagnostics, same]
  | dedup =>
    have held : b.dedup.hasErrors = true → b.hasErrors = true := by
      rw [hasErrors_iff, hasErrors_iff]
      rintro ⟨d, hd, error⟩
      exact ⟨d, mem_of_mem_dedup hd, error⟩
    simp only [Operation.apply, Operation.OffersError, Operation.diagnostics, List.not_mem_nil, false_and, exists_false,
      false_or, true_and]
    exact ⟨fun h => ⟨held h, hasErrors_dedup_iff.1 h⟩, fun h => hasErrors_dedup_iff.2 h.2⟩

/-! ## Runs -/

/-- An operation of the run has offered an error, and no repetitions were dropped from a masked bag since. -/
def Retains (b : Bag) (os : List Operation) : Prop :=
  ∃ before o after, os = before ++ o :: after ∧ o.OffersError ∧
    ∀ between later, after = between ++ .dedup :: later → ¬ (b.run (before ++ o :: between)).Masked

theorem not_retains_nil (b : Bag) : ¬ b.Retains [] := by
  rintro ⟨before, o, after, empty, -⟩
  simp at empty

theorem retains_concat (b : Bag) (os : List Operation) (o : Operation) :
    b.Retains (os ++ [o]) ↔ o.OffersError ∨ b.Retains os ∧ ¬ (o = .dedup ∧ (b.run os).Masked) := by
  constructor
  · rintro ⟨before, p, after, all, offers, unmasked⟩
    rcases List.eq_nil_or_concat after with rfl | ⟨after, last, rfl⟩
    · obtain ⟨-, rfl⟩ := List.append_inj_right' all rfl
      exact .inl offers
    · rw [List.concat_eq_append, ← List.cons_append, ← List.append_assoc] at all
      obtain ⟨rfl, last⟩ := List.append_inj' all rfl
      obtain rfl : o = _ := (List.cons.inj last).1
      refine .inr ⟨⟨before, p, after, rfl, offers, fun between later split => ?_⟩, ?_⟩
      · exact unmasked between (later ++ [o]) (by simp [split])
      · rintro ⟨rfl, masked⟩
        exact unmasked after [] (by simp) masked
  · rintro (offers | ⟨⟨before, p, after, rfl, offers, unmasked⟩, last⟩)
    · exact ⟨os, o, [], rfl, offers, by simp⟩
    · refine ⟨before, p, after ++ [o], by simp, offers, fun between later split => ?_⟩
      rcases List.eq_nil_or_concat later with rfl | ⟨later, q, rfl⟩
      · obtain ⟨rfl, same⟩ := List.append_inj' split rfl
        exact fun masked => last ⟨(List.cons.inj same).1, masked⟩
      · rw [List.concat_eq_append, ← List.cons_append, ← List.append_assoc] at split
        exact unmasked between later (List.append_inj' split rfl).1

/-- **How long a bag holds errors.** However a bag has come about, it holds an error exactly if one was offered to it, by
itself, in a failure or in another bag, since repetitions were last dropped from it while each of its errors repeated an
earlier diagnostic that is no error. -/
theorem hasErrors_run_iff (max : Int) (os : List Operation) :
    ((empty max).run os).hasErrors = true ↔
      ∃ before o after, os = before ++ o :: after ∧ (∃ d ∈ o.diagnostics, d.isError = true) ∧
        ∀ between later, after = between ++ .dedup :: later → ¬ ((empty max).run (before ++ o :: between)).Masked := by
  change _ ↔ (empty max).Retains os
  induction os using List.reverseRecOn with
  | nil => simpa [run, hasErrors, empty] using not_retains_nil (empty max)
  | append_singleton os o ih =>
    have last : (empty max).run (os ++ [o]) = o.apply ((empty max).run os) := by
      rw [run, List.foldl_append]
      rfl
    rw [last, hasErrors_apply_iff, retains_concat, ih]

/-- **An error can get lost**: repetitions are dropped whatever their severity, so that a warning takes the place of an
error that says the same. -/
theorem error_masked_by_warning :
    ¬ ∀ max os, ((empty max).run os).hasErrors = true ↔ ∃ o ∈ os, ∃ d ∈ o.diagnostics, d.isError = true := by
  intro always
  have lost : ((empty 10).run [.add (.warning .unknownOption ⟨1, 2⟩ "m"), .add (.error .unknownOption ⟨1, 2⟩ "m"),
      .dedup]).hasErrors = false := by decide +kernel
  rw [← Bool.not_eq_true, always] at lost
  exact lost ⟨.add (.error .unknownOption ⟨1, 2⟩ "m"), by simp, _, List.mem_singleton_self _, rfl⟩

end DocAccessors.Bag
