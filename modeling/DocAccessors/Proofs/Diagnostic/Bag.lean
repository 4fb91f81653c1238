import DocAccessors.Diagnostic.Bag
import DocAccessors.Proofs.Diagnostic.Fault
import DocAccessors.Proofs.Text.Numeral

/-!
# What a bag keeps

* `Bag.errors`: the errors of a bag, in order; `errors_addAll` says that offering diagnostics appends their errors,
  however full the bag is;
* `exists_same_dedup`: dropping repetitions leaves, for every diagnostic, one that says the same; `mem_dedup_iff`: it is
  the first one;
* `items_dedup_sublist`, `items_sort_perm`: neither that nor sorting adds a diagnostic.
-/

namespace DocAccessors.Bag

/-- The errors of a bag, in order. -/
def errors (b : Bag) : List Diagnostic := b.items.filter Diagnostic.isError

@[simp] theorem errors_empty (limit : Int) : (empty limit).errors = [] := rfl

/-! ## Adding -/

theorem errors_add (b : Bag) (d : Diagnostic) : (b.add d).errors = b.errors ++ [d].filter Diagnostic.isError := by
  unfold add
  split
  · exact List.filter_append _ _
  · next full =>
    have minor : d.isError = false := by
      unfold accepts at full
      rw [Bool.or_eq_true, not_or] at full
      exact Bool.eq_false_iff.2 full.1
    simp [errors, minor]

theorem mem_of_mem_add {b : Bag} {d x : Diagnostic} (h : x ∈ (b.add d).items) : x ∈ b.items ∨ x = d := by
  unfold add at h
  split at h
  · simpa using h
  · exact .inl h

/-- **Errors are always kept.** -/
theorem errors_addAll (b : Bag) (ds : List Diagnostic) :
    (b.addAll ds).errors = b.errors ++ ds.filter Diagnostic.isError := by
  rw [addAll_eq_foldl_add]
  induction ds generalizing b with
  | nil => simp
  | cons d ds ih => rw [List.foldl_cons, ih, errors_add, List.append_assoc, ← List.filter_append, List.singleton_append]

theorem mem_of_mem_addAll {b : Bag} {ds : List Diagnostic} {x : Diagnostic} (h : x ∈ (b.addAll ds).items) :
    x ∈ b.items ∨ x ∈ ds := by
  rw [addAll_eq_foldl_add] at h
  induction ds generalizing b with
  | nil => exact .inl h
  | cons d ds ih =>
    rcases ih h with h | h
    · rcases mem_of_mem_add h with h | rfl
      · exact .inl h
      · simp
    · simp [h]

/-- A failure that holds faults adds them and nothing else. -/
theorem ofFailure_of_isFaulty {f : Failure} (h : f.IsFaulty) : ofFailure f = Failure.diagnosticsOf (some f) := by
  obtain ⟨ds, df, dne, -⟩ := h
  obtain ⟨d, ds, rfl⟩ := List.exists_cons_of_ne_nil dne
  simp [ofFailure, Failure.diagnosticsOf, df]

theorem errors_addFailure {b : Bag} {f : Failure} (h : f.IsFaulty) :
    (b.addFailure (some f)).errors = b.errors ++ Failure.diagnosticsOf (some f) := by
  have allErrors : (Failure.diagnosticsOf (some f)).filter Diagnostic.isError = Failure.diagnosticsOf (some f) :=
    List.filter_eq_self.2 fun d hd => (h.diagnosticsOf.2 d hd).1
  rw [addFailure, errors_addAll, ofFailure_of_isFaulty h, allErrors]

theorem mem_of_mem_addFailure {b : Bag} {f : Failure} (h : f.IsFaulty) {x : Diagnostic}
    (hx : x ∈ (b.addFailure (some f)).items) : x ∈ b.items ∨ x ∈ Failure.diagnosticsOf (some f) := by
  rw [← ofFailure_of_isFaulty h]
  exact mem_of_mem_addAll hx

/-! ## Asking for errors -/

theorem hasErrors_iff {b : Bag} : b.hasErrors = true ↔ ∃ d ∈ b.items, d.isError = true := List.any_eq_true

theorem hasErrors_iff_errors {b : Bag} : b.hasErrors = true ↔ b.errors ≠ [] := by
  rw [hasErrors, errors, Ne, List.filter_eq_nil_iff, List.any_eq_true]
  simp

/-! ## Repetitions and order -/

/-- What a diagnostic says: its code, its position and its message. -/
def said (d : Diagnostic) : Code × Pos × Text := (d.code, d.span.pos, d.message)

theorem said_eq_iff {a b : Diagnostic} :
    said a = said b ↔ a.code = b.code ∧ a.span.pos = b.span.pos ∧ a.message = b.message := by
  simp [said]

/-- Texts that are joined with a colon are told apart when there is no colon in the first ones. -/
theorem append_colon_inj {s s' t t' : Text} (plain : 58 ∉ s) (plain' : 58 ∉ s') :
    s ++ text ":" ++ t = s' ++ text ":" ++ t' ↔ s = s' ∧ t = t' := by
  refine ⟨fun same => ?_, fun ⟨hs, ht⟩ => hs ▸ ht ▸ rfl⟩
  rw [List.append_assoc, List.append_assoc] at same
  rcases List.append_eq_append_iff.1 same with ⟨r, rfl, rest⟩ | ⟨r, rfl, rest⟩
  · cases r with
    | nil => exact ⟨(List.append_nil s).symm, (List.cons.inj rest).2⟩
    | cons b r => exact absurd ((List.cons.inj rest).1 ▸ by simp) plain'
  · cases r with
    | nil => exact ⟨List.append_nil s', (List.cons.inj rest).2.symm⟩
    | cons b r => exact absurd ((List.cons.inj rest).1 ▸ by simp) plain

theorem colon_notMem_ofNat (n : Nat) : (58 : UInt8) ∉ Text.ofNat n := fun h =>
  absurd (Text.isDigitByte_of_mem_ofNat h) (by decide)

theorem colon_notMem_ofInt (i : Int) : (58 : UInt8) ∉ Text.ofInt i := fun h =>
  absurd (Text.sign_or_digit_of_mem_ofInt h) (by decide)

/-- **The key of a diagnostic tells its code, its position and its message.** -/
theorem dedupKey_inj {a b : Diagnostic} : dedupKey a = dedupKey b ↔ said a = said b := by
  have code : a.code.number = b.code.number ↔ a.code = b.code :=
    ⟨fun h => by cases ha : a.code; cases hb : b.code; simpa [ha, hb] using h, congrArg _⟩
  rw [said_eq_iff, dedupKey, dedupKey, List.append_assoc (Text.ofNat _ ++ _), List.append_assoc (Text.ofNat _ ++ _),
    List.append_assoc (Text.ofNat _ ++ _), List.append_assoc (Text.ofNat _ ++ _),
    append_colon_inj (colon_notMem_ofNat _) (colon_notMem_ofNat _),
    append_colon_inj (colon_notMem_ofInt _) (colon_notMem_ofInt _), Text.ofNat_inj, Text.ofInt_inj, code]

theorem same_iff_said {a b : Diagnostic} : same a b = true ↔ said a = said b := by
  rw [same, beq_iff_eq, dedupKey_inj]

theorem dedupItems_sublist (seen ds : List Diagnostic) : (dedupItems seen ds).Sublist ds := by
  induction ds generalizing seen with
  | nil => exact .slnil
  | cons d ds ih =>
    unfold dedupItems
    split
    · exact (ih seen).cons d
    · exact (ih _).cons_cons d

/-- Dropping repetitions drops diagnostics and does nothing else. -/
theorem items_dedup_sublist (b : Bag) : b.dedup.items.Sublist b.items := dedupItems_sublist [] b.items

theorem exists_same_dedupItems (seen : List Diagnostic) {ds : List Diagnostic} {x : Diagnostic} (h : x ∈ ds) :
    (∃ s ∈ seen, same x s = true) ∨ ∃ y ∈ dedupItems seen ds, same x y = true := by
  induction ds generalizing seen with
  | nil => cases h
  | cons d ds ih =>
    unfold dedupItems
    split
    · next repeated =>
      rcases List.mem_cons.1 h with rfl | h
      · exact .inl (List.any_eq_true.1 repeated)
      · exact ih seen h
    · rcases List.mem_cons.1 h with rfl | h
      · exact .inr ⟨x, by simp, by simp [same]⟩
      · rcases ih (d :: seen) h with ⟨s, hs, say⟩ | ⟨y, hy, say⟩
        · rcases List.mem_cons.1 hs with rfl | hs
          · exact .inr ⟨s, by simp, say⟩
          · exact .inl ⟨s, hs, say⟩
        · exact .inr ⟨y, by simp [hy], say⟩

/-- **Of every diagnostic one remains that says the same.** -/
theorem exists_same_dedup {b : Bag} {x : Diagnostic} (h : x ∈ b.items) : ∃ y ∈ b.dedup.items, same x y = true := by
  rcases exists_same_dedupItems [] h with ⟨s, hs, -⟩ | found
  · cases hs
  · exact found

theorem mem_of_mem_dedup {b : Bag} {x : Diagnostic} (h : x ∈ b.dedup.items) : x ∈ b.items :=
  (items_dedup_sublist b).mem h

/-- **Of the diagnostics that say the same the first one remains**, unless it has been seen before. -/
theorem mem_dedupItems_iff {seen ds : List Diagnostic} {y : Diagnostic} :
    y ∈ dedupItems seen ds ↔ (∀ s ∈ seen, said s ≠ said y) ∧ ds.find? (said · = said y) = some y := by
  induction ds generalizing seen with
  | nil => simp [dedupItems]
  | cons d ds ih =>
    unfold dedupItems
    by_cases alike : said d = said y
    · rw [List.find?_cons_of_pos (by simpa using alike)]
      split
      · next repeated =>
        obtain ⟨s, hs, same⟩ := List.any_eq_true.1 repeated
        have before : ¬ ∀ s ∈ seen, said s ≠ said y := fun h => h s hs ((same_iff_said.1 same).symm.trans alike)
        simp only [ih, before, false_and]
      · next first =>
        have fresh : ∀ s ∈ seen, said s ≠ said y := fun s hs h =>
          first (List.any_eq_true.2 ⟨s, hs, same_iff_said.2 (alike.trans h.symm)⟩)
        rw [List.mem_cons, ih]
        simp only [List.forall_mem_cons, alike, ne_eq, not_true_eq_false, false_and, or_false, Option.some.injEq]
        exact ⟨fun h => ⟨fresh, h.symm⟩, fun h => h.2.symm⟩
    · rw [List.find?_cons_of_neg (by simpa using alike)]
      split
      · exact ih
      · have other : y ≠ d := fun h => alike (by rw [h])
        rw [List.mem_cons, ih]
        simp only [List.forall_mem_cons, other, false_or, alike, ne_eq, not_false_eq_true, true_and]

theorem mem_dedup_iff {b : Bag} {y : Diagnostic} :
    y ∈ b.dedup.items ↔ b.items.find? (said · = said y) = some y := by
  rw [dedup, mem_dedupItems_iff]
  simp

theorem items_sort_perm (files : Option FileSet) (b : Bag) : (b.sort files).items.Perm b.items := by
  unfold sort
  refine ((List.mergeSort_perm _ _).map Prod.snd).trans ?_
  rw [List.map_map]
  exact .of_eq (List.map_id _)

theorem mem_sort {files : Option FileSet} {b : Bag} {x : Diagnostic} : x ∈ (b.sort files).items ↔ x ∈ b.items :=
  (items_sort_perm files b).mem_iff

end DocAccessors.Bag
