/-!
# Computations that can fail

Two steps succeed if the first does and then the second; a list is gone through if every element succeeds, and fails as
one of its elements does.
-/

namespace DocAccessors

variable {ε α β : Type}

theorem bind_eq_ok {r : Except ε α} {k : α → Except ε β} {b : β} (h : (r >>= k) = .ok b) :
    ∃ a, r = .ok a ∧ k a = .ok b := by
  cases r with
  | error e => cases h
  | ok a => exact ⟨a, rfl, h⟩

theorem bind_eq_error {r : Except ε α} {k : α → Except ε β} {e : ε} (h : (r >>= k) = .error e) :
    r = .error e ∨ ∃ a, r = .ok a ∧ k a = .error e := by
  cases r with
  | error e' =>
    cases h
    exact .inl rfl
  | ok a => exact .inr ⟨a, rfl, h⟩

theorem exists_bind_eq_ok_iff {r : Except ε α} {k : α → Except ε β} :
    (∃ b, (r >>= k) = .ok b) ↔ ∃ a, r = .ok a ∧ ∃ b, k a = .ok b := by
  constructor
  · rintro ⟨b, h⟩
    obtain ⟨a, first, second⟩ := bind_eq_ok h
    exact ⟨a, first, b, second⟩
  · rintro ⟨a, rfl, second⟩
    exact second

theorem exists_mapM_eq_ok_iff {f : α → Except ε β} {as : List α} :
    (∃ bs, as.mapM f = .ok bs) ↔ ∀ a ∈ as, ∃ b, f a = .ok b := by
  induction as with
  | nil => exact iff_of_true ⟨[], rfl⟩ (by simp)
  | cons a as ih =>
    rw [List.mapM_cons, exists_bind_eq_ok_iff, List.forall_mem_cons]
    constructor
    · rintro ⟨b, first, rest⟩
      obtain ⟨bs, rest, -⟩ := exists_bind_eq_ok_iff.1 rest
      exact ⟨⟨b, first⟩, ih.1 ⟨bs, rest⟩⟩
    · rintro ⟨⟨b, first⟩, rest⟩
      obtain ⟨bs, rest⟩ := ih.2 rest
      exact ⟨b, first, exists_bind_eq_ok_iff.2 ⟨bs, rest, b :: bs, rfl⟩⟩

theorem exists_of_mem_mapM {f : α → Except ε β} {as : List α} {bs : List β} (h : as.mapM f = .ok bs) :
    ∀ b ∈ bs, ∃ a ∈ as, f a = .ok b := by
  induction as generalizing bs with
  | nil =>
    cases h
    simp
  | cons a as ih =>
    rw [List.mapM_cons] at h
    obtain ⟨b, first, h⟩ := bind_eq_ok h
    obtain ⟨bs, rest, h⟩ := bind_eq_ok h
    cases h
    refine List.forall_mem_cons.2 ⟨⟨a, by simp, first⟩, fun b' hb' => ?_⟩
    obtain ⟨a', ha', made⟩ := ih rest b' hb'
    exact ⟨a', by simp [ha'], made⟩

theorem exists_of_mapM_error {f : α → Except ε β} {as : List α} {e : ε} (h : as.mapM f = .error e) :
    ∃ a ∈ as, f a = .error e := by
  induction as with
  | nil => cases h
  | cons a as ih =>
    rw [List.mapM_cons] at h
    obtain first | ⟨b, -, h⟩ := bind_eq_error h
    · exact ⟨a, by simp, first⟩
    · obtain rest | ⟨bs, -, h⟩ := bind_eq_error h
      · obtain ⟨a', ha', failed⟩ := ih rest
        exact ⟨a', by simp [ha'], failed⟩
      · cases h

end DocAccessors
