import DocAccessors.Diagnostic.Failure

/-!
# Faults and remarks

A bag drops repetitions by code, position and message, whatever their severity. So the words of warnings and the
words of errors have to differ.

* `Diagnostic.WarningWords`: the words that only warnings use;
* `Diagnostic.IsRemark`, `Diagnostic.IsFault`: a problem below errors in the words of warnings, an error in other
  words;
* `Failure.IsFaulty`: the failure holds faults, at least one, and nothing else. `Failure.IsFaulty.merge` says that
  this survives putting failures together.
-/

namespace DocAccessors

/-! ## Texts that differ at one end -/

theorem not_prefix_append {p q : Text} (hpq : ¬ p <+: q) (hqp : ¬ q <+: p) (r : Text) : ¬ p <+: q ++ r := by
  intro h
  rcases List.prefix_or_prefix_of_prefix h (List.prefix_append q r) with h | h
  · exact hpq h
  · exact hqp h

theorem not_suffix_append {p q : Text} (hpq : ¬ p <:+ q) (hqp : ¬ q <:+ p) (r : Text) : ¬ p <:+ r ++ q := by
  intro h
  rcases List.suffix_or_suffix_of_suffix h (List.suffix_append r q) with h | h
  · exact hpq h
  · exact hqp h

/-! ## Diagnostics -/

namespace Diagnostic

/-- The words that only warnings use: about a deprecated name, and about a value that occurs again. -/
def WarningWords (c : Code) (m : Text) : Prop :=
  (c = .unknownOption ∧ text "attribute `" <+: m) ∨ (c = .structuralMismatch ∧ text " is left out of VariantDocs" <:+ m)

/-- An error in words that no warning uses. -/
def IsFault (d : Diagnostic) : Prop := d.isError = true ∧ ¬ WarningWords d.code d.message

/-- A problem below errors, in the words of warnings. -/
def IsRemark (d : Diagnostic) : Prop := d.isError = false ∧ WarningWords d.code d.message

theorem isFault_of_code {c : Code} (hu : c ≠ .unknownOption) (hs : c ≠ .structuralMismatch) (s : Span) (m : Text) :
    (error c s m).IsFault := by
  refine ⟨rfl, ?_⟩
  rintro (⟨h, -⟩ | ⟨h, -⟩)
  · exact hu h
  · exact hs h

theorem isFault_unknownOption {m : Text} (h : ¬ text "attribute `" <+: m) (s : Span) :
    (error .unknownOption s m).IsFault := by
  refine ⟨rfl, ?_⟩
  rintro (⟨-, hm⟩ | ⟨hc, -⟩)
  · exact h hm
  · cases hc

theorem isFault_structuralMismatch {m : Text} (h : ¬ text " is left out of VariantDocs" <:+ m) (s : Span) :
    (error .structuralMismatch s m).IsFault := by
  refine ⟨rfl, ?_⟩
  rintro (⟨hc, -⟩ | ⟨-, hm⟩)
  · cases hc
  · exact h hm

theorem IsFault.withNote {d : Diagnostic} (h : d.IsFault) (s : Span) (m : Text) : (d.withNote s m).IsFault := h

/-- Faults and remarks never say the same. -/
theorem IsFault.ne_remark {d e : Diagnostic} (hd : d.IsFault) (he : e.IsRemark) :
    ¬ (d.code = e.code ∧ d.message = e.message) := by
  rintro ⟨hc, hm⟩
  refine hd.2 ?_
  rw [hc, hm]
  exact he.2

end Diagnostic

/-! ## Failures -/

namespace Failure

/-- The failure holds faults, at least one, and nothing else. -/
def IsFaulty (f : Failure) : Prop := ∃ ds, f.diagnostics? = some ds ∧ ds ≠ [] ∧ ∀ d ∈ ds, d.IsFault

theorem isFaulty_diagnosed {ds : List Diagnostic} (hne : ds ≠ []) (h : ∀ d ∈ ds, d.IsFault) :
    (diagnosed ds).IsFaulty := ⟨ds, rfl, hne, h⟩

theorem isFaulty_ofDiagnostic {d : Diagnostic} (h : d.IsFault) : (ofDiagnostic d).IsFaulty :=
  isFaulty_diagnosed (by simp) (by simpa using h)

theorem IsFaulty.merge {f g : Failure} (hf : f.IsFaulty) (hg : g.IsFaulty) : (f.merge g).IsFaulty := by
  obtain ⟨ds, df, dne, dh⟩ := hf
  obtain ⟨es, ef, -, eh⟩ := hg
  obtain ⟨first, others, rfl⟩ := List.exists_cons_of_ne_nil dne
  unfold Failure.merge
  rw [df, ef]
  refine isFaulty_diagnosed (by simp) fun d hd => ?_
  rcases List.mem_append.1 hd with hd | hd
  · exact dh d hd
  · exact eh d hd

theorem IsFaulty.combine {a b : Option Failure} (ha : ∀ f ∈ a, f.IsFaulty) (hb : ∀ f ∈ b, f.IsFaulty) :
    ∀ f ∈ combine a b, f.IsFaulty := by
  cases a with
  | none => exact hb
  | some f =>
    cases b with
    | none => exact ha
    | some g =>
      intro k hk
      obtain rfl : f.merge g = k := by simpa [Failure.combine] using hk
      exact (ha f rfl).merge (hb g rfl)

theorem isFaulty_ofDiagnostics? {ds : List Diagnostic} (h : ∀ d ∈ ds, d.IsFault) :
    ∀ f ∈ ofDiagnostics? ds, f.IsFaulty := by
  intro f hf
  unfold ofDiagnostics? at hf
  split at hf
  · next some_error =>
    obtain rfl : diagnosed ds = f := by simpa using hf
    refine isFaulty_diagnosed ?_ h
    rintro rfl
    simp at some_error
  · simp at hf

theorem IsFaulty.diagnosticsOf {f : Failure} (h : f.IsFaulty) :
    Failure.diagnosticsOf (some f) ≠ [] ∧ ∀ d ∈ Failure.diagnosticsOf (some f), d.IsFault := by
  obtain ⟨ds, df, dne, dh⟩ := h
  simp only [Failure.diagnosticsOf, Option.bind_some, df, Option.getD_some]
  exact ⟨dne, dh⟩

end Failure

end DocAccessors
