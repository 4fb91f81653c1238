import DocAccessors.Directive.Basic
import DocAccessors.Proofs.Diagnostic.Fault
import DocAccessors.Proofs.Directive.Segment

/-!
# Faults of option lists

Whatever the text of an option list, what is reported for it are faults: `isFaulty_of_readOptions` for the reading of
one list, `isFaulty_of_ensureUnique` for keys that occur more than once.
-/

namespace DocAccessors

open Diagnostic

namespace OptionList

theorem isFault_unknownKey (i : Input) (t : Source.Lexeme) (s : Span) :
    (Diagnostic.error .unknownOption s (i.unknownKey t)).IsFault := by
  refine isFault_unknownOption ?_ s
  unfold Input.unknownKey
  split
  · simp only [List.append_assoc]
    exact not_prefix_append (by decide) (by decide) _
  · simp only [List.append_assoc]
    exact not_prefix_append (by decide) (by decide) _

theorem isFault_invalidSyntax (s : Span) (m : Text) : (Diagnostic.error .invalidSyntax s m).IsFault :=
  isFault_of_code (by decide) (by decide) s m

theorem isFault_malformedValue (s : Span) (m : Text) : (Diagnostic.error .malformedValue s m).IsFault :=
  isFault_of_code (by decide) (by decide) s m

theorem isFault_of_option {i : Input} {key first : Source.Lexeme} {k : OptionKind} {rest : List Source.Lexeme}
    {d : Diagnostic} (h : i.option key k first rest = .error d) : d.IsFault := by
  unfold Input.option at h
  dsimp only at h
  split at h
  · cases h
  · injection h with h
    subst h
    exact isFault_malformedValue _ _

theorem isFault_of_readSegment {i : Input} {s : Segment} {d : Diagnostic} (h : i.readSegment s = .error d) :
    d.IsFault := by
  unfold Input.readSegment at h
  split at h
  · injection h with h
    subst h
    exact isFault_invalidSyntax _ _
  · split at h
    · injection h with h
      subst h
      exact isFault_invalidSyntax _ _
    · split at h
      · injection h with h
        subst h
        exact isFault_unknownKey _ _ _
      · split at h
        · injection h with h
          subst h
          exact isFault_invalidSyntax _ _
        · split at h
          · injection h with h
            subst h
            exact isFault_invalidSyntax _ _
          · split at h
            · injection h with h
              subst h
              exact isFault_malformedValue _ _
            · exact isFault_of_option h

theorem isFault_of_mem_read {i : Input} {ls : List Source.Lexeme} {d : Diagnostic} (h : d ∈ (i.read ls).2) :
    d.IsFault := by
  rw [Input.read, readFrom_eq] at h
  obtain ⟨r, hr, hd⟩ := List.mem_filterMap.1 h
  obtain ⟨s, -, rfl⟩ := List.mem_map.1 hr
  split at hd
  · cases hd
  · next e read =>
    injection hd with hd
    subst hd
    exact isFault_of_readSegment read

end OptionList

/-- **An option list that does not read fails with faults.** -/
theorem isFaulty_of_readOptions (src : Text) (base : Pos) (keys : KeySet) :
    ∀ f ∈ (readOptions src base keys).2, f.IsFaulty := by
  intro f hf
  unfold readOptions at hf
  dsimp only at hf
  generalize (Source.lex [] src).1 = lexemes at hf
  split at hf
  · exact Failure.isFaulty_ofDiagnostics? (fun d hd => OptionList.isFault_of_mem_read hd) f hf
  · next fs unreadable =>
    injection hf with hf
    subst hf
    refine Failure.isFaulty_diagnosed (by simpa using unreadable) fun d hd => ?_
    obtain ⟨x, -, rfl⟩ := List.mem_map.1 hd
    exact OptionList.isFault_invalidSyntax _ _

/-! ## Repetitions -/

theorem isFault_foldl_withNote {d : Diagnostic} (h : d.IsFault) (os : List ReadOption) (m : Text) :
    (os.foldl (fun d o => d.withNote o.span m) d).IsFault := by
  induction os generalizing d with
  | nil => exact h
  | cons o os ih => exact ih (h.withNote o.span m)

theorem isFault_of_repeated? {k : OptionKind} {os : List ReadOption} {d : Diagnostic} (h : repeated? k os = some d) :
    d.IsFault := by
  unfold repeated? at h
  split at h
  · injection h with h
    subst h
    exact isFault_foldl_withNote (isFault_of_code (by decide) (by decide) _ _) _ _
  · cases h

/-- **Repeated keys fail with faults.** -/
theorem isFaulty_of_ensureUnique (os : List ReadOption) : ∀ f ∈ ensureUnique os, f.IsFaulty := by
  refine Failure.isFaulty_ofDiagnostics? fun d hd => ?_
  obtain ⟨k, -, hk⟩ := List.mem_filterMap.1 hd
  exact isFault_of_repeated? hk

end DocAccessors
