import DocAccessors.Proofs.Directive.Fault
import DocAccessors.Proofs.Table.Member

/-!
# Every failure of a table is reported

A table that is not made must leave an error behind. `Reports r` says that the result `r`, if it is a failure, holds
faults; each step of the resolution keeps this:

* `reports_options`, `reports_settings`, `reports_docValue`, `reports_constNames`: the parts of one table;
* `reports_resolveMember`, `reports_memberTable`, `reports_itemTable`: one entry, and the two kinds of tables;
* `reports_resolveBinding`: a whole binding; `isRemark_of_resolveBinding`: its warnings are remarks;
* `Validation.isFault_misplaced` and its companions: what is said about a directive is a fault, unless only its name is
  deprecated.
-/

namespace DocAccessors

open Diagnostic

namespace Resolve

/-- If the result is a failure, it holds faults. -/
def Reports (r : Result α) : Prop := ∀ f, r = .error f → f.IsFaulty

theorem reports_ok (a : α) : Reports (.ok a : Result α) := by
  intro f hf
  cases hf

theorem reports_error {f : Failure} (h : f.IsFaulty) : Reports (.error f : Result α) := by
  intro g hg
  injection hg with hg
  exact hg ▸ h

theorem reports_ofDiagnostic {d : Diagnostic} (h : d.IsFault) : Reports (.error (.ofDiagnostic d) : Result α) :=
  reports_error (Failure.isFaulty_ofDiagnostic h)

theorem Reports.bind {r : Result α} {k : α → Result β} (hr : Reports r) (hk : ∀ a, Reports (k a)) :
    Reports (r >>= k) := by
  cases r with
  | error f => exact fun g hg => hr g (by injection hg with hg; rw [hg])
  | ok a => exact hk a

theorem reports_ofFailure {o : Option Failure} (h : ∀ f ∈ o, f.IsFaulty) (a : α) : Reports (ofFailure o a) := by
  cases o with
  | none => exact reports_ok a
  | some f => exact reports_error (h f rfl)

theorem Reports.both {a : Result α} {b : Result β} (ha : Reports a) (hb : Reports b) : Reports (both a b) := by
  cases a with
  | ok a =>
    cases b with
    | ok b => exact reports_ok _
    | error g => exact reports_error (hb g rfl)
  | error f =>
    cases b with
    | ok b => exact reports_error (ha f rfl)
    | error g => exact reports_error ((ha f rfl).merge (hb g rfl))

/-! ## Options and settings -/

theorem isFaulty_foldl_combine {fs : List (Option Failure)} (h : ∀ o ∈ fs, ∀ f ∈ o, f.IsFaulty)
    {start : Option Failure} (hs : ∀ f ∈ start, f.IsFaulty) : ∀ f ∈ fs.foldl Failure.combine start, f.IsFaulty := by
  induction fs generalizing start with
  | nil => exact hs
  | cons o fs ih =>
    exact ih (fun p hp => h p (by simp [hp])) (Failure.IsFaulty.combine hs (h o (by simp)))

theorem reports_options (ds : List Directive) : Reports (options ds) := by
  refine reports_ofFailure (Failure.IsFaulty.combine (isFaulty_foldl_combine ?_ (by simp)) ?_) _
  · intro o ho
    obtain ⟨p, hp, rfl⟩ := List.mem_map.1 ho
    obtain ⟨d, -, rfl⟩ := List.mem_map.1 hp
    exact isFaulty_of_readOptions d.args d.argsPos _
  · exact isFaulty_of_ensureUnique _

theorem isFaulty_of_settingsResolve (s : Settings) (p : Profile) (layers : List (List ReadOption)) :
    ∀ f ∈ (s.resolve p layers).2, f.IsFaulty := by
  intro f hf
  unfold Settings.resolve at hf
  dsimp only at hf
  split at hf
  · cases hf
  · next bad =>
    injection hf with hf
    subst hf
    refine Failure.isFaulty_diagnosed (by simpa using bad) fun d hd => ?_
    obtain ⟨o, -, rfl⟩ := List.mem_map.1 hd
    exact isFault_of_code (by decide) (by decide) _ _

theorem reports_settings (s : Settings) (p : Profile) (os : List ReadOption) : Reports (settings s p os) :=
  reports_ofFailure (isFaulty_of_settingsResolve s p [os]) _

/-! ## Documentation and names -/

theorem reports_docValue (mode : DocMode) (fragments : List Text) (s : Settings) (p : ItemPlace) :
    Reports (docValue mode fragments s p) := by
  unfold docValue
  split
  · exact reports_ofDiagnostic (isFault_of_code (by decide) (by decide) _ _)
  · split
    · exact reports_ofDiagnostic (isFault_of_code (by decide) (by decide) _ _)
    · exact reports_ok _
  · exact reports_ok _

theorem reports_constNames (d : Declaration) (s : Settings) (os : List ReadOption) : Reports (constNames d s os) := by
  unfold constNames
  dsimp only
  split
  · exact reports_ok _
  · split
    · exact reports_ofDiagnostic
        (isFault_structuralMismatch (not_suffix_append (by decide) (by decide) _) _)
    · split
      all_goals
        split
        · exact reports_ok _
        · exact reports_ofDiagnostic (isFault_of_code (by decide) (by decide) _ _)

theorem reports_itemTable (d : Declaration) (b : Binding) (s : Settings) (os : List ReadOption) :
    Reports (itemTable d b s os) := by
  unfold itemTable
  dsimp only
  split
  · refine Reports.bind (Reports.both (reports_docValue _ _ _ _) (reports_constNames _ _ _)) fun x => ?_
    exact reports_ok _
  · exact Reports.bind (reports_docValue _ _ _ _) fun x => reports_ok _

/-! ## Members -/

theorem reports_resolveMember (c : MemberContext) (m : Member) : Reports (resolveMember c m) := by
  unfold resolveMember
  refine Reports.bind (reports_options _) fun os => ?_
  refine Reports.bind (reports_settings _ _ _) fun s => ?_
  exact Reports.bind (reports_docValue _ _ _ _) fun v => reports_ok _

theorem isFaulty_of_members (c : MemberContext) (ms : List Member) :
    ∀ f ∈ (ms.foldl (Members.step c) {}).problems, f.IsFaulty := by
  refine Members.foldl_induction (P := fun r => ∀ f ∈ r.problems, f.IsFaulty) ms (by simp) ?_
  intro r m r' _ next hr
  cases next with
  | blank => exact hr
  | again => exact hr
  | plain => exact hr
  | fresh => exact hr
  | failed hb hf =>
    refine Failure.IsFaulty.combine hr fun f h => ?_
    injection h with h
    exact reports_resolveMember c m f (h ▸ hf)

theorem isRemark_repeatedValue (m : Member) (first : Text) : (repeatedValue m first).IsRemark := by
  refine ⟨rfl, .inr ⟨rfl, ?_⟩⟩
  have ending : text " is left out of VariantDocs" <:+ text "` and is left out of VariantDocs" := by decide
  exact ending.trans (List.suffix_append _ _)

theorem isRemark_of_members (c : MemberContext) (ms : List Member) :
    ∀ w ∈ (ms.foldl (Members.step c) {}).warnings, w.IsRemark := by
  refine Members.foldl_induction (P := fun r => ∀ w ∈ r.warnings, w.IsRemark) ms (by simp) ?_
  intro r m r' _ next hr
  cases next with
  | blank => exact hr
  | failed => exact hr
  | plain => exact hr
  | fresh => exact hr
  | again =>
    intro w hw
    rcases List.mem_append.1 hw with hw | hw
    · exact hr w hw
    · rw [List.mem_singleton.1 hw]
      exact isRemark_repeatedValue _ _

theorem isFault_of_mem_collisions {seen es : List LookupEntry} {d : Diagnostic}
    (h : d ∈ LookupTable.collisions seen es) : d.IsFault := by
  induction es generalizing seen with
  | nil => cases h
  | cons e es ih =>
    unfold LookupTable.collisions at h
    split at h
    · rcases List.mem_cons.1 h with rfl | h
      · exact (isFault_of_code (by decide) (by decide) _ _).withNote _ _
      · exact ih h
    · exact ih h

theorem reports_compile (es : List LookupEntry) : Reports (LookupTable.compile es) := by
  unfold LookupTable.compile
  split
  · exact reports_ok _
  · next found =>
    exact reports_error (Failure.isFaulty_diagnosed found fun d h => isFault_of_mem_collisions h)

theorem reports_memberTable (d : Declaration) (b : Binding) (p : Profile) (lookup : Bool) (s : Settings)
    (os : List ReadOption) : Reports (memberTable d b p lookup s os).1 := by
  unfold memberTable
  dsimp only
  split
  · next f problems => exact reports_error (isFaulty_of_members _ _ f problems)
  · split
    · intro f hf
      cases compiled : LookupTable.compile (d.members.foldl (Members.step ⟨d, b.attr, p, s, os⟩) {}).entries with
      | ok t => simp [compiled, Except.map] at hf
      | error g =>
        obtain rfl : g = f := by simpa [compiled, Except.map] using hf
        exact reports_compile _ g compiled
    · exact reports_ok _

/-! ## Bindings -/

/-- **A binding without a table leaves faults.** -/
theorem reports_resolveBinding (base : Settings) (d : Declaration) (b : Binding) :
    Reports (resolveBinding base d b).1 := by
  have container : Reports (do
      let os ← options b.directives
      return (os, ← settings base b.attr.base.levels.container os)) := by
    refine Reports.bind (reports_options _) fun os => ?_
    exact Reports.bind (reports_settings _ _ _) fun s => reports_ok _
  unfold resolveBinding
  dsimp only
  split
  · next f hf => exact reports_error (container f hf)
  · split
    · exact reports_itemTable _ _ _ _
    · exact reports_memberTable _ _ _ _ _ _

/-- **The warnings about a binding are remarks.** -/
theorem isRemark_of_resolveBinding (base : Settings) (d : Declaration) (b : Binding) :
    ∀ w ∈ (resolveBinding base d b).2, w.IsRemark := by
  unfold resolveBinding
  dsimp only
  split
  · simp
  · split
    · simp
    · exact isRemark_of_members _ _

end Resolve

/-! ## Validation -/

namespace Validation

theorem isFault_unknownAttribute (d : Directive) : (unknownAttribute d).IsFault := by
  refine isFault_unknownOption ?_ _
  simp only [List.append_assoc]
  exact not_prefix_append (by decide) (by decide) _

theorem isRemark_deprecatedAttribute (d : Directive) (a : Attribute) : (deprecatedAttribute d a).IsRemark := by
  refine ⟨rfl, .inl ⟨rfl, ?_⟩⟩
  simp only [deprecatedAttribute, Diagnostic.warning, List.append_assoc]
  exact List.prefix_append _ _

theorem isFault_misplaced (d : Directive) (a : Attribute) (p : Placement) : (misplaced d a p).IsFault := by
  refine isFault_structuralMismatch ?_ _
  split
  · decide
  · exact not_suffix_append (by cases p <;> decide) (by cases p <;> decide) _

theorem isFault_onAlias (d : Directive) (a : Attribute) : (onAlias d a).IsFault :=
  isFault_structuralMismatch (not_suffix_append (by decide) (by decide) _) _

theorem isFault_bothForms (d : Directive) (a : Attribute) (b : Binding) (decl : Declaration) :
    (bothForms d a b decl).IsFault :=
  (isFault_structuralMismatch (not_suffix_append (by decide) (by decide) _) _).withNote _ _

theorem isFault_optionalOnMember (d : Directive) (a : Attribute) (decl : Declaration) :
    (optionalOnMember d a decl).IsFault :=
  isFault_structuralMismatch (not_suffix_append (by decide) (by decide) _) _

theorem isFault_notEnabled (d : Directive) (a : Attribute) (decl : Declaration) (m : Member) :
    (notEnabled d a decl m).IsFault :=
  (isFault_structuralMismatch (not_suffix_append (by decide) (by decide) _) _).withNote _ _

end Validation

end DocAccessors
