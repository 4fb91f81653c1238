import DocAccessors.Proofs.Directive.Fault
import Mathlib.Algebra.BigOperators.Group.List.Lemmas
import Mathlib.Algebra.GroupWithZero.Nat
import Mathlib.Data.List.Forall2
import Mathlib.Data.List.Induction

/-!
# Repeated keys

A key can be given once. The options of one level come from several lines, so repetitions of several keys can
interleave.

* `repetition`: what is reported for one key, at its first option and with a note at each later one;
  `ReportsRepetition`: a diagnostic is that for the options of a key in a list;
* `repeated?_eq_some_iff`: a group of options is reported so when there are at least two;
* `pairwise_kindsInOrder`: the keys are looked at in the order of their first options;
* `repeatedKeys`: the keys that are repeated; `forall₂_repeatedKinds` says that there is one report for each,
  `length_reports_add` and `sum_count_repeatedKeys` count reports, notes and options;
* `ensureUnique_eq_none_iff`, `ensureUnique_repetitions`: what is reported for a list of options.
-/

namespace DocAccessors

/-! ## Lists -/

/-- The values of a partial function, each beside the element that it comes from. -/
theorem forall₂_filter_filterMap (f : α → Option β) (l : List α) :
    List.Forall₂ (fun a b => f a = some b) (l.filter fun a => (f a).isSome) (l.filterMap f) := by
  induction l with
  | nil => exact .nil
  | cons a l ih =>
    cases value : f a with
    | none => simpa [value] using ih
    | some b =>
      rw [List.filterMap_cons_some value, List.filter_cons_of_pos (by simp [value])]
      exact .cons value ih

section Distinct

variable [BEq α] [LawfulBEq α]

/-- What is new in a list stands behind what was there. -/
theorem eraseDups_concat (l : List α) (a : α) :
    (l ++ [a]).eraseDups = if a ∈ l then l.eraseDups else l.eraseDups ++ [a] := by
  rw [List.eraseDups_append]
  split
  · next old => simp [List.removeAll, old]
  · next new => simp [List.removeAll, List.eraseDups_cons, new]

section Places

variable {l : List α} {bs : List β} {f : β → α} (inside : ∀ b ∈ bs, f b ∈ l)
  (ordered : bs.Pairwise fun b c => l.idxOf (f b) < l.idxOf (f c))
include inside ordered

/-- Places in a list stay in order when the list goes on. -/
theorem pairwise_idxOf_append (a : α) : bs.Pairwise fun b c => (l ++ [a]).idxOf (f b) < (l ++ [a]).idxOf (f c) := by
  refine ordered.imp_of_mem fun hb hc before => ?_
  rwa [List.idxOf_append_of_mem (inside _ hb), List.idxOf_append_of_mem (inside _ hc)]

/-- The place of a new element is behind all others. -/
theorem pairwise_idxOf_concat {c : β} (new : f c ∉ l) :
    (bs ++ [c]).Pairwise fun b c' => (l ++ [f c]).idxOf (f b) < (l ++ [f c]).idxOf (f c') := by
  refine List.pairwise_append.2 ⟨pairwise_idxOf_append inside ordered _, List.pairwise_singleton _ _,
    fun b hb c' hc' => ?_⟩
  rw [List.mem_singleton.1 hc', List.idxOf_append_of_mem (inside b hb), List.idxOf_append_of_notMem new]
  exact Nat.lt_of_lt_of_le (List.idxOf_lt_length_iff.2 (inside b hb)) (Nat.le_add_right _ _)

end Places

/-- Without its repetitions, a list is in the order of the first occurrences. -/
theorem pairwise_idxOf_eraseDups (l : List α) : l.eraseDups.Pairwise fun a b => l.idxOf a < l.idxOf b := by
  induction l using List.reverseRecOn with
  | nil => simp
  | append_singleton l a ih =>
    have inside : ∀ b ∈ l.eraseDups, b ∈ l := fun b hb => List.mem_eraseDups.1 hb
    rw [eraseDups_concat]
    split
    · exact pairwise_idxOf_append (f := id) inside ih a
    · next new => exact pairwise_idxOf_concat (f := id) inside ih new

theorem nodup_eraseDups (l : List α) : l.eraseDups.Nodup :=
  (pairwise_idxOf_eraseDups l).imp fun before same => absurd (same ▸ before) (Nat.lt_irrefl _)

end Distinct

/-! ## One key -/

/-- What is reported for a key whose options are `first` and `later`. -/
def repetition (k : OptionKind) (first : ReadOption) (later : List ReadOption) : Diagnostic where
  severity := .error
  code := .duplicateOption
  message := text "option `" ++ k.name ++ text "` can only be declared once"
  span := first.span
  notes := later.map fun o => ⟨o.span, text "duplicate declaration here"⟩

/-- The options of a key are reported: at the first one, with a note at each later one, in order. -/
def ReportsRepetition (os : List ReadOption) (k : OptionKind) (d : Diagnostic) : Prop :=
  ∃ first later, (os.filter fun o => o.kind == k) = first :: later ∧ d = repetition k first later

theorem foldl_withNote (os : List ReadOption) (message : Text) (d : Diagnostic) :
    os.foldl (fun d o => d.withNote o.span message) d =
      { d with notes := d.notes ++ os.map fun o => ⟨o.span, message⟩ } := by
  induction os generalizing d with
  | nil => simp
  | cons o os ih =>
    rw [List.foldl_cons, ih]
    simp [Diagnostic.withNote]

/-- **When the options of one key are reported, and how.** -/
theorem repeated?_eq_some_iff {k : OptionKind} {group : List ReadOption} {d : Diagnostic} :
    repeated? k group = some d ↔ ∃ first later, group = first :: later ∧ later ≠ [] ∧ d = repetition k first later := by
  unfold repeated?
  split
  · next first second rest =>
    rw [foldl_withNote, Option.some.injEq]
    constructor
    · rintro rfl
      exact ⟨first, second :: rest, rfl, List.cons_ne_nil _ _, by simp [repetition, Diagnostic.error]⟩
    · rintro ⟨_, _, same, -, rfl⟩
      cases same
      simp [repetition, Diagnostic.error]
  · next short =>
    refine iff_of_false (by simp) ?_
    rintro ⟨first, later, rfl, several, -⟩
    obtain ⟨second, rest, rfl⟩ := List.exists_cons_of_ne_nil several
    exact short first second rest rfl

theorem isSome_repeated?_iff {k : OptionKind} {group : List ReadOption} :
    (repeated? k group).isSome = true ↔ 2 ≤ group.length := by
  unfold repeated?
  split
  · simp
  · next short =>
    rcases group with _ | ⟨first, _ | ⟨second, rest⟩⟩
    · simp
    · simp
    · exact absurd rfl (short first second rest)

/-! ## All keys of a list -/

variable {os : List ReadOption}

/-- The options of a key are as many as its occurrences. -/
theorem length_filter_kind (os : List ReadOption) (k : OptionKind) :
    (os.filter fun o => o.kind == k).length = (os.map (·.kind)).count k := by
  rw [List.count_eq_countP, List.countP_map, List.countP_eq_length_filter]
  rfl

/-- The keys that occur more than once, in the order in which they are reported. -/
def repeatedKeys (os : List ReadOption) : List OptionKind :=
  (kindsInOrder os).filter fun k => (repeated? k (os.filter fun o => o.kind == k)).isSome

theorem mem_repeatedKeys {k : OptionKind} : k ∈ repeatedKeys os ↔ 2 ≤ (os.map (·.kind)).count k := by
  rw [repeatedKeys, List.mem_filter, isSome_repeated?_iff, length_filter_kind, kindsInOrder, List.mem_eraseDups]
  refine and_iff_right_of_imp fun several => ?_
  exact List.count_pos_iff.1 (Nat.lt_of_lt_of_le Nat.zero_lt_two several)

theorem pairwise_kindsInOrder (os : List ReadOption) :
    (kindsInOrder os).Pairwise fun k l => (os.map (·.kind)).idxOf k < (os.map (·.kind)).idxOf l :=
  pairwise_idxOf_eraseDups _

/-- **One report for each repeated key.** -/
theorem forall₂_repeatedKinds (os : List ReadOption) :
    List.Forall₂ (ReportsRepetition os) (repeatedKeys os) (repeatedKinds os) := by
  refine (forall₂_filter_filterMap _ _).imp fun k d reported => ?_
  obtain ⟨first, later, group, -, rfl⟩ := repeated?_eq_some_iff.1 reported
  exact ⟨first, later, group, rfl⟩

theorem isError_of_mem_repeatedKinds {d : Diagnostic} (h : d ∈ repeatedKinds os) : d.isError = true := by
  obtain ⟨k, -, reported⟩ := List.mem_filterMap.1 h
  exact (isFault_of_repeated? reported).1

theorem repeatedKinds_eq_nil_iff : repeatedKinds os = [] ↔ (os.map (·.kind)).Nodup := by
  have same : (repeatedKeys os).length = (repeatedKinds os).length := (forall₂_repeatedKinds os).length_eq
  rw [← List.length_eq_zero_iff, ← same, List.length_eq_zero_iff, List.eq_nil_iff_forall_not_mem,
    List.nodup_iff_count_le_one]
  simp only [mem_repeatedKeys, Nat.not_le, Nat.lt_succ_iff]

theorem sum_count_repeatedKeys (os : List ReadOption) :
    ((repeatedKeys os).map fun k => (os.map (·.kind)).count k).sum =
      (os.filter fun o => 2 ≤ (os.map (·.kind)).count o.kind).length := by
  have distinct : (repeatedKeys os).Nodup := (nodup_eraseDups _).filter _
  have same : (repeatedKeys os).Perm
      ((os.map (·.kind)).dedup.filter fun k => 2 ≤ (os.map (·.kind)).count k) := by
    refine (List.perm_ext_iff_of_nodup distinct ((List.nodup_dedup _).filter _)).2 fun k => ?_
    rw [mem_repeatedKeys, List.mem_filter, List.mem_dedup, decide_eq_true_iff]
    refine (and_iff_right_of_imp fun several => ?_).symm
    exact List.count_pos_iff.1 (Nat.lt_of_lt_of_le Nat.zero_lt_two several)
  rw [(same.map _).sum_eq, List.sum_map_count_dedup_filter_eq_countP, List.countP_map, List.countP_eq_length_filter]
  rfl

theorem length_reports_add {ks : List OptionKind} {ds : List Diagnostic}
    (reports : List.Forall₂ (ReportsRepetition os) ks ds) :
    ds.length + (ds.flatMap (·.notes)).length = (ks.map fun k => (os.map (·.kind)).count k).sum := by
  induction reports with
  | nil => rfl
  | @cons k d ks ds reported _ ih =>
    obtain ⟨first, later, group, rfl⟩ := reported
    have occurrences : (os.map (·.kind)).count k = later.length + 1 := by
      rw [← length_filter_kind, group, List.length_cons]
    have notes : (repetition k first later).notes.length = later.length := List.length_map _
    rw [List.map_cons, List.sum_cons, occurrences, ← ih, List.flatMap_cons, List.length_append, List.length_cons, notes]
    omega

/-- Repetitions fail with all reports, and there is no failure without one. -/
theorem ensureUnique_eq (os : List ReadOption) :
    ensureUnique os = if (os.map (·.kind)).Nodup then none else some (.diagnosed (repeatedKinds os)) := by
  unfold ensureUnique Failure.ofDiagnostics?
  by_cases distinct : (os.map (·.kind)).Nodup
  · rw [if_pos distinct, repeatedKinds_eq_nil_iff.2 distinct]
    rfl
  · obtain ⟨d, hd⟩ := List.exists_mem_of_ne_nil _ (mt repeatedKinds_eq_nil_iff.1 distinct)
    rw [if_neg distinct, if_pos (List.any_eq_true.2 ⟨d, hd, isError_of_mem_repeatedKinds hd⟩)]

/-- **Keys are found to be unique exactly when they are.** -/
theorem ensureUnique_eq_none_iff : ensureUnique os = none ↔ (os.map (·.kind)).Nodup := by
  rw [ensureUnique_eq]
  split <;> simp_all

/-- **Exactly the repeated keys are reported.** A list of options passes when its keys are different from each other.
Otherwise there is one report for each key that occurs at least twice, in the order of their first options: at the first
option of the key, with a note at each later one, in order. So the reports and the notes are as many as the options with
such keys. -/
theorem ensureUnique_repetitions (os : List ReadOption) :
    (ensureUnique os = none ↔ (os.map (·.kind)).Nodup) ∧
    ∃ ks ds, (¬ (os.map (·.kind)).Nodup → ensureUnique os = some (.diagnosed ds)) ∧
      (∀ k, k ∈ ks ↔ 2 ≤ (os.map (·.kind)).count k) ∧
      (ks.Pairwise fun k l => (os.map (·.kind)).idxOf k < (os.map (·.kind)).idxOf l) ∧
      List.Forall₂ (ReportsRepetition os) ks ds ∧
      ds.length + (ds.flatMap (·.notes)).length =
        (os.filter fun o => 2 ≤ (os.map (·.kind)).count o.kind).length := by
  refine ⟨ensureUnique_eq_none_iff, repeatedKeys os, repeatedKinds os, fun repeats => ?_, fun k => mem_repeatedKeys, ?_,
    forall₂_repeatedKinds os, ?_⟩
  · rw [ensureUnique_eq, if_neg repeats]
  · exact (pairwise_kindsInOrder os).filter _
  · rw [length_reports_add (forall₂_repeatedKinds os), sum_count_repeatedKeys]

end DocAccessors
