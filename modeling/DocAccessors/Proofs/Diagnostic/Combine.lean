import DocAccessors.Diagnostic.Failure

/-!
# Failures put together

Two failures become one as two lists of diagnostics when both sides hold one, and as two trees otherwise. Only the first
list of a tree takes part, so what is lost depends on the lists that a tree holds.

* `Failure.lists`: all lists of diagnostics of a failure; `diagnostics?_eq_head?`: the first of them is the one found;
* `merge_cases`: what putting two failures together does;
* `diagnosticsOf_combine`, `Grouping.diagnosticsOf_fold`: the diagnostics of a combination are those of its parts, in
  order, however the parts are grouped;
* `Assembly`: how a failure comes about when trees are never kept side by side on purpose;
  `Assembly.lists_le_one`: such a failure holds at most one list, and so all diagnostics that have gone into it
  (`Assembly.diagnosticsOf_failure`);
* `isPartOf_combine_iff`: what a combination loses; `Grouping.isPartOf_fold_iff`: with at most one list nothing is lost;
  `Assembly.isPartOf_failure`: a code never is.
-/

namespace DocAccessors.Failure

/-! ## The lists of a failure -/

mutual

/-- All lists of diagnostics in a failure, from left to right. -/
def lists : Failure → List (List Diagnostic)
  | .plain _ => []
  | .diagnosed ds => [ds]
  | .vacuous => [[]]
  | .context _ inner => lists inner
  | .several fs => listsOfAll fs

/-- All lists of diagnostics in several failures. -/
def listsOfAll : List Failure → List (List Diagnostic)
  | [] => []
  | f :: fs => lists f ++ listsOfAll fs

end

def isNamedIn (target : FailureTarget) (ds : List Diagnostic) : Bool := (codes ds).any fun c => target == .code c

/-- Whether the target is part of a result. -/
def isPartOf (target : FailureTarget) (f : Option Failure) : Bool := f.any (holds target)

/-- Whether a result holds a list of diagnostics. -/
def hasList (f : Option Failure) : Bool := (f.bind diagnostics?).isSome

mutual

/-- **The list that is found is the first one.** -/
theorem diagnostics?_eq_head? : (f : Failure) → diagnostics? f = (lists f).head?
  | .plain _ | .diagnosed _ | .vacuous => rfl
  | .context _ inner => diagnostics?_eq_head? inner
  | .several fs => firstDiagnostics?_eq_head? fs

theorem firstDiagnostics?_eq_head? : (fs : List Failure) → firstDiagnostics? fs = (listsOfAll fs).head?
  | [] => rfl
  | f :: fs => by
    rw [firstDiagnostics?, listsOfAll, List.head?_append, ← diagnostics?_eq_head? f, ← firstDiagnostics?_eq_head? fs]
    cases diagnostics? f <;> rfl

end

mutual

theorem holds_code_iff (c : Code) : (f : Failure) →
    (holds (.code c) f = true ↔ ∃ ds ∈ lists f, isNamedIn (.code c) ds = true)
  | .plain _ => by simp [holds, lists]
  | .diagnosed ds => by simp [holds, lists, isNamedIn]
  | .vacuous => by simp [holds, lists, isNamedIn, codes]
  | .context _ inner => holds_code_iff c inner
  | .several fs => anyHolds_code_iff c fs

theorem anyHolds_code_iff (c : Code) : (fs : List Failure) →
    (anyHolds (.code c) fs = true ↔ ∃ ds ∈ listsOfAll fs, isNamedIn (.code c) ds = true)
  | [] => by simp [anyHolds, listsOfAll]
  | f :: fs => by
    rw [anyHolds, Bool.or_eq_true, holds_code_iff c f, anyHolds_code_iff c fs, listsOfAll]
    simp only [List.mem_append, or_and_right, exists_or]

end

theorem holds_of_isNamedIn {target : FailureTarget} {f : Failure} {ds : List Diagnostic} (first : diagnostics? f = some ds)
    (named : isNamedIn target ds = true) : holds target f = true := by
  obtain ⟨c, -, isCode⟩ := List.any_eq_true.1 named
  obtain rfl : target = .code c := by simpa using isCode
  rw [diagnostics?_eq_head?] at first
  exact (holds_code_iff c f).2 ⟨ds, List.mem_of_mem_head? (Option.mem_def.2 first), named⟩

theorem isNamedIn_append (target : FailureTarget) (ds es : List Diagnostic) :
    isNamedIn target (ds ++ es) = true ↔ isNamedIn target ds = true ∨ isNamedIn target es = true := by
  simp only [isNamedIn, codes, List.any_eq_true, List.mem_filter, List.mem_eraseDups, List.map_append, List.mem_append,
    or_and_right, exists_or]

/-! ## Two failures as one -/

/-- **What putting two failures together does**: when both hold a list, the first lists are put together and nothing else
is kept; otherwise both failures are kept as they are. -/
theorem merge_cases (a b : Failure) :
    (∃ da db, diagnostics? a = some da ∧ diagnostics? b = some db ∧ lists (merge a b) = [da ++ db] ∧
      ∀ target, holds target (merge a b) = isNamedIn target (da ++ db)) ∨
    ((diagnostics? a = none ∨ diagnostics? b = none) ∧ merge a b = .several [a, b]) := by
  unfold merge
  rcases diagnostics? a with - | da
  · exact .inr ⟨.inl rfl, rfl⟩
  rcases diagnostics? b with - | db
  · exact .inr ⟨.inr rfl, by cases da <;> rfl⟩
  · refine .inl ⟨da, db, rfl, rfl, ?_⟩
    -- two empty lists are the only ones that do not make a list
    split
    · next empty₁ empty₂ =>
      obtain rfl := Option.some.inj empty₁
      obtain rfl := Option.some.inj empty₂
      exact ⟨rfl, fun _ => rfl⟩
    · next first second =>
      obtain rfl := Option.some.inj first
      obtain rfl := Option.some.inj second
      exact ⟨rfl, fun _ => rfl⟩
    · next absent => exact absurd rfl (absent da db rfl)

theorem lists_pair (a b : Failure) : lists (.several [a, b]) = lists a ++ lists b := by simp [lists, listsOfAll]

theorem holds_pair (target : FailureTarget) (a b : Failure) :
    holds target (.several [a, b]) = (holds target a || holds target b) := by simp [holds, anyHolds]

/-- The list that is found in two failures put together consists of those found in them. -/
theorem diagnostics?_merge (a b : Failure) :
    diagnostics? (merge a b) = Option.merge (· ++ ·) (diagnostics? a) (diagnostics? b) := by
  rw [diagnostics?_eq_head? (merge a b)]
  rcases merge_cases a b with ⟨da, db, ha, hb, listed, -⟩ | ⟨absent, kept⟩
  · rw [listed, ha, hb]
    rfl
  · rw [kept, lists_pair, List.head?_append, ← diagnostics?_eq_head?, ← diagnostics?_eq_head?]
    rcases absent with absent | absent <;> simp [absent]

/-- **The diagnostics of two failures put together** are those of the one and then those of the other. -/
theorem diagnosticsOf_combine (a b : Option Failure) :
    diagnosticsOf (combine a b) = diagnosticsOf a ++ diagnosticsOf b := by
  unfold combine
  split
  · rfl
  · exact (List.append_nil _).symm
  · next a b =>
    simp only [diagnosticsOf, Option.bind_some, diagnostics?_merge]
    cases diagnostics? a <;> cases diagnostics? b <;> simp

/-- Putting failures together neither brings about a list of diagnostics nor drops the last one. -/
theorem hasList_combine (a b : Option Failure) : hasList (combine a b) = (hasList a || hasList b) := by
  unfold combine
  split
  · rfl
  · exact (Bool.or_false _).symm
  · next a b =>
    simp only [hasList, Option.bind_some, diagnostics?_merge]
    cases diagnostics? a <;> cases diagnostics? b <;> rfl

/-- **What two failures put together hold**: the parts of both, except that between two lists of diagnostics only what one
of the first lists names is kept. -/
theorem isPartOf_combine_iff (target : FailureTarget) (a b : Option Failure) :
    isPartOf target (combine a b) = true ↔
      (isPartOf target a = true ∨ isPartOf target b = true) ∧
        (hasList a = true ∧ hasList b = true → isNamedIn target (diagnosticsOf a ++ diagnosticsOf b) = true) := by
  unfold combine
  split
  · simp [isPartOf, hasList]
  · simp [isPartOf, hasList]
  · next a b =>
    simp only [isPartOf, hasList, diagnosticsOf, Option.any_some, Option.bind_some]
    rcases merge_cases a b with ⟨da, db, ha, hb, -, held⟩ | ⟨absent, kept⟩
    · rw [held, ha, hb]
      simp only [Option.isSome_some, Option.getD_some, and_self, forall_const, iff_and_self, isNamedIn_append]
      exact Or.imp (holds_of_isNamedIn ha) (holds_of_isNamedIn hb)
    · rw [kept, holds_pair, Bool.or_eq_true, iff_self_and]
      rintro - ⟨ha, hb⟩
      rcases absent with absent | absent
      · simp [absent] at ha
      · simp [absent] at hb

/-! ## Many failures as one -/

/-- Parts that are put together in pairs, in some grouping. -/
inductive Grouping (α : Type) where
  | part (a : α)
  | pair (left right : Grouping α)

namespace Grouping

variable {α : Type}

def parts : Grouping α → List α
  | .part a => [a]
  | .pair left right => left.parts ++ right.parts

def fold (together : α → α → α) : Grouping α → α
  | .part a => a
  | .pair left right => together (left.fold together) (right.fold together)

/-- **However the parts are grouped, their diagnostics follow one another.** -/
theorem diagnosticsOf_fold (g : Grouping (Option Failure)) :
    diagnosticsOf (g.fold combine) = g.parts.flatMap diagnosticsOf := by
  induction g with
  | part f => simp [fold, parts]
  | pair left right ihl ihr => rw [fold, diagnosticsOf_combine, ihl, ihr, parts, List.flatMap_append]

theorem hasList_fold (g : Grouping (Option Failure)) : hasList (g.fold combine) = g.parts.any hasList := by
  induction g with
  | part f => simp [fold, parts]
  | pair left right ihl ihr => rw [fold, hasList_combine, ihl, ihr, parts, List.any_append]

/-- **With at most one list of diagnostics nothing is lost**, however the parts are grouped. -/
theorem isPartOf_fold_iff (target : FailureTarget) (g : Grouping (Option Failure)) (few : g.parts.countP hasList ≤ 1) :
    isPartOf target (g.fold combine) = true ↔ ∃ f ∈ g.parts, isPartOf target f = true := by
  induction g with
  | part f => simp [fold, parts]
  | pair left right ihl ihr =>
    rw [parts, List.countP_append] at few
    have apart : ¬ (hasList (left.fold combine) = true ∧ hasList (right.fold combine) = true) := by
      rw [hasList_fold, hasList_fold, List.any_eq_true, List.any_eq_true, ← List.countP_pos_iff, ← List.countP_pos_iff]
      omega
    rw [fold, isPartOf_combine_iff, ihl (by omega), ihr (by omega), parts, and_iff_left fun both => absurd both apart]
    simp only [List.mem_append, or_and_right, exists_or]

end Grouping

/-- The diagnostics of results that are put together one by one. -/
theorem diagnosticsOf_foldl (start : Option Failure) (fs : List (Option Failure)) :
    diagnosticsOf (fs.foldl combine start) = diagnosticsOf start ++ fs.flatMap diagnosticsOf := by
  induction fs generalizing start with
  | nil => simp
  | cons f fs ih => rw [List.foldl_cons, ih, diagnosticsOf_combine, List.append_assoc, List.flatMap_cons]

/-! ## Failures that are only put together -/

/-- How a failure comes about from messages and lists of diagnostics, by context and by putting failures together. -/
inductive Assembly where
  | plain (message : Text)
  | diagnosed (diagnostics : List Diagnostic)
  | context (about : Text) (inner : Assembly)
  | combined (left right : Assembly)

namespace Assembly

def failure : Assembly → Failure
  | .plain m => .plain m
  | .diagnosed ds => .diagnosed ds
  | .context about inner => .context about inner.failure
  | .combined left right => merge left.failure right.failure

/-- The diagnostics that have gone into it, in order. -/
def diagnostics : Assembly → List Diagnostic
  | .plain _ => []
  | .diagnosed ds => ds
  | .context _ inner => inner.diagnostics
  | .combined left right => left.diagnostics ++ right.diagnostics

/-- **No diagnostics are left out.** -/
theorem diagnosticsOf_failure (a : Assembly) : diagnosticsOf (some a.failure) = a.diagnostics := by
  induction a with
  | plain | diagnosed => rfl
  | context _ _ ih => exact ih
  | combined left right ihl ihr =>
    rw [diagnostics, ← ihl, ← ihr, ← diagnosticsOf_combine]
    rfl

/-- **A failure that is only put together holds at most one list of diagnostics.** -/
theorem lists_le_one (a : Assembly) : (lists a.failure).length ≤ 1 := by
  induction a with
  | plain | diagnosed => simp [failure, lists]
  | context _ _ ih => exact ih
  | combined left right ihl ihr =>
    rw [failure]
    rcases merge_cases left.failure right.failure with ⟨da, db, -, -, listed, -⟩ | ⟨absent, kept⟩
    · simp [listed]
    · rw [kept, lists_pair, List.length_append]
      simp only [diagnostics?_eq_head?, List.head?_eq_none_iff] at absent
      rcases absent with absent | absent
      · simpa [absent] using ihr
      · simpa [absent] using ihl

/-- **No code is lost**: the codes of a failure that is only put together are those of the diagnostics that have gone into
it. -/
theorem isPartOf_failure (a : Assembly) (c : Code) :
    isPartOf (.code c) (some a.failure) = isNamedIn (.code c) a.diagnostics := by
  have few := a.lists_le_one
  rw [Bool.eq_iff_iff, isPartOf, Option.any_some, holds_code_iff, ← diagnosticsOf_failure, diagnosticsOf,
    Option.bind_some, diagnostics?_eq_head?]
  rcases listed : lists a.failure with - | ⟨ds, - | ⟨es, rest⟩⟩
  · simp [isNamedIn, codes]
  · simp
  · simp [listed] at few

end Assembly

/-! ## What is kept -/

/-- **Putting failures together keeps their diagnostics**, all of them and in order: those of two results, those of many
in any grouping or one after the other, and those that have gone into a failure. -/
theorem diagnostics_concatenated (a b : Option Failure) (g : Grouping (Option Failure)) (fs : List (Option Failure))
    (s : Assembly) :
    diagnosticsOf (combine a b) = diagnosticsOf a ++ diagnosticsOf b ∧
    diagnosticsOf (g.fold combine) = g.parts.flatMap diagnosticsOf ∧
    diagnosticsOf (fs.foldl combine none) = fs.flatMap diagnosticsOf ∧
    diagnosticsOf (some s.failure) = s.diagnostics :=
  ⟨diagnosticsOf_combine a b, g.diagnosticsOf_fold, diagnosticsOf_foldl none fs, s.diagnosticsOf_failure⟩

/-- **The parts of a combination.** Two results put together hold what one of them holds, except that between two lists of
diagnostics only what the first lists name is kept. So no code is lost between failures that are only put together: they
hold the codes of the diagnostics that have gone into them. -/
theorem parts_combined (a b : Option Failure) (target : FailureTarget) (s t : Assembly) (c : Code) :
    (isPartOf target (combine a b) = true ↔
      (isPartOf target a = true ∨ isPartOf target b = true) ∧
        (hasList a = true ∧ hasList b = true → isNamedIn target (diagnosticsOf a ++ diagnosticsOf b) = true)) ∧
    (isPartOf (.code c) (combine (some s.failure) (some t.failure)) = true ↔
      isPartOf (.code c) (some s.failure) = true ∨ isPartOf (.code c) (some t.failure) = true) ∧
    (isPartOf (.code c) (some s.failure) = true ↔ isNamedIn (.code c) s.diagnostics = true) := by
  refine ⟨isPartOf_combine_iff target a b, ?_, by rw [s.isPartOf_failure]⟩
  have whole : isPartOf (.code c) (combine (some s.failure) (some t.failure)) =
      isNamedIn (.code c) (s.diagnostics ++ t.diagnostics) := (Assembly.combined s t).isPartOf_failure c
  rw [whole, isNamedIn_append, s.isPartOf_failure, t.isPartOf_failure]

/-- Two failures kept side by side, each with a list: the code of the second list is lost when a third one joins. -/
example :
    isPartOf (.code .malformedValue) (combine
      (joinAll [some (.diagnosed [.error .duplicateOption {} "first"]), some (.diagnosed [.error .malformedValue {} "second"])])
      (some (.diagnosed [.error .invalidSyntax {} "third"]))) = false := by
  decide

/-- A message and a list of diagnostics put together. -/
def messageAndList : Option Failure :=
  combine (some (.plain "boom")) (some (.diagnosed [.error .malformedValue {} "first"]))

/-- **A message is lost when the list of diagnostics beside it meets another list.** -/
theorem message_lost : ¬ ∀ (a b : Option Failure) (target : FailureTarget),
    isPartOf target (combine a b) = true ↔ isPartOf target a = true ∨ isPartOf target b = true := by
  intro kept
  have before : isPartOf (.plain "boom") messageAndList = true := by decide
  have after : ¬ isPartOf (.plain "boom")
      (combine messageAndList (some (.diagnosed [.error .invalidSyntax {} "second"]))) = true := by decide
  exact after ((kept _ _ _).2 (.inl before))

end DocAccessors.Failure
