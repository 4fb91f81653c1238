import DocAccessors.Proofs.Source.Invariant
import DocAccessors.Proofs.Source.Lexing

/-!
# Faults of lexemes are faults of what is read

A fault that was found while lexemes were read is found again when the rules of the grammar pass the item it belongs to.

* `faulty`: a fault that was found stays found;
* `accounted all`: if no fault was found, the items of `all` up to the current one have none;
* `Expr.parse_clean`: an expression that is accepted has no faults in its lexemes.
-/

set_option mvcgen.warning false

namespace DocAccessors.Source

open Std.Do

namespace Grammar

/-! ## Runs of rules -/

/-- What holds after a rule, unless reading stops, holds of the state in which a run of it ends. -/
theorem triple_iff_run {P Q : State → Prop} {p : Parse α} :
    ⦃fun s => ⌜P s⌝⦄ p ⦃⇓? _ s => ⌜Q s⌝⦄ ↔ ∀ s, P s → ∀ a s', p.run s = .ok (a, s') → Q s' := by
  rw [Triple.iff]
  refine forall_congr' fun s => imp_congr .rfl ?_
  change (wp⟦p.run s⟧ (PostCond.mayThrow fun r => ⌜Q r.2⌝)).down ↔ _
  generalize p.run s = result
  cases result with
  | error fs => exact ⟨fun _ _ _ same => (nomatch same), fun _ => trivial⟩
  | ok r =>
    constructor
    · intro holds a s' same
      cases same
      exact holds
    · exact fun h => h r.1 r.2 rfl

theorem run_bind_eq_ok {p : Parse α} {f : α → Parse β} {s s'' : State} {b : β} :
    (p >>= f).run s = .ok (b, s'') ↔ ∃ a s', p.run s = .ok (a, s') ∧ (f a).run s' = .ok (b, s'') := by
  rw [StateT.run_bind]
  cases p.run s with
  | error fs => simp [bind, Except.bind]
  | ok r =>
    obtain ⟨a, s'⟩ := r
    simp [bind, Except.bind]

theorem run_next (s : State) : next.run s = .ok ((), match s.items with
    | _ :: i :: is => { s with items := i :: is, faults := (placed s.file i.faults).reverse ++ s.faults }
    | _ => s) := rfl

/-- To report a fault is to stop, to do nothing where another fault stands, or to find the fault. -/
theorem run_fault (o : Nat) (m : Text) (s : State) :
    (fault o m).run s = .error s.faults ∨ (fault o m).run s = .ok ((), s) ∧ s.faults ≠ [] ∨
      ∃ f, (fault o m).run s = .ok ((), { s with faults := f :: s.faults }) := by
  simp only [fault, StateT.run_bind, StateT.run_get, pure_bind]
  cases s.faults with
  | nil => exact .inr (.inr ⟨_, rfl⟩)
  | cons f fs =>
    dsimp only
    split
    · exact .inr (.inl ⟨rfl, by simp⟩)
    · split
      · exact .inl rfl
      · exact .inr (.inr ⟨_, rfl⟩)

/-! ## Faults that were found -/

theorem fault_found (o : Nat) (m : Text) : ⦃fun _ => ⌜True⌝⦄ fault o m ⦃⇓? _ s => ⌜s.faults ≠ []⌝⦄ := by
  refine triple_iff_run.2 fun s _ a s' run => ?_
  rcases run_fault o m s with stops | ⟨stays, found⟩ | ⟨f, adds⟩
  · rw [stops] at run
    cases run
  · rw [stays] at run
    cases run
    exact found
  · rw [adds] at run
    cases run
    exact List.cons_ne_nil _ _

/-- A fault that was found stays found. -/
def faulty : Invariant where
  Holds s := s.faults ≠ []
  next := by
    refine triple_iff_run.2 fun s found a s' run => ?_
    rw [run_next] at run
    cases run
    split
    · exact List.append_ne_nil_of_right_ne_nil _ found
    · exact found
  fault o m := triple_iff_run.2 fun s _ => triple_iff_run.1 (fault_found o m) s trivial
  level _ _ found := found
  inRhs _ _ found := found
  sync _ _ _ found := found

/-! ## Faults that were passed -/

/-- If no fault was found, the items up to the current one have none. -/
def State.Accounted (all : List Item) (s : State) : Prop :=
  ∃ done i rest, s.items = i :: rest ∧ all = done ++ i :: rest ∧ (s.faults = [] → ∀ j ∈ done ++ [i], j.faults = [])

theorem State.Accounted.next {all : List Item} {s : State} {i j : Item} {is : List Item} (h : s.Accounted all)
    (items : s.items = i :: j :: is) :
    State.Accounted all { s with items := j :: is, faults := (placed s.file j.faults).reverse ++ s.faults } := by
  obtain ⟨done, i', rest, items', rfl, clean⟩ := h
  cases items.symm.trans items'
  refine ⟨done ++ [i], j, is, rfl, by simp, fun none => ?_⟩
  obtain ⟨found, before⟩ := List.append_eq_nil_iff.1 none
  have last : j.faults = [] := by simpa [placed] using found
  intro k hk
  rcases List.mem_append.1 hk with hk | hk
  · exact clean before k hk
  · rwa [List.mem_singleton.1 hk]

/-- When reading starts, the faults of the first item are found. -/
theorem accounted_first (file : SourceFile) (i : Item) (rest : List Item) :
    State.Accounted (i :: rest) { file, items := i :: rest, faults := (placed file i.faults).reverse } := by
  refine ⟨[], i, rest, rfl, rfl, fun none j hj => ?_⟩
  rw [List.mem_singleton.1 hj]
  simpa [placed] using none

/-- The faults of the items that were passed are found. -/
def accounted (all : List Item) : Invariant where
  Holds s := s.Accounted all
  next := by
    refine triple_iff_run.2 fun s h a s' run => ?_
    rw [run_next] at run
    cases run
    split
    · next items => exact h.next items
    · exact h
  fault o m := by
    refine triple_iff_run.2 fun s h a s' run => ?_
    rcases run_fault o m s with stops | ⟨stays, -⟩ | ⟨f, adds⟩
    · rw [stops] at run
      cases run
    · rw [stays] at run
      cases run
      exact h
    · rw [adds] at run
      cases run
      obtain ⟨done, i, rest, items, all_eq, -⟩ := h
      exact ⟨done, i, rest, items, all_eq, fun none => absurd none (List.cons_ne_nil _ _)⟩
  level _ _ h := h
  inRhs _ _ h := h
  sync _ _ _ h := h

/-- Where another token stands than the one that is asked for, a fault is found. -/
theorem expect_found (t : Token) :
    ⦃fun s => ⌜∃ i ∈ s.items.head?, i.token ≠ t⌝⦄ expect t ⦃⇓? _ s => ⌜s.faults ≠ []⌝⦄ := by
  refine triple_iff_run.2 fun s ⟨i, head, other⟩ a s' run => ?_
  have here : current.run s = .ok (i, s) := by
    simp only [current, StateT.run_bind, StateT.run_get, pure_bind, Option.mem_def.1 head]
    rfl
  obtain ⟨_, _, here', run⟩ := run_bind_eq_ok.1 run
  cases here.symm.trans here'
  simp only [bne_iff_ne, ne_eq, other, not_false_eq_true, if_true] at run
  obtain ⟨_, s₁, reported, run⟩ := run_bind_eq_ok.1 run
  obtain ⟨_, s₂, passed, run⟩ := run_bind_eq_ok.1 run
  obtain ⟨_, _, -, reported⟩ := run_bind_eq_ok.1 reported
  have found := triple_iff_run.1 (fault_found _ _) _ trivial _ _ reported
  cases run
  exact triple_iff_run.1 (keeps_next (I := faulty)) s₁ found _ _ passed

/-- Where the end is read without faults, all items have none. -/
theorem expect_eof {before : List Item} {last : Item} (inner : ∀ i ∈ before, i.token ≠ .eof) :
    ⦃fun s => ⌜s.Accounted (before ++ [last])⌝⦄ expect .eof
      ⦃⇓? _ s => ⌜s.faults = [] → ∀ i ∈ before ++ [last], i.faults = []⌝⦄ := by
  refine triple_iff_run.2 fun s ⟨done, i, rest, items, all_eq, clean⟩ a s' run none => ?_
  have at_end : i.token = .eof := by
    by_contra other
    exact triple_iff_run.1 (expect_found .eof) s ⟨i, by simp [items], other⟩ a s' run none
  have no_fault : s.faults = [] := by
    by_contra found
    exact triple_iff_run.1 (keeps_expect (I := faulty) .eof) s found a s' run none
  have last_item : rest = [] := by
    rcases List.eq_nil_or_concat rest with rfl | ⟨between, j, rfl⟩
    · rfl
    · have split : before ++ [last] = (done ++ i :: between) ++ [j] := by simpa using all_eq
      have same := List.append_inj_left' split rfl
      exact absurd at_end (inner i (by simp [same]))
  rw [all_eq, last_item]
  exact clean no_fault

theorem wholeExpr_clean {r : Rules} {before : List Item} {last : Item} [r.Keep (accounted (before ++ [last]))]
    (inner : ∀ i ∈ before, i.token ≠ .eof) :
    ⦃fun s => ⌜s.Accounted (before ++ [last])⌝⦄ r.wholeExpr
      ⦃⇓? _ s => ⌜s.faults = [] → ∀ i ∈ before ++ [last], i.faults = []⌝⦄ := by
  refine triple_iff_run.2 fun s start x s' run => ?_
  obtain ⟨_, s₁, read, run⟩ := run_bind_eq_ok.1 run
  obtain ⟨_, s₂, here, run⟩ := run_bind_eq_ok.1 run
  have accounted₁ := triple_iff_run.1 (Rules.keeps_rhs (I := accounted (before ++ [last]))) s start _ _ read
  have accounted₂ := triple_iff_run.1 (keeps_current (I := accounted (before ++ [last]))) s₁ accounted₁ _ _ here
  dsimp only at run
  split at run
  · obtain ⟨_, s₃, passed, run⟩ := run_bind_eq_ok.1 run
    have accounted₃ := triple_iff_run.1 (keeps_next (I := accounted (before ++ [last]))) s₂ accounted₂ _ _ passed
    obtain ⟨_, s₄, stop, run⟩ := run_bind_eq_ok.1 run
    cases run
    exact triple_iff_run.1 (expect_eof inner) s₃ accounted₃ _ _ stop
  · obtain ⟨_, s₃, stop, run⟩ := run_bind_eq_ok.1 run
    cases run
    exact triple_iff_run.1 (expect_eof inner) s₂ accounted₂ _ _ stop

end Grammar

/-! ## Lexemes and items -/

theorem Lexes.token_ne_eof {file : Text} {size : Nat} {s s' : LexState} {ls : List Lexeme} (h : Lexes file size s ls s') :
    ∀ l ∈ ls, l.token ≠ .eof := by
  induction h with
  | nil => simp
  | cons more _ ih => exact List.forall_mem_cons.2 ⟨more, ih⟩

/-- The items of lexemes are the items before the end and the end, and the faults of the lexemes are theirs. -/
theorem dropComments_eq {l : Lexeme} (eof : l.token = .eof) {ls : List Lexeme} (inner : ∀ l ∈ ls, l.token ≠ .eof)
    (pending : List LexFault) :
    ∃ before last, Item.dropComments pending (ls ++ [l]) = before ++ [last] ∧ (∀ i ∈ before, i.token ≠ .eof) ∧
      ((∀ i ∈ before ++ [last], i.faults = []) → pending = [] ∧ ∀ l' ∈ ls ++ [l], l'.faults = []) := by
  induction ls generalizing pending with
  | nil =>
    refine ⟨[], ⟨l.offset, l.token, l.lit, none, none, pending ++ l.faults⟩, by simp [Item.dropComments, eof], by simp, ?_⟩
    simp
  | cons l' ls ih =>
    obtain ⟨other, inner⟩ := List.forall_mem_cons.1 inner
    by_cases comment : l'.token = .comment
    · obtain ⟨before, last, items, inner, clean⟩ := ih inner (pending ++ l'.faults)
      refine ⟨before, last, by simp [Item.dropComments, comment, items], inner, fun none => ?_⟩
      obtain ⟨faults, rest⟩ := clean none
      obtain ⟨first, second⟩ := List.append_eq_nil_iff.1 faults
      exact ⟨first, List.forall_mem_cons.2 ⟨second, rest⟩⟩
    · obtain ⟨before, last, items, inner, clean⟩ := ih inner []
      refine ⟨⟨l'.offset, l'.token, l'.lit, none, none, pending ++ l'.faults⟩ :: before, last,
        by simp [Item.dropComments, comment, items], List.forall_mem_cons.2 ⟨other, inner⟩, fun none => ?_⟩
      obtain ⟨faults, rest⟩ := List.forall_mem_cons.1 none
      obtain ⟨first, second⟩ := List.append_eq_nil_iff.1 faults
      exact ⟨first, List.forall_mem_cons.2 ⟨second, (clean rest).2⟩⟩

theorem SyntaxFault.sort_eq_nil {fs : List SyntaxFault} : SyntaxFault.sort fs = [] ↔ fs = [] := by
  rw [← List.length_eq_zero_iff, SyntaxFault.sort, List.length_mergeSort, List.length_eq_zero_iff]

/-- **An expression that is accepted has no faults in its lexemes.** -/
theorem Expr.parse_clean {t : Text} {x : Expr} (accepted : Expr.parse t = .ok x) : ∀ l ∈ (lex [] t).1, l.faults = [] := by
  obtain ⟨ls, s, read, eof, found⟩ := lexFrom_spec [] t.length (left_ofText t)
  rw [← lex_eq] at found
  obtain ⟨before, last, items, inner, clean⟩ := dropComments_eq eof read.token_ne_eof []
  rw [← found] at items
  rw [found]
  refine (clean ?_).2
  rw [Expr.parse, items, runRule] at accepted
  split at accepted
  · next y attempted =>
    unfold attemptRule at attempted
    dsimp only at attempted
    split at attempted
    · cases attempted
    · next y s' run =>
      obtain ⟨-, no_fault⟩ := Prod.mk.inj attempted
      rw [SyntaxFault.sort_eq_nil, List.reverse_eq_nil_iff] at no_fault
      have := Grammar.Rules.keeps_ofDepth (I := Grammar.accounted (before ++ [last]))
        (20 * (before ++ [last]).length + 100) (4 * (before ++ [last]).length + 20)
      refine Grammar.triple_iff_run.1 (Grammar.wholeExpr_clean inner) _ ?_ _ _ run no_fault
      obtain ⟨i, rest, some_item⟩ := List.exists_cons_of_ne_nil (List.concat_ne_nil last before)
      rw [some_item]
      exact Grammar.accounted_first _ i rest
  · cases accepted

end DocAccessors.Source
