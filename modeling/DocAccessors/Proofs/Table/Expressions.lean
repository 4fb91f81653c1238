import DocAccessors.Proofs.Directive.ValueSpan
import DocAccessors.Proofs.Table.Content
import DocAccessors.Proofs.Table.Layer

/-!
# The expressions in a table

An expression that stands for missing documentation comes from an option, which cuts it from its first token to its last, or
from the configuration, which takes it as it is given.

* `IsCutExpression`: the text of an expression from its first token to its last;
* `isCut_of_mem_readOptions`: options have only such expressions;
* `isCut_of_resolveBinding`: so have tables, if the settings that they start from do.
-/

namespace DocAccessors

open Source (WholeTokens)

/-- The text of an expression, from its first token to its last. -/
structure IsCutExpression (e : Text) : Prop where
  whole : WholeTokens e
  parses : ∃ x, Source.Expr.parse e = .ok x

/-- An expression that stands for the documentation is cut. -/
def DocValue.IsCut (v : DocValue) : Prop := ∀ e, v = .default e → IsCutExpression e

/-- The expression for missing documentation, if there is one, is cut. -/
def Settings.IsCut (s : Settings) : Prop := ∀ e ∈ s.defaultExpr, IsCutExpression e

open OptionList in
/-- **The expression of an option is cut.** -/
theorem isCut_of_mem_readOptions {src : Text} {base : Pos} {keys : KeySet} {o : ReadOption}
    (h : o ∈ (readOptions src base keys).1) {e : Text} (value : o.value = .default e) : IsCutExpression e := by
  obtain ⟨clean, first, rest, tokens, behind, -, taken, -⟩ := exists_value h
  have kind : o.kind = .default := by rw [ReadOption.kind, value]; rfl
  have whole := (whole_value clean tokens behind taken (by simp [kind])).1
  rw [kind, value] at taken
  unfold Input.value at taken
  dsimp only at taken
  split at taken
  · next x parses =>
    cases taken
    exact ⟨whole, x, parses⟩
  · cases taken

namespace Resolve

variable {base s : Settings} {p : Profile} {os : List ReadOption}

theorem isCut_of_settings {ds : List Directive} (cut : base.IsCut) (hos : options ds = .ok os)
    (hs : settings base p os = .ok s) : s.IsCut := by
  obtain ⟨-, rfl⟩ := settings_eq_ok_iff.1 hs
  obtain ⟨-, -, rfl⟩ := options_eq_ok_iff.1 hos
  intro e he
  rw [Settings.foldl_apply_defaultExpr, Option.mem_def, Option.or_eq_some_iff] at he
  rcases he with given | ⟨-, kept⟩
  · obtain ⟨o, ho, value⟩ := List.mem_filterMap.1 (List.mem_of_getLast? given)
    obtain ⟨d, -, ho⟩ := List.mem_flatMap.1 ho
    refine isCut_of_mem_readOptions ho ?_
    cases o_value : o.value <;> rw [o_value] at value <;> cases value
    rfl
  · exact cut e kept

theorem isCut_of_docValue {mode : DocMode} {fragments : List Text} {place : ItemPlace} {v : DocValue} (cut : s.IsCut)
    (hv : docValue mode fragments s place = .ok v) : v.IsCut := by
  rintro e rfl
  have chosen := (docValue_ok hv).1
  generalize normalize fragments s.trim = t at chosen
  refine cut e ?_
  cases t <;> cases given : s.defaultExpr <;> cases mode <;> rw [given] at chosen <;> cases chosen
  all_goals rfl

/-- **The expressions in a table are cut**, if those in the settings that it starts from are. -/
theorem isCut_of_resolveBinding {d : Declaration} {b : Binding} {t : DocTable} (cut : base.IsCut)
    (h : (resolveBinding base d b).1 = .ok t) : t.docs.IsCut ∧ ∀ i ∈ t.items, i.docs.IsCut := by
  obtain ⟨os, s, hos, hs, h⟩ := resolveBinding_ok h
  have cut_s := isCut_of_settings cut hos hs
  split at h
  · obtain ⟨v, names, hv, -, rfl⟩ := itemTable_ok h
    exact ⟨isCut_of_docValue cut_s hv, by simp [DocTable.ofAttribute]⟩
  · obtain ⟨-, index, -, rfl⟩ := memberTable_ok h
    refine ⟨by simp [DocTable.ofAttribute, DocValue.IsCut], fun i hi => ?_⟩
    obtain ⟨m, -, made⟩ := exists_member_of_mem_items i hi
    obtain ⟨os', s', v, hos', hs', hv, rfl⟩ := resolveMember_ok made
    exact isCut_of_docValue (isCut_of_settings cut_s hos' hs') hv

end Resolve

end DocAccessors
