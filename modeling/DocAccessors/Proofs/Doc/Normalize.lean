import DocAccessors.Doc.Basic
import DocAccessors.Proofs.Text.Lines
import Mathlib.Data.List.Forall2

/-!
# The lines of documentation

Line comments give one fragment for each line, block comments one fragment with many lines. The documentation is made
line by line, so both document the same text.

* `lines_join`: the lines of joined texts are their lines one after the other;
* `Returns`: a text whose lines may end in carriage returns; trimmed lines do not show them (`Returns.trimmed_lines`);
* `normalize_lines`: what the documentation of fragments consists of, and what it does not depend on.
-/

namespace DocAccessors

/-! ## Lines -/

namespace Text

theorem lines_join {ts : List Text} (some_text : ts ≠ []) : lines (join "\n" ts) = ts.flatMap lines := by
  induction ts with
  | nil => exact absurd rfl some_text
  | cons t ts ih =>
    cases ts with
    | nil => simp [join]
    | cons u us =>
      have cut : join "\n" (t :: u :: us) = t ++ 10 :: join "\n" (u :: us) := by
        rw [join, List.append_assoc]
        · rfl
        · simp
      rw [cut, List.flatMap_cons, ← ih (by simp)]
      exact split_append 10 t (join "\n" (u :: us))

/-- The second text is the first one with carriage returns before some of its line breaks. -/
inductive Returns : Text → Text → Prop
  | nil : Returns [] []
  | byte {s t : Text} (b : UInt8) (rest : Returns s t) : Returns (b :: s) (b :: t)
  | lineEnd {s t : Text} (rest : Returns s t) : Returns (10 :: s) (13 :: 10 :: t)

theorem split_cons_of_ne {sep b : UInt8} (other : b ≠ sep) {t l : Text} {ls : List Text} (h : split sep t = l :: ls) :
    split sep (b :: t) = (b :: l) :: ls := by
  rw [split, if_neg (by simpa using other), h]

/-- The lines of both texts are the same, but for carriage returns at their ends. -/
theorem Returns.lines {s t : Text} (h : Returns s t) :
    List.Forall₂ (fun l k => k = l ∨ k = l ++ [13]) (Text.lines s) (Text.lines t) := by
  induction h with
  | nil => exact .cons (.inl rfl) .nil
  | @byte s t b rest ih =>
    unfold Text.lines at ih ⊢
    by_cases lineBreak : b = 10
    · rw [lineBreak, split, split, if_pos (by decide), if_pos (by decide)]
      exact .cons (.inl rfl) ih
    · obtain ⟨l, ls, first⟩ := List.exists_cons_of_ne_nil (split_ne_nil 10 s)
      obtain ⟨k, ks, first'⟩ := List.exists_cons_of_ne_nil (split_ne_nil 10 t)
      rw [first, first', List.forall₂_cons] at ih
      rw [split_cons_of_ne lineBreak first, split_cons_of_ne lineBreak first']
      refine .cons (ih.1.imp (congrArg (b :: ·)) fun ended => ?_) ih.2
      rw [ended, List.cons_append]
  | @lineEnd s t rest ih =>
    have first : split 10 (10 :: s) = [] :: split 10 s := rfl
    have first' : split 10 (13 :: 10 :: t) = [13] :: split 10 t := rfl
    rw [Text.lines, Text.lines, first, first']
    exact .cons (.inr rfl) ih

/-- Trimmed lines do not show carriage returns before line breaks. -/
theorem Returns.trimmed_lines {s t : Text} (h : Returns s t) :
    (Text.lines t).map trim = (Text.lines s).map trim := by
  have lines := h.lines
  generalize Text.lines s = ls, Text.lines t = ks at lines ⊢
  induction lines with
  | nil => rfl
  | cons first rest ih =>
    rw [List.map_cons, List.map_cons, ih]
    rcases first with rfl | rfl
    · rfl
    · rw [trim_append_return]

end Text

/-! ## Documentation -/

variable {fs : List Text}

theorem normalize_of_trim (some_fragment : fs ≠ []) :
    normalize fs true = some (Text.join "\n" ((fs.flatMap Text.lines).map Text.trim)) := by
  rw [normalize, if_neg (by simpa using some_fragment), if_pos rfl, List.map_flatMap]

theorem normalize_singleton (t : Text) : normalize [t] true = some (Text.join "\n" ((Text.lines t).map Text.trim)) := by
  rw [normalize_of_trim (by simp), List.flatMap_singleton]

theorem normalize_of_not_trim (some_fragment : fs ≠ []) : normalize fs false = some (Text.join "\n" fs) := by
  rw [normalize, if_neg (by simpa using some_fragment), if_neg (by decide)]

/-- Joining trimmed lines and cutting the result into lines again changes nothing. -/
theorem lines_join_trimmed (some_fragment : fs ≠ []) :
    Text.lines (Text.join "\n" ((fs.flatMap Text.lines).map Text.trim)) = (fs.flatMap Text.lines).map Text.trim := by
  obtain ⟨f, fs, rfl⟩ := List.exists_cons_of_ne_nil some_fragment
  refine Text.split_join ?_ fun l hl => ?_
  · simp [Text.lines, Text.split_ne_nil]
  · obtain ⟨k, hk, rfl⟩ := List.mem_map.1 hl
    obtain ⟨g, -, hg⟩ := List.mem_flatMap.1 hk
    exact fun lineBreak => Text.notMem_of_mem_split hg (Text.mem_of_mem_trim lineBreak)

/-- **Documentation is made line by line.** With trimming, the lines of the documentation are the lines of the fragments,
in order and each trimmed, so trimming the documentation again changes nothing, and carriage returns before line breaks
do not matter. With and without trimming, fragments document the same as one fragment that has them on lines of their
own. -/
theorem normalize_lines (some_fragment : fs ≠ []) :
    (∃ t, normalize fs true = some t ∧ Text.lines t = (fs.flatMap Text.lines).map Text.trim ∧
      normalize [t] true = some t) ∧
    (∀ trim, normalize fs trim = normalize [Text.join "\n" fs] trim) ∧
    ∀ gs, List.Forall₂ Text.Returns fs gs → normalize gs true = normalize fs true := by
  refine ⟨⟨_, normalize_of_trim some_fragment, lines_join_trimmed some_fragment, ?_⟩, fun trim => ?_, fun gs returns => ?_⟩
  · have cut := lines_join_trimmed some_fragment
    have again : ((fs.flatMap Text.lines).map Text.trim).map Text.trim = (fs.flatMap Text.lines).map Text.trim := by
      simp only [List.map_map, Function.comp_def, Text.trim_trim]
    generalize (fs.flatMap Text.lines).map Text.trim = ls at cut again ⊢
    rw [normalize_singleton, cut, again]
  · cases trim with
    | false => rw [normalize_of_not_trim some_fragment, normalize_of_not_trim (by simp), Text.join]
    | true => rw [normalize_of_trim some_fragment, normalize_singleton, Text.lines_join some_fragment]
  · have same : (gs.flatMap Text.lines).map Text.trim = (fs.flatMap Text.lines).map Text.trim := by
      clear some_fragment
      induction returns with
      | nil => rfl
      | cons first _ ih =>
        rw [List.flatMap_cons, List.flatMap_cons, List.map_append, List.map_append, ih, first.trimmed_lines]
    have some_fragment' : gs ≠ [] := fun none => some_fragment (by simpa [none] using returns)
    rw [normalize_of_trim some_fragment', normalize_of_trim some_fragment, same]

/-- A block comment that starts with an empty line and ends in a no-break space, and an empty line comment. -/
def blockAndLine : List Text := [[10, 32, 97, 9, 0xC2, 0xA0], []]

theorem normalize_lines_blockAndLine :
    blockAndLine ≠ [] ∧ normalize blockAndLine true = some "\na\n" ∧ normalize ["\na\n"] true = some "\na\n" ∧
      normalize blockAndLine false = normalize [[10, 32, 97, 9, 0xC2, 0xA0, 10]] false ∧
      normalize [[13, 10, 32, 97, 9, 0xC2, 0xA0], []] true = some "\na\n" := by
  have some_fragment : blockAndLine ≠ [] := by decide
  have made : normalize blockAndLine true = some "\na\n" := by decide +kernel
  obtain ⟨⟨t, result, -, again⟩, joined, returns⟩ := normalize_lines some_fragment
  obtain rfl : t = "\na\n" := Option.some.inj (result.symm.trans made)
  refine ⟨some_fragment, made, again, joined false, (returns _ ?_).trans made⟩
  exact .cons (.lineEnd (.byte 32 (.byte 97 (.byte 9 (.byte 0xC2 (.byte 0xA0 .nil)))))) (.cons .nil .nil)

end DocAccessors
