import DocAccessors.Proofs.Diagnostic.Report
import DocAccessors.Proofs.Text.Lines
import DocAccessors.Proofs.Text.Width

/-!
# The caret below a line

The caret stands behind blanks that take the place of the text before it. Tabs are kept, so that they reach as far in both
lines; between tabs each code point gives way to as many blanks as it has columns.

* `pad_join`, `pad_of_notMem`: tabs stay where they are, and the text between them becomes blanks;
* `pad_width`: between tabs the blanks are as wide as the text or wider, and when they are wider.
-/

namespace DocAccessors

namespace Text

/-- A text without tabs spells none. -/
theorem tab_notMem_chars {t : Text} (h : 9 ∉ t) : '\t' ∉ chars t := by
  intro tab
  obtain ⟨g, hg, char⟩ := List.mem_map.1 tab
  have inside : ∀ b ∈ g.bytes, b ∈ t := fun b hb => by
    rw [← ofGlyphs_glyphs t]
    exact List.mem_flatMap.2 ⟨g, hg, hb⟩
  rcases spelled_or_invalid t g hg with spelled | ⟨b, rfl⟩
  · rw [char] at spelled
    exact h (inside 9 (by rw [spelled]; decide))
  · cases char

end Text

namespace Report

open Text (Widths chars)
open Text.Widths (advance ofChar ofText clusters IsSingle)

section Widths

variable [w : Widths]

/-! ## Blanks and tabs -/

theorem flatMap_blanks {cs : List Char} (h : '\t' ∉ cs) :
    (cs.flatMap fun c => if c == '\t' then text "\t" else List.replicate (ofChar c) 32) =
      List.replicate (total (cs.map ofChar)) 32 := by
  induction cs with
  | nil => rfl
  | cons c cs ih =>
    rw [List.mem_cons, not_or] at h
    have other : (c == '\t') = false := beq_eq_false_iff_ne.2 (Ne.symm h.1)
    rw [List.flatMap_cons, ih h.2, other, List.map_cons, total, List.replicate_add]
    rfl

/-- Where there is no tab, each code point gives way to its columns. -/
theorem pad_of_notMem {t : Text} (h : 9 ∉ t) : pad t = List.replicate (advance t) 32 :=
  flatMap_blanks (Text.tab_notMem_chars h)

theorem pad_append_tab (t r : Text) : pad (t ++ 9 :: r) = pad t ++ 9 :: pad r := by
  have cut : chars (t ++ 9 :: r) = chars t ++ '\t' :: chars r := by
    unfold chars
    rw [Text.glyphs_append_ascii (by decide), Text.glyphs_ascii (by decide), List.map_append, List.map_cons]
    rfl
  rw [pad, cut, List.flatMap_append, List.flatMap_cons]
  rfl

/-- **Tabs stay where they are.** -/
theorem pad_join (ts : List Text) : pad (Text.join [9] ts) = Text.join [9] (ts.map pad) := by
  induction ts with
  | nil => rfl
  | cons t ts ih =>
    cases ts with
    | nil => rfl
    | cons u us =>
      rw [Text.join_cons_cons, List.append_assoc, List.singleton_append, pad_append_tab, ih]
      exact List.append_cons _ _ _

/-- **The width of the blanks before the caret**, whatever the widths of code points are. Tabs stay where they are. Between tabs a text gives way to blanks, as
many as its code points have columns. They are as wide as the text or wider, and they are as wide as the text if and only
if no cluster of it has two code points with a width. -/
theorem pad_width (lawful : w.Lawful) (t : Text) :
    pad t = Text.join [9] ((Text.split 9 t).map pad) ∧
    ∀ p ∈ Text.split 9 t, pad p = List.replicate (advance p) 32 ∧ ofText (pad p) = advance p ∧
      ofText p ≤ ofText (pad p) ∧ (ofText (pad p) = ofText p ↔ ∀ c ∈ clusters p, IsSingle c) := by
  refine ⟨by rw [← pad_join, Text.join_split], fun p hp => ?_⟩
  have blanks := pad_of_notMem (Text.notMem_of_mem_split hp)
  have width : ofText (pad p) = advance p := by rw [blanks, lawful.ofText_blanks]
  refine ⟨blanks, width, ?_, ?_⟩
  · rw [width]
    exact lawful.ofText_le_advance p
  · rw [width, eq_comm]
    exact lawful.ofText_eq_advance_iff

end Widths

theorem pad_width_combining :
    Text.unicodeWidths.Lawful ∧ pad "e\u0301\t世" = Text.join [9] [pad "e\u0301", pad "世"] ∧
    ofText (pad "世") = ofText "世" := by
  have split : Text.split 9 "e\u0301\t世" = [text "e\u0301", text "世"] := by decide +kernel
  obtain ⟨joined, wide⟩ := pad_width Text.Widths.lawful_unicode "e\u0301\t世"
  rw [split] at joined wide
  exact ⟨Text.Widths.lawful_unicode, joined, (wide "世" (by simp)).2.2.2.2 (by decide +kernel)⟩

/-- A wide character gives way to two blanks, and a combining mark to none. -/
example : pad "e\u0301\t世" = text " \t  " := by decide +kernel

/-- A default that is one cluster of two code points, both with a width, before an option that is not known. -/
def familySource : Text := text "package p\n\n//documented:documented default = \"👩\u200d👧\", bogus\ntype T int\n"

/-- The source line up to the option. -/
def beforeOption : Text := text "//documented:documented default = \"👩\u200d👧\", "

def family : Package := (({} : Package).takeFile "a.go" familySource false).1

/-- What a report on it needs to know. -/
def familyContext : Context where
  files := some family.fileSet
  source? _ := some familySource

/-- The one diagnostic of the package quotes a line without tabs, and its caret is two columns too far to the right. -/
theorem caret_shifted :
    (processPackage .builtin family).bag.items.map (fun d => (familyContext.quoted? d.span).bind fun q =>
      (slice q.line 0 (q.extent d.span).col).toOption) = [some beforeOption] ∧
    9 ∉ beforeOption ∧ ofText beforeOption = 40 ∧ ofText (pad beforeOption) = 42 :=
  ⟨by decide +kernel, by decide +kernel, by decide +kernel, by decide +kernel⟩

end Report

end DocAccessors
