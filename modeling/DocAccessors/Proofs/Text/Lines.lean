import DocAccessors.Proofs.Text.Utf8
import DocAccessors.Text.Class
import Mathlib.Data.List.DropRight

/-!
# Lines and the white space around them

* `split_append`, `split_join`, `join_split`: cutting at a separator undoes joining, as long as no part holds the
  separator, and joining undoes cutting;
* `glyphs_trim`: trimming drops white space at both ends of the glyphs, and nothing else;
* `trim_trim`, `trim_append_return`: a trimmed text stays as it is, and a carriage return at the end counts as white
  space.
-/

namespace DocAccessors.Text

/-! ## Cutting and joining -/

theorem split_ne_nil (sep : UInt8) (t : Text) : split sep t ≠ [] := by
  fun_cases split sep t <;> simp_all

theorem split_append (sep : UInt8) (a b : Text) : split sep (a ++ sep :: b) = split sep a ++ split sep b := by
  induction a with
  | nil => simp [split]
  | cons c a ih =>
    rw [List.cons_append, split, split]
    by_cases h : c = sep
    · simp [h, ih]
    · obtain ⟨l, ls, cut⟩ := List.exists_cons_of_ne_nil (split_ne_nil sep a)
      simp [h, ih, cut]

theorem split_of_notMem {sep : UInt8} {t : Text} (h : sep ∉ t) : split sep t = [t] := by
  induction t with
  | nil => rfl
  | cons c t ih =>
    rw [List.mem_cons, not_or] at h
    rw [split, if_neg (by simpa using Ne.symm h.1), ih h.2]

theorem notMem_of_mem_split {sep : UInt8} {t l : Text} (h : l ∈ split sep t) : sep ∉ l := by
  induction t generalizing l with
  | nil => simp_all [split]
  | cons c t ih =>
    rw [split] at h
    by_cases hc : c = sep
    · rw [if_pos (by simpa using hc)] at h
      rcases List.mem_cons.1 h with rfl | h
      · simp
      · exact ih h
    · rw [if_neg (by simpa using hc)] at h
      split at h
      · rw [List.mem_singleton] at h
        subst h
        simpa using Ne.symm hc
      · next first rest cut =>
        rcases List.mem_cons.1 h with rfl | h
        · have : sep ∉ first := ih (by simp [cut])
          simp [Ne.symm hc, this]
        · exact ih (by simp [cut, h])

theorem split_join {sep : UInt8} {ts : List Text} (hne : ts ≠ []) (h : ∀ t ∈ ts, sep ∉ t) :
    split sep (join [sep] ts) = ts := by
  induction ts with
  | nil => exact absurd rfl hne
  | cons t ts ih =>
    have first : split sep t = [t] := split_of_notMem (h t (by simp))
    cases ts with
    | nil => exact first
    | cons u us =>
      rw [join, List.append_assoc, List.singleton_append, split_append, first,
        ih (by simp) fun x hx => h x (by simp [hx]), List.singleton_append]
      simp

theorem join_cons_cons (sep t u : Text) (us : List Text) :
    join sep (t :: u :: us) = t ++ sep ++ join sep (u :: us) := rfl

/-- Joining undoes cutting at a separator. -/
theorem join_split (sep : UInt8) (t : Text) : join [sep] (split sep t) = t := by
  induction t with
  | nil => rfl
  | cons b t ih =>
    obtain ⟨l, ls, cut⟩ := List.exists_cons_of_ne_nil (split_ne_nil sep t)
    rw [split]
    rw [cut] at ih ⊢
    by_cases h : b = sep
    · rw [if_pos (by simpa using h), join_cons_cons, ih, h]
      rfl
    · rw [if_neg (by simpa using h), ← ih]
      cases ls <;> rfl

/-! ## Trimming -/

variable {t : Text}

/-- White space at both ends of glyphs is dropped, and nothing else. -/
def trimGlyphs (gs : List Glyph) : List Glyph :=
  (gs.dropWhile fun g => isSpace g.char).rdropWhile fun g => isSpace g.char

theorem glyphs_trimStart (t : Text) : glyphs (trimStart t) = (glyphs t).dropWhile fun g => isSpace g.char := by
  have cut : glyphs t = (glyphs t).takeWhile (fun g => isSpace g.char) ++ (glyphs t).dropWhile fun g => isSpace g.char :=
    List.takeWhile_append_dropWhile.symm
  exact (glyphs_of_append cut).2

theorem glyphs_trimEnd (t : Text) : glyphs (trimEnd t) = (glyphs t).rdropWhile fun g => isSpace g.char := by
  obtain ⟨blank, cut⟩ := List.rdropWhile_prefix (fun g : Glyph => isSpace g.char) (glyphs t)
  exact (glyphs_of_append cut.symm).1

theorem glyphs_trim (t : Text) : glyphs (trim t) = trimGlyphs (glyphs t) := by
  rw [trim, glyphs_trimEnd, glyphs_trimStart, trimGlyphs]

theorem trim_eq (t : Text) : trim t = ofGlyphs (trimGlyphs (glyphs t)) := by
  rw [← glyphs_trim, ofGlyphs_glyphs]

theorem trimGlyphs_trimGlyphs (gs : List Glyph) : trimGlyphs (trimGlyphs gs) = trimGlyphs gs := by
  have start : (trimGlyphs gs).dropWhile (fun g => isSpace g.char) = trimGlyphs gs := by
    unfold trimGlyphs
    have first := List.head?_dropWhile_not (fun g : Glyph => isSpace g.char) gs
    cases rest : gs.dropWhile fun g => isSpace g.char with
    | nil => rfl
    | cons g rest' =>
      -- what is left of the end has the same first glyph, unless nothing is left
      rw [rest] at first
      obtain ⟨blank, cut⟩ := List.rdropWhile_prefix (fun g : Glyph => isSpace g.char) (g :: rest')
      cases kept : (g :: rest').rdropWhile fun g => isSpace g.char with
      | nil => rfl
      | cons k kept' =>
        rw [kept, List.cons_append] at cut
        rw [(List.cons.inj cut).1, List.dropWhile_cons_of_neg (by simpa using first)]
  unfold trimGlyphs at start ⊢
  rw [start, List.rdropWhile_idempotent]

theorem trim_trim (t : Text) : trim (trim t) = trim t := by
  rw [trim_eq (trim t), glyphs_trim, trimGlyphs_trimGlyphs, ← trim_eq]

/-- A carriage return at the end is dropped with the white space before it. -/
theorem trim_append_return (t : Text) : trim (t ++ [13]) = trim t := by
  have last : glyphs (t ++ [13]) = glyphs t ++ [⟨'\r', [13]⟩] := glyphs_append_ascii (by decide) t []
  have space : isSpace '\r' = true := by decide
  rw [trim_eq, trim_eq, last, trimGlyphs, trimGlyphs, List.dropWhile_append]
  split
  · next blank =>
    rw [List.isEmpty_iff.1 blank]
    simp [space]
  · rw [List.rdropWhile_concat_pos (fun g : Glyph => isSpace g.char) _ _ space]

/-- Trimming leaves only bytes of the text. -/
theorem mem_of_mem_trim {b : UInt8} (h : b ∈ trim t) : b ∈ t := by
  rw [trim_eq, ofGlyphs, List.mem_flatMap] at h
  obtain ⟨g, hg, hb⟩ := h
  have kept : g ∈ glyphs t := List.dropWhile_subset _ (List.rdropWhile_prefix _ _ |>.subset hg)
  rw [← ofGlyphs_glyphs t, ofGlyphs, List.mem_flatMap]
  exact ⟨g, kept, hb⟩

end DocAccessors.Text
