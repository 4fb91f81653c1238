import DocAccessors.Proofs.Text.Utf8
import DocAccessors.Text.Width
import Mathlib.Data.List.TakeWhile

/-!
# Columns by cluster and by code point

The width of a text counts each grapheme cluster once. Where every code point takes the columns that it has on its
own, a text may take more of them.

* `glyphs_clusterUnits`, `chars_clusters`: units and clusters are cut between glyphs, so the code points of a text are
  those of its clusters; `displayWidth_blanks`: a blank takes one column;
* `Widths.Lawful`: what is used of widths, and holds of those by the tables;
* `Widths.advance`: the columns of the code points of a text, each on its own;
* `Widths.Lawful.ofText_le_advance`, `ofText_eq_advance_iff`: the two measures differ when a cluster has more than one
  code point with a width.
-/

namespace DocAccessors.Text

/-! ## Units are cut between glyphs -/

/-- The lead byte of a spelling tells how many bytes follow. -/
theorem Spells.length_eq {b : UInt8} {s : Text} {n : Nat} (h : Spells (b :: s) n) : s.length = leadLength b - 1 := by
  unfold leadLength
  cases h with
  | one ha =>
    simp only [UInt8.lt_iff_toNat_lt, UInt8.reduceToNat] at ha ⊢
    rw [if_pos (by omega)]
    rfl
  | two lo hi hb =>
    simp only [UInt8.lt_iff_toNat_lt, UInt8.le_iff_toNat_le, UInt8.reduceToNat] at lo hi ⊢
    rw [if_neg (by omega), if_pos (by omega)]
    rfl
  | three lo hi hb hc =>
    simp only [UInt8.lt_iff_toNat_lt, UInt8.le_iff_toNat_le, UInt8.reduceToNat] at lo hi ⊢
    rw [if_neg (by omega), if_neg (by omega), if_pos (by omega)]
    rfl
  | four lo hi hb hc hd =>
    simp only [UInt8.lt_iff_toNat_lt, UInt8.le_iff_toNat_le, UInt8.reduceToNat] at lo hi ⊢
    rw [if_neg (by omega), if_neg (by omega), if_neg (by omega), if_pos (by omega)]
    rfl

theorem isContinuation_of_isSecondOf {a b : UInt8} (h : isSecondOf a b = true) : isContinuation b = true := by
  obtain ⟨low, high, -⟩ := isSecondOf_iff.1 h
  exact isContinuation_iff.2 ⟨low, high⟩

/-- Continuation bytes follow a lead byte, which is none of them. -/
theorem Spells.continuations {b : UInt8} {s : Text} {n : Nat} (h : Spells (b :: s) n) :
    isContinuation b = false ∧ ∀ c ∈ s, isContinuation c = true := by
  rw [← Bool.not_eq_true, isContinuation_iff]
  cases h with
  | one ha =>
    simp only [UInt8.lt_iff_toNat_lt, UInt8.reduceToNat] at ha
    exact ⟨by omega, by simp⟩
  | two lo hi hb =>
    simp only [UInt8.le_iff_toNat_le, UInt8.reduceToNat] at lo
    exact ⟨by omega, by simp [hb]⟩
  | three lo hi hb hc =>
    simp only [UInt8.le_iff_toNat_le, UInt8.reduceToNat] at lo
    exact ⟨by omega, by simp [isContinuation_of_isSecondOf hb, hc]⟩
  | four lo hi hb hc hd =>
    simp only [UInt8.le_iff_toNat_le, UInt8.reduceToNat] at lo
    exact ⟨by omega, by simp [isContinuation_of_isSecondOf hb, hc, hd]⟩

/-- A continuation byte that starts a text is no part of a code point. -/
theorem glyphs_continuation {b : UInt8} (hb : isContinuation b = true) (r : Text) :
    glyphs (b :: r) = Glyph.invalid b :: glyphs r := by
  rcases exists_spelling_cons b r with ⟨s, rest, n, -, spelled⟩ | invalid
  · rw [spelled.continuations.1] at hb
    cases hb
  · exact invalid

theorem glyphs_continuations_append {s : Text} (hs : ∀ b ∈ s, isContinuation b = true) (r : Text) :
    glyphs (s ++ r) = glyphs s ++ glyphs r := by
  induction s with
  | nil => rfl
  | cons b s ih =>
    obtain ⟨first, others⟩ := List.forall_mem_cons.1 hs
    rw [List.cons_append, glyphs_continuation first, glyphs_continuation first, ih others, List.cons_append]

/-- The bytes of a sequence behind its first byte. -/
def sequenceTail (b : UInt8) (r : Text) : Text := (r.take (leadLength b - 1)).takeWhile isContinuation

theorem glyphs_sequence (b : UInt8) (r : Text) :
    glyphs (b :: r) = glyphs (b :: sequenceTail b r) ++ glyphs (r.drop (sequenceTail b r).length) := by
  rcases exists_spelling_cons b r with ⟨s, rest, n, rfl, spelled⟩ | invalid
  · -- a code point is a whole sequence
    have tail : sequenceTail b (s ++ rest) = s := by
      rw [sequenceTail, ← spelled.length_eq, List.take_left, List.takeWhile_eq_self_iff.2 spelled.continuations.2]
    have alone := spelled.glyphs_append []
    rw [List.append_nil] at alone
    rw [tail, List.drop_left, alone, ← List.cons_append, spelled.glyphs_append]
    rfl
  · -- behind an undecodable byte only continuation bytes are taken, and no code point starts with one
    have cut : sequenceTail b r ++ r.drop (sequenceTail b r).length = r :=
      List.prefix_iff_eq_append.1 ((List.takeWhile_prefix _).trans (List.take_prefix _ _))
    have continuations : ∀ c ∈ sequenceTail b r, isContinuation c = true := fun c hc => List.mem_takeWhile_imp hc
    have first : glyphs (b :: sequenceTail b r) = Glyph.invalid b :: glyphs (sequenceTail b r) :=
      glyphs_invalid_of_append (v := r.drop (sequenceTail b r).length) (by rw [cut]; exact invalid)
    rw [invalid, first, List.cons_append, ← glyphs_continuations_append continuations, cut]

/-- **Units are cut between glyphs.** -/
theorem glyphs_clusterUnits (t : Text) : (clusterUnits t).flatMap (fun u => glyphs u.bytes) = glyphs t := by
  fun_induction clusterUnits t with
  | case1 => rfl
  | case2 b r more short => simp
  | case3 b r more long tail ih =>
    rw [List.flatMap_cons, ih]
    exact (glyphs_sequence b r).symm

/-! ## Clusters are cut between glyphs -/

/-- The parts are cut between glyphs. -/
def CutBetween (ts : List Text) : Prop := ts.flatMap glyphs = glyphs ts.flatten

theorem ofGlyphs_flatMap_glyphs (ts : List Text) : ofGlyphs (ts.flatMap glyphs) = ts.flatten := by
  induction ts with
  | nil => rfl
  | cons t ts ih =>
    rw [List.flatMap_cons, List.flatten_cons, ofGlyphs, List.flatMap_append]
    exact congrArg₂ (· ++ ·) (ofGlyphs_glyphs t) ih

namespace CutBetween

variable {t u : Text} {ts : List Text}

theorem rest (h : CutBetween (t :: ts)) : CutBetween ts := by
  have cut := (glyphs_of_append (h.symm.trans List.flatMap_cons)).2
  rw [ofGlyphs_flatMap_glyphs] at cut
  exact cut.symm

/-- Parts next to each other may be put together. -/
theorem merge (h : CutBetween (t :: u :: ts)) : CutBetween ((t ++ u) :: ts) := by
  have both : glyphs t ++ glyphs u = glyphs (t ++ u) := by
    have cut : glyphs (t :: u :: ts).flatten = (glyphs t ++ glyphs u) ++ ts.flatMap glyphs := by
      rw [← h, List.flatMap_cons, List.flatMap_cons, List.append_assoc]
    have first := (glyphs_of_append cut).1
    rw [ofGlyphs, List.flatMap_append] at first
    rw [← first]
    exact congrArg glyphs (congrArg₂ (· ++ ·) (ofGlyphs_glyphs t) (ofGlyphs_glyphs u))
  unfold CutBetween at h ⊢
  rw [List.flatMap_cons, List.flatMap_cons, ← List.append_assoc, both] at h
  rw [List.flatMap_cons, h, List.flatten_cons, List.flatten_cons, List.flatten_cons, List.append_assoc]

end CutBetween

theorem cutBetween_clustersFrom {s : ClusterState} {cluster : Text} {us : List ClusterUnit}
    (h : CutBetween (cluster :: us.map (·.bytes))) :
    (clustersFrom s cluster us).flatMap glyphs = glyphs (cluster ++ (us.map (·.bytes)).flatten) := by
  induction us generalizing s cluster with
  | nil => simp [clustersFrom]
  | cons u us ih =>
    rw [List.map_cons] at h ⊢
    have joined : cluster ++ (u.bytes :: us.map (·.bytes)).flatten =
        (cluster ++ u.bytes) ++ (us.map (·.bytes)).flatten := by
      rw [List.flatten_cons, List.append_assoc]
    unfold clustersFrom
    split
    · rw [ih h.merge, joined]
    · -- a unit with a class joins the open cluster or closes it
      split
      · rw [ih h.merge, joined]
      · rw [List.flatMap_cons, ih h.rest, ← List.flatten_cons, ← h.rest]
        exact h

/-- **Clusters are cut between glyphs**: the code points of a text are those of its clusters. -/
theorem chars_clusters (t : Text) : (clusters t).flatMap chars = chars t := by
  have units : ((clusterUnits t).map (·.bytes)).flatMap glyphs = glyphs t := by
    rw [List.flatMap_map]
    exact glyphs_clusterUnits t
  have bytes : ((clusterUnits t).map (·.bytes)).flatten = t := by
    rw [← ofGlyphs_flatMap_glyphs, units, ofGlyphs_glyphs]
  have cut : (clusters t).flatMap glyphs = glyphs t := by
    have between : CutBetween ((clusterUnits t).map (·.bytes)) := units.trans (by rw [bytes])
    unfold clusters
    cases parts : clusterUnits t with
    | nil =>
      rw [parts] at bytes
      rw [← bytes]
      rfl
    | cons u us =>
      rw [parts, List.map_cons] at between bytes
      exact (cutBetween_clustersFrom between).trans (congrArg glyphs bytes)
  rw [chars, ← cut, List.map_flatMap]
  rfl

/-! ## Blanks -/

theorem clusterUnits_blanks (n : Nat) :
    clusterUnits (List.replicate n 32) = List.replicate n ⟨[32], some .other⟩ := by
  induction n with
  | zero => simp [clusterUnits]
  | succ n ih =>
    have alone : leadLength 32 - 1 = 0 := by decide
    have class_other : classOfBytes [32] = .other := by decide
    rw [List.replicate_succ, clusterUnits]
    simp [alone, class_other, ih, List.replicate_succ]

theorem clustersFrom_blanks {s : ClusterState} (last : s.last = .other) (cluster : Text) (n : Nat) :
    clustersFrom s cluster (List.replicate n ⟨[32], some .other⟩) = cluster :: List.replicate n [32] := by
  induction n generalizing s cluster with
  | zero => rfl
  | succ n ih =>
    have apart : s.continues .other = false := by
      unfold ClusterState.continues
      rw [last]
    rw [List.replicate_succ, clustersFrom]
    simp only [apart, Bool.false_eq_true, if_false]
    rw [ih rfl, List.replicate_succ]

theorem clusters_blanks (n : Nat) : clusters (List.replicate n 32) = List.replicate n [32] := by
  unfold clusters
  rw [clusterUnits_blanks]
  cases n with
  | zero => rfl
  | succ n => exact clustersFrom_blanks rfl [32] n

theorem displayWidth_blanks (n : Nat) : displayWidth (List.replicate n 32) = n := by
  have blank : clusterWidth [32] = 1 := by decide
  rw [displayWidth, clusters_blanks, List.map_replicate, blank]
  induction n with
  | zero => rfl
  | succ n ih => rw [List.replicate_succ, total, ih, Nat.add_comm]

/-! ## Widths as given -/

namespace Widths

section Measures

variable [Widths]

/-- The width of the first code point of a text that has one. -/
def ofCluster (t : Text) : Nat := (((chars t).map ofChar).find? (0 < ·)).getD 0

/-- The columns of the code points of a text, each on its own. -/
def advance (t : Text) : Nat := total ((chars t).map ofChar)

/-- At most one code point has a width. -/
def IsSingle (t : Text) : Prop := ((chars t).filter fun c => 0 < ofChar c).length ≤ 1

instance (t : Text) : Decidable (IsSingle t) := inferInstanceAs (Decidable (_ ≤ _))

end Measures

/-- What widths have in common. -/
structure Lawful (w : Widths) : Prop where
  /-- Clusters are cut between code points. -/
  chars_clusters : ∀ t, (w.clusters t).flatMap chars = chars t
  /-- A text is as wide as its clusters, each as wide as its first code point that has a width. -/
  ofText_eq : ∀ t, w.ofText t = total ((w.clusters t).map w.ofCluster)
  ofText_blanks : ∀ n, w.ofText (List.replicate n 32) = n

theorem lawful_unicode : unicodeWidths.Lawful := ⟨Text.chars_clusters, fun _ => rfl, displayWidth_blanks⟩

theorem total_eq_zero_iff (ws : List Nat) : total ws = 0 ↔ (ws.filter (0 < ·)).length = 0 := by
  induction ws with
  | nil => simp [total]
  | cons w ws ih => cases w <;> simp [total, ih]

/-- The first number above zero is at most the sum, and it is the sum if no other is above zero. -/
theorem find?_le_total (ws : List Nat) : (ws.find? (0 < ·)).getD 0 ≤ total ws ∧
    ((ws.find? (0 < ·)).getD 0 = total ws ↔ (ws.filter (0 < ·)).length ≤ 1) := by
  induction ws with
  | nil => simp [total]
  | cons w ws ih =>
    cases w with
    | zero => simpa [total] using ih
    | succ w =>
      have first : ((w + 1) :: ws).find? (0 < ·) = some (w + 1) := List.find?_cons_of_pos (by simp)
      have others := total_eq_zero_iff ws
      rw [first, Option.getD_some, total, List.filter_cons_of_pos (by simp), List.length_cons]
      omega

theorem ofCluster_le_advance [Widths] (t : Text) : ofCluster t ≤ advance t := (find?_le_total _).1

theorem ofCluster_eq_advance_iff [Widths] {t : Text} : ofCluster t = advance t ↔ IsSingle t := by
  unfold ofCluster advance IsSingle
  rw [(find?_le_total _).2, List.filter_map, List.length_map]
  rfl

theorem total_map_le {f g : α → Nat} (h : ∀ x, f x ≤ g x) (xs : List α) :
    total (xs.map f) ≤ total (xs.map g) ∧ (total (xs.map f) = total (xs.map g) ↔ ∀ x ∈ xs, f x = g x) := by
  induction xs with
  | nil => simp
  | cons x xs ih =>
    have head := h x
    simp only [List.map_cons, total, List.forall_mem_cons, ← ih.2]
    omega

namespace Lawful

variable {w : Widths} (h : w.Lawful)
include h

theorem advance_eq_total_clusters (t : Text) : w.advance t = total ((w.clusters t).map w.advance) := by
  rw [advance, ← h.chars_clusters]
  induction w.clusters t with
  | nil => rfl
  | cons c cs ih =>
    rw [List.flatMap_cons, List.map_append, total_append, ih]
    rfl

/-- The width of a text is at most that of its code points. -/
theorem ofText_le_advance (t : Text) : w.ofText t ≤ w.advance t := by
  rw [h.advance_eq_total_clusters, h.ofText_eq]
  exact (total_map_le w.ofCluster_le_advance _).1

/-- **The width of a text is that of its code points** if and only if no cluster has two code points with a width. -/
theorem ofText_eq_advance_iff {t : Text} : w.ofText t = w.advance t ↔ ∀ c ∈ w.clusters t, w.IsSingle c := by
  rw [h.advance_eq_total_clusters, h.ofText_eq, (total_map_le w.ofCluster_le_advance _).2]
  exact forall₂_congr fun c _ => w.ofCluster_eq_advance_iff

end Lawful

end Widths

end DocAccessors.Text
