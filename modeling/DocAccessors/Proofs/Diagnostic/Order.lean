import DocAccessors.Proofs.Diagnostic.Accounting

/-!
# Diagnostics in order, each once

Sorting looks at places, dropping repetitions at positions. Diagnostics that say the same stand at the same place, so as
long as they also have the same severity they have the same sort key. Sorting keeps their order, and dropping repetitions
drops whole ends of these groups.

* `SortKey.Le`: the order of diagnostics, spelled out; `SortKey.lt_eq_false_iff` says that sorting goes by it;
* `filter_sort`: sorting keeps the order of diagnostics with equal keys, and `eq_of_precedes`: a list in order is known
  from these parts;
* `filter_dedupItems`: dropping repetitions can be done in each part by itself;
* `sort_dedup`: so it does not matter what is done first, and doing either again changes nothing.
-/

namespace DocAccessors

theorem Severity.eq_of_rank_eq {s t : Severity} (h : s.rank = t.rank) : s = t := by
  cases s <;> cases t <;> simp_all [Severity.rank]

namespace Bag

/-! ## The order of sort keys -/

namespace SortKey

variable {a b c : SortKey}

/-- Files by name, in a file by offset, at one place by falling severity, and then by code. -/
def Le (a b : SortKey) : Prop :=
  a.file < b.file ∨ a.file = b.file ∧ (a.offset < b.offset ∨ a.offset = b.offset ∧
    (b.severity.rank < a.severity.rank ∨ a.severity = b.severity ∧ a.code.number ≤ b.code.number))

theorem lt_eq_false_iff : b.lt a = false ↔ a.Le b := by
  unfold lt Le
  by_cases file : b.file = a.file
  · by_cases offset : b.offset = a.offset
    · by_cases severity : b.severity = a.severity
      · simp [file, offset, severity, List.lt_irrefl]
      · have rank : b.severity.rank ≠ a.severity.rank := fun h => severity (Severity.eq_of_rank_eq h)
        simp [file, offset, severity, Ne.symm severity, List.lt_irrefl]
        omega
    · simp [file, offset, Ne.symm offset, List.lt_irrefl]
      omega
  · rw [if_pos (by simpa using file), ← Bool.not_eq_true, Text.lt_iff]
    rcases Std.lt_trichotomy a.file b.file with h | h | h
    · simp [h, List.not_lt, List.le_of_lt h]
    · exact absurd h.symm file
    · simp [h, Ne.symm file, List.le_of_lt h]

theorem Le.trans (h : a.Le b) (h' : b.Le c) : a.Le c := by
  have files : a.file < b.file → b.file < c.file → a.file < c.file := List.lt_trans
  unfold Le at *
  grind

theorem Le.total (a b : SortKey) : a.Le b ∨ b.Le a := by
  have files := Std.lt_trichotomy a.file b.file
  have ranks : a.severity.rank = b.severity.rank → a.severity = b.severity := Severity.eq_of_rank_eq
  unfold Le
  grind

theorem Le.antisymm (h : a.Le b) (h' : b.Le a) : a = b := by
  have files : ¬ (a.file < b.file ∧ b.file < a.file) := fun h => List.lt_irrefl _ (List.lt_trans h.1 h.2)
  have irrefl : ¬ b.file < b.file := List.lt_irrefl _
  obtain ⟨aFile, aOffset, aSeverity, aCode⟩ := a
  obtain ⟨bFile, bOffset, bSeverity, bCode⟩ := b
  obtain ⟨aNumber⟩ := aCode
  obtain ⟨bNumber⟩ := bCode
  unfold Le at *
  simp only [mk.injEq, Code.mk.injEq]
  grind

end SortKey

/-! ## Sorting -/

variable {files : Option FileSet} {b : Bag} {x y : Diagnostic} {l l' : List Diagnostic}

/-- The order of diagnostics: that of their sort keys. -/
def Precedes (files : Option FileSet) (x y : Diagnostic) : Prop := (sortKey files x).Le (sortKey files y)

theorem Precedes.of_not_lt (h : (!(sortKey files y).lt (sortKey files x)) = true) : Precedes files x y :=
  SortKey.lt_eq_false_iff.1 (by simpa using h)

theorem Precedes.refl (files : Option FileSet) (x : Diagnostic) : Precedes files x x :=
  (SortKey.Le.total (sortKey files x) (sortKey files x)).elim id id

theorem Precedes.not_lt (h : Precedes files x y) : (!(sortKey files y).lt (sortKey files x)) = true := by
  simpa using SortKey.lt_eq_false_iff.2 h

theorem items_sort (files : Option FileSet) (b : Bag) :
    (b.sort files).items = b.items.mergeSort fun x y => !(sortKey files y).lt (sortKey files x) := by
  let keyed := b.items.map fun d => (sortKey files d, d)
  have key : ∀ x ∈ keyed, x.1 = sortKey files x.2 := by simp [keyed]
  have sorted : (keyed.mergeSort fun x y => !y.1.lt x.1).map Prod.snd =
      (keyed.map Prod.snd).mergeSort fun x y => !(sortKey files y).lt (sortKey files x) :=
    List.map_mergeSort fun x hx y hy => by rw [key x hx, key y hy]
  have all : keyed.map Prod.snd = b.items := by
    rw [List.map_map]
    exact List.map_id b.items
  rw [all] at sorted
  exact sorted

theorem precedes_trans (x y z : Diagnostic) (h : (!(sortKey files y).lt (sortKey files x)) = true)
    (h' : (!(sortKey files z).lt (sortKey files y)) = true) : (!(sortKey files z).lt (sortKey files x)) = true :=
  Precedes.not_lt ((Precedes.of_not_lt h).trans (Precedes.of_not_lt h'))

theorem precedes_total (x y : Diagnostic) :
    ((!(sortKey files y).lt (sortKey files x)) || (!(sortKey files x).lt (sortKey files y))) = true := by
  rw [Bool.or_eq_true]
  exact (SortKey.Le.total (sortKey files x) (sortKey files y)).imp Precedes.not_lt Precedes.not_lt

theorem pairwise_sort (files : Option FileSet) (b : Bag) : (b.sort files).items.Pairwise (Precedes files) := by
  rw [items_sort]
  exact (List.pairwise_mergeSort precedes_trans precedes_total b.items).imp Precedes.of_not_lt

theorem sort_of_pairwise (h : b.items.Pairwise (Precedes files)) : b.sort files = b := by
  have same : (b.sort files).items = b.items := by
    rw [items_sort]
    exact List.mergeSort_of_pairwise (h.imp Precedes.not_lt)
  change { b with items := (b.sort files).items } = b
  rw [same]

/-- **Sorting is stable**: diagnostics with equal keys keep their order. -/
theorem filter_sort (files : Option FileSet) (b : Bag) (k : SortKey) :
    (b.sort files).items.filter (sortKey files · = k) = b.items.filter (sortKey files · = k) := by
  have equal : (b.items.filter (sortKey files · = k)).Pairwise (Precedes files) := by
    refine List.pairwise_of_forall_mem_list fun x hx y hy => ?_
    have hx := of_decide_eq_true (List.mem_filter.1 hx).2
    have hy := of_decide_eq_true (List.mem_filter.1 hy).2
    rw [Precedes, hx, ← hy]
    exact Precedes.refl files y
  -- what is in order already is found again in the sorted list
  have found : (b.items.filter (sortKey files · = k)).Sublist (b.sort files).items := by
    rw [items_sort]
    exact List.sublist_mergeSort precedes_trans precedes_total (equal.imp Precedes.not_lt) List.filter_sublist
  have kept := found.filter (sortKey files · = k)
  rw [List.filter_filter] at kept
  simp only [Bool.and_self] at kept
  exact (kept.eq_of_length ((items_sort_perm files b).filter _).length_eq.symm).symm

/-- **A list in order is known from its parts with equal keys.** -/
theorem eq_of_precedes (ordered : l.Pairwise (Precedes files)) (ordered' : l'.Pairwise (Precedes files))
    (parts : ∀ k, l.filter (sortKey files · = k) = l'.filter (sortKey files · = k)) : l = l' := by
  induction l generalizing l' with
  | nil =>
    cases l' with
    | nil => rfl
    | cons y l' => simpa using parts (sortKey files y)
  | cons x l ih =>
    cases l' with
    | nil => simpa using parts (sortKey files x)
    | cons y l' =>
      obtain ⟨first, later⟩ := List.pairwise_cons.1 ordered
      obtain ⟨first', later'⟩ := List.pairwise_cons.1 ordered'
      have mem_of_parts {z : Diagnostic} : z ∈ x :: l ↔ z ∈ y :: l' := by
        have part := congrArg (z ∈ ·) (parts (sortKey files z))
        simpa only [List.mem_filter, decide_true, and_true, eq_iff_iff] using part
      have le : Precedes files x y := by
        rcases List.mem_cons.1 (mem_of_parts.2 List.mem_cons_self) with h | h
        · exact h ▸ Precedes.refl files _
        · exact first y h
      have ge : Precedes files y x := by
        rcases List.mem_cons.1 (mem_of_parts.1 List.mem_cons_self) with h | h
        · exact h ▸ Precedes.refl files _
        · exact first' x h
      have key : sortKey files x = sortKey files y := SortKey.Le.antisymm le ge
      obtain rfl : x = y := by
        have part := parts (sortKey files x)
        rw [List.filter_cons_of_pos (by simp), List.filter_cons_of_pos (by simp [key])] at part
        exact (List.cons.inj part).1
      have rest (k : SortKey) : l.filter (sortKey files · = k) = l'.filter (sortKey files · = k) := by
        have part := parts k
        rw [List.filter_cons, List.filter_cons] at part
        split at part
        · exact (List.cons.inj part).2
        · exact part
      rw [ih later later' rest]

/-! ## Dropping repetitions -/

/-- No two of the diagnostics that remain say the same. -/
theorem nodup_dedupItems (seen l : List Diagnostic) : ((dedupItems seen l).map said).Nodup := by
  induction l generalizing seen with
  | nil => exact List.nodup_nil
  | cons d l ih =>
    unfold dedupItems
    split
    · exact ih seen
    · rw [List.map_cons, List.nodup_cons]
      refine ⟨fun repeated => ?_, ih _⟩
      obtain ⟨y, hy, same⟩ := List.mem_map.1 repeated
      exact (mem_dedupItems_iff.1 hy).1 d List.mem_cons_self same.symm

/-- Diagnostics that all say something else remain. -/
theorem dedupItems_of_nodup {seen : List Diagnostic} (distinct : (l.map said).Nodup)
    (fresh : ∀ d ∈ l, ∀ s ∈ seen, said s ≠ said d) : dedupItems seen l = l := by
  induction l generalizing seen with
  | nil => rfl
  | cons d l ih =>
    rw [List.map_cons, List.nodup_cons] at distinct
    obtain ⟨other, distinct⟩ := distinct
    obtain ⟨fresh_first, fresh⟩ := List.forall_mem_cons.1 fresh
    have new : ¬ seen.any (same d) = true := by
      rw [List.any_eq_true]
      rintro ⟨s, hs, same⟩
      exact fresh_first s hs (same_iff_said.1 same).symm
    rw [dedupItems, if_neg new, ih distinct]
    intro e he s hs
    rcases List.mem_cons.1 hs with rfl | hs
    · exact fun same => other (same ▸ List.mem_map_of_mem he)
    · exact fresh e he s hs

theorem dedup_of_nodup (distinct : (b.items.map said).Nodup) : b.dedup = b := by
  rw [dedup, dedupItems_of_nodup distinct (by simp)]

/-- **Repetitions can be dropped in a part of the diagnostics by itself**, if those that say the same are all in the part
or all outside. -/
theorem filter_dedupItems {p : Diagnostic → Bool} {seen : List Diagnostic}
    (whole : ∀ d ∈ l, ∀ e ∈ l, said d = said e → p d = p e)
    (whole_seen : ∀ d ∈ l, ∀ s ∈ seen, said d = said s → p d = p s) :
    (dedupItems seen l).filter p = dedupItems (seen.filter p) (l.filter p) := by
  induction l generalizing seen with
  | nil => rfl
  | cons d l ih =>
    have rest (e : Diagnostic) (he : e ∈ l) (f : Diagnostic) (hf : f ∈ l) : said e = said f → p e = p f :=
      whole e (List.mem_cons_of_mem d he) f (List.mem_cons_of_mem d hf)
    have rest_seen (e : Diagnostic) (he : e ∈ l) (s : Diagnostic) (hs : s ∈ seen) : said e = said s → p e = p s :=
      whole_seen e (List.mem_cons_of_mem d he) s hs
    have rest_more (e : Diagnostic) (he : e ∈ l) (s : Diagnostic) (hs : s ∈ d :: seen) : said e = said s → p e = p s := by
      rcases List.mem_cons.1 hs with rfl | hs
      · exact whole e (List.mem_cons_of_mem _ he) _ List.mem_cons_self
      · exact rest_seen e he s hs
    cases inside : p d with
    | false =>
      rw [List.filter_cons_of_neg (by simp [inside]), dedupItems]
      split
      · exact ih rest rest_seen
      · rw [List.filter_cons_of_neg (by simp [inside]), ih rest rest_more, List.filter_cons_of_neg (by simp [inside])]
    | true =>
      have seen_iff : (seen.filter p).any (same d) = seen.any (same d) := by
        rw [Bool.eq_iff_iff, List.any_eq_true, List.any_eq_true]
        refine exists_congr fun s => ?_
        rw [List.mem_filter, and_assoc]
        refine and_congr_right fun hs => and_iff_right_of_imp fun alike => ?_
        rw [← whole_seen d List.mem_cons_self s hs (same_iff_said.1 alike), inside]
      rw [List.filter_cons_of_pos inside, dedupItems, dedupItems, seen_iff]
      split
      · exact ih rest rest_seen
      · rw [List.filter_cons_of_pos inside, ih rest rest_more, List.filter_cons_of_pos inside]

/-! ## Both -/

/-- Diagnostics of the bag that say the same are equally bad. -/
def Agrees (b : Bag) : Prop := ∀ x ∈ b.items, ∀ y ∈ b.items, said x = said y → x.severity = y.severity

theorem sortKey_eq (files : Option FileSet) (same : said x = said y) (severity : x.severity = y.severity) :
    sortKey files x = sortKey files y := by
  obtain ⟨code, pos, -⟩ : x.code = y.code ∧ x.span.pos = y.span.pos ∧ x.message = y.message := by
    simpa [said] using same
  unfold sortKey
  rw [code, pos, severity]

/-- Dropping repetitions keeps the parts of the diagnostics with equal keys apart. -/
theorem filter_dedup (h : b.Agrees) (files : Option FileSet) (k : SortKey) :
    b.dedup.items.filter (sortKey files · = k) = dedupItems [] (b.items.filter (sortKey files · = k)) := by
  refine filter_dedupItems (fun x hx y hy same => ?_) (by simp)
  rw [sortKey_eq files same (h x hx y hy same)]

theorem Agrees.sort (h : b.Agrees) (files : Option FileSet) : (b.sort files).Agrees :=
  fun x hx y hy => h x (mem_sort.1 hx) y (mem_sort.1 hy)

/-- Sorting before or after dropping repetitions comes to the same. -/
theorem sort_dedup_comm (h : b.Agrees) (files : Option FileSet) : b.dedup.sort files = (b.sort files).dedup := by
  have items : (b.dedup.sort files).items = (b.sort files).dedup.items := by
    refine eq_of_precedes (pairwise_sort files b.dedup)
      ((pairwise_sort files b).sublist (items_dedup_sublist (b.sort files))) fun k => ?_
    rw [filter_sort, filter_dedup h, filter_dedup (h.sort files), filter_sort]
  change { b with items := (b.dedup.sort files).items } = { b with items := (b.sort files).dedup.items }
  rw [items]

/-- **Sorting and dropping repetitions.** In a bag whose diagnostics that say the same are equally bad, it does not matter
which of the two is done first. The diagnostics are then in order, no two of them say the same, of all those that said the
same it is the first one that is left, and sorting or dropping repetitions again, however often, changes nothing. -/
theorem sort_dedup (files : Option FileSet) {b : Bag}
    (agree : ∀ x ∈ b.items, ∀ y ∈ b.items,
      x.code = y.code → x.span.pos = y.span.pos → x.message = y.message → x.severity = y.severity) :
    let r := b.dedup.sort files
    r = (b.sort files).dedup ∧
    r.items.Pairwise (fun x y => (sortKey files x).Le (sortKey files y)) ∧
    r.items.Pairwise (fun x y => ¬ (x.code = y.code ∧ x.span.pos = y.span.pos ∧ x.message = y.message)) ∧
    (∀ x ∈ b.items, ∃ y ∈ r.items,
      b.items.find? (fun z => z.code = x.code ∧ z.span.pos = x.span.pos ∧ z.message = x.message) = some y) ∧
    ∀ os, (∀ o ∈ os, o = .sort files ∨ o = .dedup) → r.run os = r := by
  intro r
  have agrees : b.Agrees := fun x hx y hy same => by
    obtain ⟨code, pos, message⟩ := said_eq_iff.1 same
    exact agree x hx y hy code pos message
  have comm : r = (b.sort files).dedup := sort_dedup_comm agrees files
  have ordered : r.items.Pairwise (Precedes files) := pairwise_sort files b.dedup
  have distinct : (r.items.map said).Nodup := by
    rw [comm]
    exact nodup_dedupItems [] _
  simp only [← said_eq_iff]
  refine ⟨comm, ordered, List.pairwise_map.1 distinct, fun x hx => ?_, fun os calls => ?_⟩
  · obtain ⟨y, first⟩ : ∃ y, b.items.find? (said · = said x) = some y :=
      Option.isSome_iff_exists.1 (List.find?_isSome.2 ⟨x, hx, by simp⟩)
    have same : said y = said x := by simpa using List.find?_some first
    exact ⟨y, mem_sort.2 (mem_dedup_iff.2 (same ▸ first)), first⟩
  · induction os with
    | nil => rfl
    | cons o os ih =>
      obtain ⟨call, calls⟩ := List.forall_mem_cons.1 calls
      have once : o.apply r = r := by
        rcases call with rfl | rfl
        · exact sort_of_pairwise ordered
        · exact dedup_of_nodup distinct
      change (o.apply r).run os = r
      rw [once]
      exact ih calls

/-- Two files, the second one first by name. -/
def twoFiles : FileSet := (({} : FileSet).add ⟨"b.go", 1, 100, [0], []⟩).add ⟨"a.go", 102, 100, [0], []⟩

/-- Diagnostics in both files; one of them is repeated without its note. -/
def twoFilesBag : Bag :=
  (empty 10).addAll [.error .unknownOption ⟨4, 5⟩ "third",
    (Diagnostic.error .unknownOption ⟨112, 115⟩ "second").withNote ⟨103, 104⟩ "see here",
    .warning .unknownOption ⟨103, 104⟩ "first", .error .unknownOption ⟨112, 113⟩ "second"]

theorem sort_dedup_twoFiles :
    (∀ x ∈ twoFilesBag.items, ∀ y ∈ twoFilesBag.items,
      x.code = y.code → x.span.pos = y.span.pos → x.message = y.message → x.severity = y.severity) ∧
    twoFilesBag.dedup.sort (some twoFiles) = (twoFilesBag.sort (some twoFiles)).dedup ∧
    twoFilesBag.dedup.items.map (fun d => (d.message, d.notes.length)) =
      ([("third", 0), ("second", 1), ("first", 0)] : List (Text × Nat)) := by
  have agree : ∀ x ∈ twoFilesBag.items, ∀ y ∈ twoFilesBag.items,
      x.code = y.code → x.span.pos = y.span.pos → x.message = y.message → x.severity = y.severity := by decide +kernel
  exact ⟨agree, (sort_dedup (some twoFiles) agree).1, by decide +kernel⟩

end Bag

end DocAccessors
