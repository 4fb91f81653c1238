import DocAccessors.Diagnostic.Report
import DocAccessors.Proofs.Results
import DocAccessors.Table.Resolve

/-!
# Reports that can be written

A report quotes the line that a span starts in, and cuts it at two columns: where the span starts and where it ends. Both
are held down to the length of the line. Nothing holds the first one up, and the second is a sum that may be too large
for a word.

* `SourceFile.one_le_column`: a place whose line is known has a column, as long as line directives give one;
* `Context.quoted?`: what a span quotes, and `Quote.InRange`: both cuts are in range. `exists_snippet_iff` and
  `exists_diagnostic_iff` say that nothing else can go wrong;
* `Quote.inRange_iff`: the cuts are in range if the place has a column and the end of the span can be counted;
* `diagnostic_renders`: so diagnostics can be written, and when they cannot.
-/

namespace DocAccessors

/-! ## Columns -/

namespace SourceFile

variable {f : SourceFile} {offset : Nat}

/-- An offset has no line and no column, or both. -/
theorem physical_cases (f : SourceFile) (offset : Nat) :
    f.physical offset = (0, 0) ∨
      1 ≤ (f.physical offset).1 ∧ 1 ≤ (f.physical offset).2 ∧ (f.physical offset).2 ≤ offset + 1 := by
  cases last : (f.linesUpTo offset).getLast? with
  | none => exact .inl (by simp only [physical, last])
  | some start =>
    have lines : (f.linesUpTo offset).length ≠ 0 := fun h => by
      rw [List.length_eq_zero_iff.1 h] at last
      cases last
    simp only [physical, last]
    omega

/-- Line directives give a column, and the columns from there on can be counted. -/
def HasColumns (f : SourceFile) : Prop := ∀ m ∈ f.marks, 1 ≤ m.column ∧ m.column + f.size < twoTo 63

theorem one_le_column (columns : f.HasColumns) (line : 1 ≤ (f.place offset).line) :
    1 ≤ (f.place offset).column := by
  have physical := f.physical_cases (min offset f.size)
  unfold place at line ⊢
  cases last : (f.marks.takeWhile (·.offset ≤ min offset f.size)).getLast? with
  | none =>
    simp only [last] at line ⊢
    grind
  | some m =>
    obtain ⟨positive, counted⟩ := columns m ((List.takeWhile_subset _) (List.mem_of_getLast? last))
    have given : m.column ≠ 0 := by omega
    simp only [last, given, if_false] at line ⊢
    split
    · next unmarked =>
      rw [if_pos unmarked] at line
      grind
    · -- either the place is in the line of the directive, or in a line behind it
      split
      · have count : word (m.column + (min offset f.size - m.offset : Nat)) =
            m.column + (min offset f.size - m.offset : Nat) := word_eq_self (by omega) (by omega)
        simp only [count]
        omega
      · grind

/-- Without line directives the column is counted in the file. -/
theorem column_le_of_unmarked (unmarked : f.marks = []) : (f.place offset).column ≤ offset + 1 := by
  have physical := f.physical_cases (min offset f.size)
  simp only [place, unmarked, List.takeWhile_nil, List.getLast?_nil]
  grind

end SourceFile

namespace FileSet

theorem exists_of_line {fs : FileSet} {p : Pos} (line : 1 ≤ (fs.place p).line) :
    ∃ f ∈ fs.files, ∃ offset, p = f.pos offset ∧ fs.place p = f.place offset := by
  unfold place at line ⊢
  cases found : fs.file? p with
  | none =>
    simp only [found] at line
    exact absurd line (by decide)
  | some f =>
    unfold file? at found
    split at found
    · cases found
    · have holds := List.find?_some found
      simp only [Bool.and_eq_true, decide_eq_true_eq] at holds
      refine ⟨f, List.mem_of_find?_eq_some found, (p - f.base).toNat, ?_, rfl⟩
      unfold SourceFile.pos
      unfold Pos at *
      omega

end FileSet

/-- The spans that a report of a diagnostic quotes lines for. -/
def Diagnostic.spans (d : Diagnostic) : List Span := d.span :: d.notes.map (·.span)

namespace Report

variable {c : Context} {s : Span}

/-! ## Cutting a line -/

theorem exists_slice_iff {t : Text} {lo hi : Int} :
    (∃ u, slice t lo hi = .ok u) ↔ 0 ≤ lo ∧ lo ≤ hi ∧ hi ≤ t.length := by
  unfold slice
  split
  · next h => exact iff_of_true ⟨_, rfl⟩ h
  · next h => exact iff_of_false (by simp) h

theorem exists_markWidth_iff [Text.Widths] {line : Text} {e : Extent} :
    (∃ w, markWidth line s e = .ok w) ↔
      (s.pos < s.stop → 0 ≤ e.col ∧ e.col ≤ e.stop ∧ e.stop ≤ line.length) := by
  unfold markWidth
  split
  · next wide =>
    rw [exists_bind_eq_ok_iff]
    constructor
    · rintro ⟨u, cut, -⟩ -
      exact exists_slice_iff.1 ⟨u, cut⟩
    · intro h
      obtain ⟨u, cut⟩ := exists_slice_iff.2 (h wide)
      exact ⟨u, cut, _, rfl⟩
  · next narrow => exact iff_of_true ⟨1, rfl⟩ fun wide => absurd wide narrow

theorem one_le_markWidth [Text.Widths] {line : Text} {e : Extent} {w : Nat} (h : markWidth line s e = .ok w) : 1 ≤ w := by
  unfold markWidth at h
  split at h
  · obtain ⟨u, -, h⟩ := bind_eq_ok h
    cases h
    split <;> omega
  · cases h
    exact Nat.le_refl 1

/-! ## What a span quotes -/

/-- The place that a span starts at, and the line there. -/
structure Quote where
  place : Place
  line : Text

/-- What a span quotes: nothing when there are no files, when the span points nowhere or when the line is not known. -/
def Context.quoted? (c : Context) (s : Span) : Option Quote :=
  match c.files with
  | none => none
  | some fs =>
    if s.isValid then (c.line? (fs.place s.pos).file (fs.place s.pos).line).map (⟨fs.place s.pos, ·⟩) else none

namespace Quote

variable {q : Quote}

/-- Where the marked text of a quoted line starts and ends. -/
def extent (q : Quote) (s : Span) : Extent := Report.extent q.line.length q.place.column s

/-- A quoted line is cut where it has bytes, and at least one column is marked. -/
structure InRange [Text.Widths] (q : Quote) (s : Span) : Prop where
  zero_le_col : 0 ≤ (q.extent s).col
  col_le : (q.extent s).col ≤ q.line.length
  col_le_stop : (q.extent s).col ≤ (q.extent s).stop
  stop_le : (q.extent s).stop ≤ q.line.length
  width : ∃ w, markWidth q.line s (q.extent s) = .ok w ∧ 1 ≤ w

/-- **When the cuts are in range.** The place must have a column, and counting on to the end of the span must not leave
the words. -/
theorem inRange_iff [Text.Widths] : q.InRange s ↔ 1 ≤ q.place.column ∧
    (s.pos < s.stop → (q.extent s).col ≤ word ((q.extent s).col + s.length)) := by
  have col : (q.extent s).col = min (q.place.column - 1) q.line.length := rfl
  have stop : (q.extent s).stop =
      if s.pos < s.stop then min (word ((q.extent s).col + s.length)) q.line.length else (q.extent s).col := rfl
  constructor
  · intro h
    have := h.zero_le_col
    have := h.col_le_stop
    refine ⟨by omega, fun wide => ?_⟩
    rw [if_pos wide] at stop
    omega
  · rintro ⟨column, counted⟩
    have zero_le_col : 0 ≤ (q.extent s).col := by omega
    have col_le : (q.extent s).col ≤ q.line.length := by omega
    have between : (q.extent s).col ≤ (q.extent s).stop ∧ (q.extent s).stop ≤ q.line.length := by
      rw [stop]
      split
      · next wide =>
        have := counted wide
        omega
      · omega
    obtain ⟨w, width⟩ := exists_markWidth_iff.2 fun _ => ⟨zero_le_col, between⟩
    exact ⟨zero_le_col, col_le, between.1, between.2, w, width, one_le_markWidth width⟩

/-- The end of a span can be counted if the line and the span together are not too long. -/
theorem InRange.of_column [Text.Widths] (column : 1 ≤ q.place.column) (short : q.line.length + s.length < twoTo 63) : q.InRange s := by
  have col : (q.extent s).col = min (q.place.column - 1) q.line.length := rfl
  refine inRange_iff.2 ⟨column, fun wide => ?_⟩
  have length : 0 < s.length := Int.sub_pos_of_lt wide
  rw [word_eq_self (by omega) (by omega)]
  omega

end Quote

namespace Context

variable {q : Quote}

theorem snippet_eq [Text.Widths] (indent : Text) : c.snippet s indent = match c.quoted? s with
    | none => .ok []
    | some q => do
      let width ← markWidth q.line s (q.extent s)
      let before ← slice q.line 0 (q.extent s).col
      return indent ++ q.line ++ text "\n" ++ indent ++ pad before ++
        paint c.colored .mark (text "^" ++ List.replicate (width - 1) 126) ++ text "\n" := by
  unfold snippet quoted?
  cases c.files with
  | none => rfl
  | some fs =>
    cases valid : s.isValid with
    | false => rfl
    | true =>
      dsimp only
      cases known : c.line? (fs.place s.pos).file (fs.place s.pos).line with
      | none => rfl
      | some line => rfl

theorem one_le_of_line? {file line : Text} {n : Int} (known : c.line? file n = some line) : 1 ≤ n := by
  refine Int.not_lt.1 fun before => ?_
  unfold line? at known
  cases source : c.source? file <;> simp [source, before] at known

theorem exists_file_of_quoted? (quoted : c.quoted? s = some q) :
    ∃ fs, c.files = some fs ∧ ∃ f ∈ fs.files, ∃ offset, s.pos = f.pos offset ∧ q.place = f.place offset ∧
      1 ≤ q.place.line := by
  unfold quoted? at quoted
  cases files : c.files with
  | none =>
    rw [files] at quoted
    cases quoted
  | some fs =>
    simp only [files] at quoted
    split at quoted
    · obtain ⟨line, known, rfl⟩ := Option.map_eq_some_iff.1 quoted
      obtain ⟨f, hf, offset, pos, place⟩ := FileSet.exists_of_line (one_le_of_line? known)
      exact ⟨fs, rfl, f, hf, offset, pos, place, one_le_of_line? known⟩
    · cases quoted

/-! ## What can be written -/

theorem exists_snippet_iff [Text.Widths] {indent : Text} :
    (∃ t, c.snippet s indent = .ok t) ↔ ∀ q ∈ c.quoted? s, q.InRange s := by
  rw [snippet_eq]
  cases quoted : c.quoted? s with
  | none => exact iff_of_true ⟨[], rfl⟩ (by simp)
  | some q =>
    simp only [Option.mem_some_iff, forall_eq', exists_bind_eq_ok_iff]
    constructor
    · rintro ⟨w, width, before, cut, -⟩
      obtain ⟨-, low, high⟩ := exists_slice_iff.1 ⟨before, cut⟩
      have marked := exists_markWidth_iff.1 ⟨w, width⟩
      by_cases wide : s.pos < s.stop
      · exact ⟨low, high, (marked wide).2.1, (marked wide).2.2, w, width, one_le_markWidth width⟩
      · have narrow : (q.extent s).stop = (q.extent s).col := if_neg wide
        exact ⟨low, high, Int.le_of_eq narrow.symm, narrow ▸ high, w, width, one_le_markWidth width⟩
    · rintro ⟨low, high, -, -, w, width, -⟩
      obtain ⟨before, cut⟩ := exists_slice_iff.2 ⟨Int.le_refl 0, low, high⟩
      exact ⟨w, width, before, cut, _, rfl⟩

theorem exists_note_iff [Text.Widths] {n : Note} : (∃ t, c.note n = .ok t) ↔ ∀ q ∈ c.quoted? n.span, q.InRange n.span := by
  unfold note
  rw [exists_bind_eq_ok_iff, ← exists_snippet_iff]
  exact ⟨fun ⟨t, quoted, _⟩ => ⟨t, quoted⟩, fun ⟨t, quoted⟩ => ⟨t, quoted, _, rfl⟩⟩

/-- **A diagnostic can be written** if and only if all lines that it quotes are cut where they have bytes. -/
theorem exists_diagnostic_iff [Text.Widths] {d : Diagnostic} :
    (∃ t, c.diagnostic d = .ok t) ↔ ∀ s ∈ d.spans, ∀ q ∈ c.quoted? s, q.InRange s := by
  have notes : (∃ ts, d.notes.mapM c.note = .ok ts) ↔ ∀ n ∈ d.notes, ∀ q ∈ c.quoted? n.span, q.InRange n.span := by
    simp only [exists_mapM_eq_ok_iff, exists_note_iff]
  unfold diagnostic Diagnostic.spans
  rw [exists_bind_eq_ok_iff, List.forall_mem_cons, List.forall_mem_map, ← notes, ← exists_snippet_iff]
  constructor
  · rintro ⟨t, quoted, rest⟩
    obtain ⟨ts, rest, -⟩ := exists_bind_eq_ok_iff.1 rest
    exact ⟨⟨t, quoted⟩, ts, rest⟩
  · rintro ⟨⟨t, quoted⟩, ts, rest⟩
    exact ⟨t, quoted, exists_bind_eq_ok_iff.2 ⟨ts, rest, _, rfl⟩⟩

theorem exists_bag_iff [Text.Widths] {b : Bag} : (∃ t, c.bag b = .ok t) ↔ ∀ d ∈ b.items, ∃ t, c.diagnostic d = .ok t := by
  unfold bag
  rw [← exists_mapM_eq_ok_iff, exists_bind_eq_ok_iff]
  exact ⟨fun ⟨ts, written, _⟩ => ⟨ts, written⟩, fun ⟨ts, written⟩ => ⟨ts, written, _, rfl⟩⟩

/-! ## Files with and without line directives -/

/-- All line directives give columns. -/
def HasColumns (c : Context) : Prop := ∀ fs ∈ c.files, ∀ f ∈ fs.files, f.HasColumns

/-- There are no line directives. -/
def IsUnmarked (c : Context) : Prop := ∀ fs ∈ c.files, ∀ f ∈ fs.files, f.marks = []

theorem one_le_column (columns : c.HasColumns) (quoted : c.quoted? s = some q) : 1 ≤ q.place.column := by
  obtain ⟨fs, files, f, hf, offset, -, place, line⟩ := exists_file_of_quoted? quoted
  rw [place] at line ⊢
  exact f.one_le_column (columns fs files f hf) line

/-- Without line directives, counting on from the column stays below the end of the span. -/
theorem inRange_of_unmarked [Text.Widths] (unmarked : c.IsUnmarked) (quoted : c.quoted? s = some q) (short : s.stop < twoTo 63) :
    q.InRange s := by
  have columns : c.HasColumns := fun fs files f hf m hm => by
    rw [unmarked fs files f hf] at hm
    cases hm
  have column := one_le_column columns quoted
  obtain ⟨fs, files, f, hf, offset, pos, place, -⟩ := exists_file_of_quoted? quoted
  have counted : q.place.column ≤ offset + 1 := place ▸ f.column_le_of_unmarked (unmarked fs files f hf)
  have room : offset + s.length < twoTo 63 := by
    rw [Span.length, pos, SourceFile.pos]
    unfold Pos at short ⊢
    omega
  have col : (q.extent s).col = min (q.place.column - 1) q.line.length := rfl
  refine Quote.inRange_iff.2 ⟨column, fun wide => ?_⟩
  have length : 0 < s.length := Int.sub_pos_of_lt wide
  rw [word_eq_self (by omega) (by omega)]
  omega

/-- **When diagnostics can be written.** A diagnostic can be written if and only if every line that one of its spans
quotes is cut in range. That is the case if the place of the span has a column, and counting on from there to the end of
the span does not leave the words. Line directives with columns leave no place without one; without any line directives
the count does not leave the words either. -/
theorem diagnostic_renders [Text.Widths] (c : Context) (d : Diagnostic) :
    ((∃ t, c.diagnostic d = .ok t) ↔ ∀ s ∈ d.spans, ∀ q ∈ c.quoted? s, q.InRange s) ∧
    (∀ s ∈ d.spans, ∀ q ∈ c.quoted? s, (q.InRange s ↔
      1 ≤ q.place.column ∧ (s.pos < s.stop → (q.extent s).col ≤ word ((q.extent s).col + s.length)))) ∧
    (c.HasColumns → (∀ s ∈ d.spans, ∀ q ∈ c.quoted? s, q.line.length + s.length < twoTo 63) →
      ∃ t, c.diagnostic d = .ok t) ∧
    (c.IsUnmarked → (∀ s ∈ d.spans, s.stop < twoTo 63) → ∃ t, c.diagnostic d = .ok t) :=
  ⟨exists_diagnostic_iff, fun _ _ _ _ => Quote.inRange_iff,
    fun columns short => exists_diagnostic_iff.2 fun s hs q hq => .of_column (one_le_column columns hq) (short s hs q hq),
    fun unmarked short => exists_diagnostic_iff.2 fun s hs _ hq => inRange_of_unmarked unmarked hq (short s hs)⟩

end Context

/-- A type that its directive does not suit, behind a line directive. -/
def redirectedSource (lineDirective : Text) : Text :=
  text "package p\n\n" ++ lineDirective ++ text "\n//documented:documented_fields\ntype K int\n"

/-- A package of one file, with a line directive in front of a type that its directive does not suit. -/
def redirected (lineDirective : Text) : Package :=
  (({} : Package).takeFile "a.go" (redirectedSource lineDirective) false).1

/-- What a report on it needs to know, when all files that it names have the same contents. -/
def redirectedContext (lineDirective : Text) : Context where
  files := some (redirected lineDirective).fileSet
  source? _ := some (redirectedSource lineDirective)

def misplaced (pos : Pos) : Diagnostic :=
  .error .structuralMismatch (.ofLength pos 28) "`documented_fields` cannot be used on non-enum types"

theorem diagnostic_renders_redirected :
    (redirectedContext "//line b.go:1:40").HasColumns ∧
    ((redirectedContext "//line b.go:1:40").quoted? (misplaced 31).span).isSome = true ∧
    (processPackage .builtin (redirected "//line b.go:1:40")).bag.items = [misplaced 31] ∧
    ∃ t, (redirectedContext "//line b.go:1:40").bag
      (processPackage .builtin (redirected "//line b.go:1:40")).bag = .ok t := by
  have columns : (redirectedContext "//line b.go:1:40").HasColumns := by
    unfold Context.HasColumns SourceFile.HasColumns
    decide +kernel
  have items : (processPackage .builtin (redirected "//line b.go:1:40")).bag.items = [misplaced 31] := by
    decide +kernel
  refine ⟨columns, by decide +kernel, items, Context.exists_bag_iff.2 fun d hd => ?_⟩
  rw [items, List.mem_singleton] at hd
  subst hd
  exact (Context.diagnostic_renders _ (misplaced 31)).2.2.1 columns (by decide +kernel)

/-- A line directive may leave out the column. The place of a span behind it has none then, and its line is cut one byte
before its start. -/
theorem unknown_column_faults :
    (processPackage .builtin (redirected "//line a.go:1")).bag.items = [misplaced 28] ∧
    ((redirectedContext "//line a.go:1").quoted? (misplaced 28).span).map
      (fun q => (q.extent (misplaced 28).span).col) = some (-1) ∧
    ((redirectedContext "//line a.go:1").diagnostic (misplaced 28)).isOk = false :=
  ⟨by decide +kernel, by decide +kernel, by decide +kernel⟩

end Report

end DocAccessors
