import DocAccessors.Diagnostic.Failure

/-!
# Bags of diagnostics

A bag collects diagnostics over many declarations. Its limit holds for warnings and infos only: errors are
always kept.

* `Bag.add` keeps a diagnostic or counts it as omitted;
* `Bag.merge` appends another bag and raises the limit when the two do not fit;
* `Bag.sort` orders by file, offset, falling severity and code; `Bag.dedup` drops repetitions.
-/

namespace DocAccessors

def Bag.limit : Nat := 65535

/-- A collection of diagnostics. -/
structure Bag where
  items : List Diagnostic := []
  cap : Nat
  omitted : Nat := 0

namespace Bag

/-- An empty bag; the limit is moved into the range that a bag can have. -/
def empty (max : Int) : Bag := { cap := min max.toNat limit }

/-- Whether the bag has room for a diagnostic. -/
def accepts (b : Bag) (d : Diagnostic) : Bool := d.isError || b.items.length < b.cap

/-- The bag after a diagnostic was offered to it. -/
def add (b : Bag) (d : Diagnostic) : Bag :=
  if b.accepts d then { b with items := b.items ++ [d] } else { b with omitted := b.omitted + 1 }

/-- What sifting diagnostics has come to: how many a bag holds by now, those it takes, last first, and the number of
those it has no room for. -/
structure Sifted where
  count : Nat
  kept : List Diagnostic := []
  dropped : Nat := 0

/-- One more diagnostic is offered to a bag with a limit. -/
def sift (cap : Nat) (s : Sifted) (d : Diagnostic) : Sifted :=
  if d.isError || s.count < cap then { s with count := s.count + 1, kept := d :: s.kept }
  else { s with dropped := s.dropped + 1 }

def take (b : Bag) (s : Sifted) : Bag :=
  { b with items := b.items ++ s.kept.reverse, omitted := b.omitted + s.dropped }

/-- The bag after several diagnostics were offered to it. -/
def addAll (b : Bag) (ds : List Diagnostic) : Bag := b.take (ds.foldl (sift b.cap) { count := b.items.length })

theorem add_take (b : Bag) (s : Sifted) (d : Diagnostic) (h : s.count = (b.take s).items.length) :
    (b.take s).add d = b.take (sift b.cap s d) := by
  have same : (d.isError || s.count < b.cap) = (b.take s).accepts d := by rw [h]; rfl
  unfold add sift
  rw [same]
  by_cases hd : (b.take s).accepts d = true
  · rw [if_pos hd, if_pos hd]
    simp [take]
  · rw [if_neg hd, if_neg hd]
    simp [take, Nat.add_assoc]

theorem count_sift (b : Bag) (s : Sifted) (d : Diagnostic) (h : s.count = (b.take s).items.length) :
    (sift b.cap s d).count = (b.take (sift b.cap s d)).items.length := by
  unfold sift
  split <;> simp_all [take]
  omega

theorem take_foldl_sift (b : Bag) (ds : List Diagnostic) (s : Sifted) (h : s.count = (b.take s).items.length) :
    b.take (ds.foldl (sift b.cap) s) = ds.foldl add (b.take s) := by
  induction ds generalizing s with
  | nil => rfl
  | cons d ds ih => simp only [List.foldl_cons, add_take b s d h, ih _ (count_sift b s d h)]

/-- Offering several diagnostics is offering them one after the other. -/
theorem addAll_eq_foldl_add (b : Bag) (ds : List Diagnostic) : b.addAll ds = ds.foldl add b := by
  have start : b.take { count := b.items.length } = b := by simp [take]
  unfold addAll
  rw [take_foldl_sift b ds _ (by rw [start]), start]

/-- The diagnostics that a failure amounts to; a failure without any becomes one without a place, unless it says
nothing at all. -/
def ofFailure (f : Failure) : List Diagnostic :=
  match f.diagnostics? with
  | none => [Diagnostic.error Code.unknown {} f.message]
  | some [] => if f.isVacuous then [] else [Diagnostic.error Code.unknown {} f.message]
  | some ds => ds

/-- The bag after a failure was offered to it. -/
def addFailure (b : Bag) : Option Failure → Bag
  | none => b
  | some f => b.addAll (ofFailure f)

/-- The number of diagnostics held. -/
def size (b : Bag) : Nat := b.items.length

def hasErrors (b : Bag) : Bool := b.items.any Diagnostic.isError

/-- Whether a warning or an error is held. -/
def hasWarnings (b : Bag) : Bool := b.items.any Diagnostic.isWarning

/-- The bag with the diagnostics of another one after its own. -/
def merge (b other : Bag) : Bag :=
  let total := b.size + other.size
  let grown := if b.cap < total then { b with cap := min total limit } else b
  let filled := grown.addAll other.items
  { filled with omitted := filled.omitted + other.omitted }

/-- What the order of diagnostics looks at. -/
structure SortKey where
  file : Text
  offset : Nat
  severity : Severity
  code : Code
  deriving DecidableEq

/-- The sort key of a diagnostic; without a file set all positions are alike. -/
def sortKey (files : Option FileSet) (d : Diagnostic) : SortKey :=
  let p := match files with
    | some s => s.place d.span.pos
    | none => {}
  ⟨p.file, p.offset, d.severity, d.code⟩

/-- By file name, offset, falling severity and code. -/
def SortKey.lt (a b : SortKey) : Bool :=
  if a.file != b.file then Text.lt a.file b.file
  else if a.offset != b.offset then a.offset < b.offset
  else if a.severity != b.severity then b.severity.rank < a.severity.rank
  else a.code.number < b.code.number

/-- The bag in order; diagnostics with equal keys keep their order. -/
def sort (files : Option FileSet) (b : Bag) : Bag :=
  let keyed := b.items.map fun d => (sortKey files d, d)
  { b with items := (keyed.mergeSort fun x y => !y.1.lt x.1).map Prod.snd }

/-- What diagnostics that say the same have in common: code, position and message. -/
def dedupKey (d : Diagnostic) : Text :=
  Text.ofNat d.code.number ++ text ":" ++ Text.ofInt d.span.pos ++ text ":" ++ d.message

def same (a b : Diagnostic) : Bool := dedupKey a == dedupKey b

/-- The diagnostics that repeat none of those seen before. -/
def dedupItems (seen : List Diagnostic) : List Diagnostic → List Diagnostic
  | [] => []
  | d :: ds => if seen.any (same d) then dedupItems seen ds else d :: dedupItems (d :: seen) ds

/-- The bag without repetitions. -/
def dedup (b : Bag) : Bag := { b with items := dedupItems [] b.items }

end Bag

end DocAccessors
