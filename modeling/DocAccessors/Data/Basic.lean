import DocAccessors.Text.Basic

/-!
# Data

A `Datum` is what the written formats have in common: nothing, truth values, numbers, texts, lists, and records with
their fields in order.
-/

namespace DocAccessors

/-- A value that can be written in a data format. -/
inductive Datum where
  | null
  | bool (b : Bool)
  | int (n : Int)
  /-- A number that is not an integer, or a date, as it is written. -/
  | other (t : Text)
  | text (t : Text)
  | list (xs : List Datum)
  | record (fs : List (Text × Datum))

namespace Datum

instance : Inhabited Datum := ⟨.null⟩

/-- A record without the fields that hold nothing. -/
def ofFields (fs : List (Text × Option Datum)) : Datum :=
  .record (fs.filterMap fun (k, v) => v.map fun v => (k, v))

end Datum

end DocAccessors
