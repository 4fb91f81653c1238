import DocAccessors.Proofs.Generate.Literal

/-!
# Reading the variables for fields

* `fieldLiterals` reads the variables that are generated for the fields of a type: their documentation and the index
  from names to positions;
* `reads_value`, `reads_option`: an expression for documentation reads as the documentation, whether or not it may be
  absent;
* `reads_array`, `reads_mapping`: so do the variables that hold such expressions;
* `read_requiredFields`, `read_optionalFields`: what is generated for a table reads as the documentation of its items
  and the entries of its index.

Where a default expression ends cannot be told without the grammar of expressions. So the scanner of an element is
told which expression stands there, if any, and has it evaluated.
-/

namespace DocAccessors

/-- The expression that stands in for documentation, if there is one. -/
def DocValue.expression? : DocValue → Option Text
  | .default e => some e
  | _ => none

/-- The documentation itself, with an expression evaluated. -/
def DocValue.evaluate (eval : Text → Text) : DocValue → Option Text
  | .absent => none
  | .text t => some t
  | .default e => some (eval e)

namespace Literal

/-! ## Elements -/

/-- Documentation: a string literal, or the given expression. -/
def value (eval : Text → Text) : Option Text → Scanner Text
  | some e => do
    exactly e
    return eval e
  | none => string

/-- Documentation that may be absent. -/
def option (eval : Text → Text) (e : Option Text) : Scanner (Option Text) :=
  ifNext "documented.None()" none do
    exactly "documented.Some("
    let v ← value eval e
    exactly ")"
    return some v

/-- A name and its position, up to the comma. -/
def entry : Scanner (Text × Int) := do
  let name ← string
  exactly ": "
  let i ← integer 44
  return (name, i)

/-- Something and a comma. -/
def element (s : Scanner α) : Scanner α := do
  let a ← s
  exactly ","
  return a

variable {eval : Text → Text}

theorem reads_value (v : DocValue) :
    Reads (value eval v.expression?) (Emitter.docExpr v) ((v.evaluate eval).getD []) := by
  cases v with
  | absent => exact reads_string []
  | text t => exact reads_string t
  | default e => exact (reads_exactly e).last (reads_pure (eval e))

theorem reads_option (v : DocValue) : Reads (option eval v.expression?) (Emitter.optionExpr v) (v.evaluate eval) := by
  have present : Reads (option eval v.expression?) (text "documented.Some(" ++ (Emitter.docExpr v ++ text ")"))
      (some ((v.evaluate eval).getD [])) := by
    -- the two forms differ within the first bytes, so this one is not taken for the other
    refine Reads.ifNext ?_ (fun rest => rfl) none
    exact (reads_exactly _).bind ((reads_value v).bind ((reads_exactly _).last (reads_pure _)))
  rw [← List.append_assoc] at present
  cases v with
  | absent => exact reads_ifNext _ _ _
  | text t => exact present
  | default e => exact present

theorem reads_entry (e : LookupEntry) :
    Reads entry (Text.quote e.name ++ text ": " ++ Text.ofInt e.index ++ text ",") (e.name, e.index) := by
  rw [List.append_assoc, List.append_assoc]
  exact (reads_string _).bind ((reads_exactly _).bind ((reads_integer _).last (reads_pure _)))

theorem Reads.element {s : Scanner α} {c : Text} {a : α} (hs : Reads s c a) :
    Reads (element s) (c ++ text ",") a :=
  hs.bind ((reads_exactly _).last (reads_pure a))

/-! ## Lines -/

/-- What ends a literal that has an element on each line. -/
def closingLine : Text := Emitter.closeBrace ++ text "\n\n"

/-- An element on a line of its own. -/
def line (s : Scanner α) : Scanner α := do
  exactly "\t"
  let a ← s
  exactly "\n"
  return a

/-- A line for each of the given elements, up to the closing brace. -/
def lines : List (Scanner α) → Scanner (List α)
  | [] => do
    exactly closingLine
    return []
  | s :: ss => do
    let a ← line s
    return a :: (← lines ss)

/-- At most `fuel` lines, up to the closing brace. -/
def linesUpTo (s : Scanner α) : Nat → Scanner (List α)
  | 0 => given none
  | fuel + 1 => ifNext closingLine [] do
    let a ← line s
    return a :: (← linesUpTo s fuel)

/-- All lines up to the closing brace. -/
def block (s : Scanner α) : Scanner (List α) := fun t => linesUpTo s (t.length + 1) t

theorem Reads.line {s : Scanner α} {c : Text} {a : α} (hs : Reads s (c ++ text ",") a) :
    Reads (line s) (text "\t" ++ c ++ text ",\n") a := by
  have code : text "\t" ++ c ++ text ",\n" = text "\t" ++ ((c ++ text ",") ++ text "\n") := by
    rw [List.append_assoc, List.append_assoc]
    rfl
  rw [code]
  exact (reads_exactly _).bind (hs.bind ((reads_exactly _).last (reads_pure a)))

/-- The lines of a literal with an element on each. -/
def rows (f : β → Text) (xs : List β) : Text := xs.flatMap fun x => text "\t" ++ f x ++ text ",\n"

theorem length_le_length_rows (f : β → Text) (xs : List β) : xs.length ≤ (rows f xs).length := by
  have one : 1 ≤ (text "\t").length := by decide
  induction xs with
  | nil => exact Nat.le_refl 0
  | cons x xs ih =>
    simp only [rows, List.flatMap_cons, List.length_append, List.length_cons] at ih ⊢
    omega

variable {f : β → Text} {g : β → α}

theorem reads_lines {r : β → Scanner α} (xs : List β) (h : ∀ x ∈ xs, Reads (r x) (f x ++ text ",") (g x)) :
    Reads (lines (xs.map r)) (rows f xs ++ closingLine) (xs.map g) := by
  induction xs with
  | nil => exact (reads_exactly closingLine).last (reads_pure [])
  | cons x xs ih =>
    have first := (h x (by simp)).line
    have rest := ih fun x' hx' => h x' (by simp [hx'])
    rw [rows, List.flatMap_cons, List.append_assoc]
    exact first.bind (rest.last (reads_pure (g x :: xs.map g)))

theorem reads_linesUpTo {s : Scanner α} (xs : List β) (h : ∀ x ∈ xs, Reads s (f x ++ text ",") (g x)) :
    ∀ fuel, xs.length < fuel → Reads (linesUpTo s fuel) (rows f xs ++ closingLine) (xs.map g) := by
  induction xs with
  | nil =>
    rintro (_ | fuel) enough
    · cases enough
    · exact reads_ifNext closingLine [] _
  | cons x xs ih =>
    rintro (_ | fuel) enough
    · cases enough
    · have first := (h x (by simp)).line
      have rest := ih (fun x' hx' => h x' (by simp [hx'])) fuel (Nat.lt_of_succ_lt_succ enough)
      rw [rows, List.flatMap_cons, List.append_assoc]
      -- a line starts with a tab, so it is not taken for the closing brace
      exact Reads.ifNext (first.bind (rest.last (reads_pure (g x :: xs.map g)))) (fun rest => rfl) []

theorem reads_block {s : Scanner α} (xs : List β) (h : ∀ x ∈ xs, Reads s (f x ++ text ",") (g x)) :
    Reads (block s) (rows f xs ++ closingLine) (xs.map g) := by
  intro rest
  refine reads_linesUpTo xs h _ ?_ rest
  have enough := length_le_length_rows f xs
  simp only [List.length_append]
  omega

/-! ## Variables -/

/-- A variable that holds an array of as many elements as it is declared with. -/
def array (name type : Text) (elements : Scanner (List α)) : Scanner (List α) := do
  exactly (text "var " ++ name ++ text " = [")
  let n ← natural 93
  exactly (type ++ Emitter.openBrace ++ text "\n")
  let as ← elements
  given (if as.length = n then some as else none)

/-- A variable that holds a map from names to positions. -/
def mapping (name : Text) : Scanner (List (Text × Int)) := do
  exactly (text "var " ++ name ++ text " = map[string]int" ++ Emitter.openBrace ++ text "\n")
  block entry

/-- What stands before the elements of a variable. -/
theorem literalVar_eq (name type : Text) (xs : List β) :
    Emitter.literalVar name type (xs.map f) =
      text "var " ++ name ++ text " = " ++ type ++ Emitter.openBrace ++ text "\n" ++ (rows f xs ++ closingLine) := by
  simp [Emitter.literalVar, rows, closingLine, List.flatMap_map]

theorem reads_array {elements : Scanner (List α)} {xs : List β}
    (h : Reads elements (rows f xs ++ closingLine) (xs.map g)) (name type : Text) :
    Reads (array name type elements)
      (Emitter.literalVar name (text "[" ++ Text.ofNat xs.length ++ text "]" ++ type) (xs.map f)) (xs.map g) := by
  have complete : (if (xs.map g).length = xs.length then some (xs.map g) else none) = some (xs.map g) := by
    simp
  have code : text "var " ++ name ++ text " = " ++ (text "[" ++ Text.ofNat xs.length ++ text "]" ++ type) ++
        Emitter.openBrace ++ text "\n" ++ (rows f xs ++ closingLine) =
      (text "var " ++ name ++ text " = [") ++ ((Text.ofNat xs.length ++ text "]") ++
        ((type ++ Emitter.openBrace ++ text "\n") ++ (rows f xs ++ closingLine))) := by
    rw [show text " = [" = text " = " ++ text "[" from rfl]
    simp only [List.append_assoc]
  rw [literalVar_eq, code]
  exact (reads_exactly _).bind ((reads_natural _).bind ((reads_exactly _).bind (h.last (reads_given complete))))

theorem reads_mapping (name : Text) (es : List LookupEntry) :
    Reads (mapping name)
      (Emitter.literalVar name "map[string]int" (es.map fun e => Text.quote e.name ++ text ": " ++ Text.ofInt e.index))
      (es.map fun e => (e.name, e.index)) := by
  have code : text "var " ++ name ++ text " = map[string]int" ++ Emitter.openBrace ++ text "\n" =
      text "var " ++ name ++ text " = " ++ text "map[string]int" ++ Emitter.openBrace ++ text "\n" := by
    rw [show text " = map[string]int" = text " = " ++ text "map[string]int" from rfl]
    simp only [List.append_assoc]
  rw [literalVar_eq, ← code]
  exact (reads_exactly _).bind (reads_block es fun e _ => reads_entry e)

/-! ## Fields -/

/-- The variables for the fields of a type: their documentation, of the given type and read by the given scanners,
then their names, which are passed over, and the index. -/
def fieldLiterals (start type : Text) (docs : List (Scanner α)) : Scanner (List α × List (Text × Int)) := do
  let docs ← array (start ++ text "fieldDocs") type (lines (docs.map element))
  let _ ← array (start ++ text "fieldNames") "string" (block (element string))
  let index ← mapping (start ++ text "fieldIndex")
  return (docs, index)

/-- What a scanner takes from the front of a text. -/
def read (s : Scanner α) (t : Text) : Option α := (s t).map Prod.fst

/-- The variables for the fields in a table where documentation is required. -/
def requiredFields (eval : Text → Text) (t : DocTable) : Scanner (List Text × List (Text × Int)) :=
  fieldLiterals (Emitter.variableStart t) "string" (t.items.map fun i => value eval i.docs.expression?)

/-- The variables for the fields in a table where documentation may be absent. -/
def optionalFields (eval : Text → Text) (t : DocTable) : Scanner (List (Option Text) × List (Text × Int)) :=
  fieldLiterals (Emitter.variableStart t) "documented.Option" (t.items.map fun i => option eval i.docs.expression?)

theorem reads_fieldLiterals {doc : TableItem → Scanner α} {f : TableItem → Text} {g : TableItem → α}
    (items : List TableItem) (h : ∀ i ∈ items, Reads (doc i) (f i) (g i)) (start type : Text)
    (es : List LookupEntry) :
    Reads (fieldLiterals start type (items.map doc))
      (Emitter.literalVar (start ++ text "fieldDocs") (text "[" ++ Text.ofNat items.length ++ text "]" ++ type)
          (items.map f) ++
        (Emitter.literalVar (start ++ text "fieldNames") (text "[" ++ Text.ofNat items.length ++ text "]" ++
            text "string") (items.map fun i => Text.quote i.name) ++
          Emitter.literalVar (start ++ text "fieldIndex") "map[string]int"
            (es.map fun e => Text.quote e.name ++ text ": " ++ Text.ofInt e.index)))
      (items.map g, es.map fun e => (e.name, e.index)) := by
  have docs := reads_lines (r := element ∘ doc) items fun i hi => (h i hi).element
  have names := reads_block items fun i _ => (reads_string i.name).element
  rw [← List.map_map] at docs
  exact (reads_array docs _ _).bind ((reads_array names _ _).bind ((reads_mapping _ es).last (reads_pure _)))

theorem read_append {s : Scanner α} {c : Text} {a : α} (h : Reads s c a) (rest : Text) :
    read s (c ++ rest) = some a := by
  rw [read, h]
  rfl

variable (eval) (t : DocTable) (index : LookupTable)

/-- The variables come first, the methods after them. -/
theorem fieldDecls_eq : ∃ methods, Emitter.fieldDecls t index =
    Emitter.literalVar (Emitter.variableStart t ++ text "fieldDocs") (text "[" ++ Text.ofNat t.items.length ++
        text "]" ++ if t.optional then text "documented.Option" else text "string")
        (t.items.map fun i => if t.optional then Emitter.optionExpr i.docs else Emitter.docExpr i.docs) ++
      (Emitter.literalVar (Emitter.variableStart t ++ text "fieldNames") (text "[" ++ Text.ofNat t.items.length ++
          text "]" ++ text "string") (t.items.map fun i => Text.quote i.name) ++
        Emitter.literalVar (Emitter.variableStart t ++ text "fieldIndex") "map[string]int"
          (index.entries.map fun e => Text.quote e.name ++ text ": " ++ Text.ofInt e.index)) ++ methods := by
  unfold Emitter.fieldDecls
  dsimp only
  simp only [List.append_assoc]
  exact ⟨_, rfl⟩

/-- **The variables for the fields of a type read as the documentation of its items and the entries of its index.** -/
theorem read_requiredFields (required : t.optional = false) :
    read (requiredFields eval t) (Emitter.fieldDecls t index) =
      some (t.items.map fun i => (i.docs.evaluate eval).getD [], index.entries.map fun e => (e.name, e.index)) := by
  obtain ⟨methods, code⟩ := fieldDecls_eq t index
  rw [code, required]
  exact read_append (reads_fieldLiterals t.items (fun i _ => reads_value i.docs) _ _ index.entries) methods

/-- **So they do where documentation may be absent.** -/
theorem read_optionalFields (optional : t.optional = true) :
    read (optionalFields eval t) (Emitter.fieldDecls t index) =
      some (t.items.map fun i => i.docs.evaluate eval, index.entries.map fun e => (e.name, e.index)) := by
  obtain ⟨methods, code⟩ := fieldDecls_eq t index
  rw [code, optional]
  exact read_append (reads_fieldLiterals t.items (fun i _ => reads_option i.docs) _ _ index.entries) methods

end Literal

end DocAccessors
