import DocAccessors.Proofs.Generate.ConstantNames
import DocAccessors.Proofs.Generate.Parts

/-!
# The code for one table

What an emitter writes for a table is read as declarations, if the names in the table are identifiers and its expressions
are cut.

* `DocTable.IsWritable`: the names and expressions of the table can be written in code;
* `declares_docsMethod`, `declares_fieldDecls`, `declares_variantsMethod`: the code for each family of attributes;
* `declares_emit`: what an emitter writes is read as declarations.
-/

namespace DocAccessors

open Source Source.Grammar

/-- The names in a table are identifiers where the code refers to them, its expressions are cut, and its index has no
negative position. -/
structure DocTable.IsWritable (t : DocTable) : Prop where
  name : isIdentifier t.decl.name = true
  typeParams : ∀ p ∈ t.decl.typeParams, isIdentifier p = true
  docs : t.docs.IsCut
  items : ∀ i ∈ t.items, i.docs.IsCut
  constNames : t.base = AttributeBase.docsConst.name → ∀ n ∈ t.constNames, isIdentifier n = true
  positions : t.base = AttributeBase.documentedFields.name → ∀ index ∈ t.index, ∀ e ∈ index.entries, 0 ≤ e.index
  idents : t.base = AttributeBase.documentedVariants.name → ∀ i ∈ t.items, isIdentifier i.ident = true

namespace Emitter

variable {t : DocTable} {e e' : Text} {xs ys : List Symbol}

/-! ## Receivers -/

theorem spells_separated {ns : List Text} (h : ∀ n ∈ ns, isIdentifier n = true) (some_name : ns ≠ []) :
    Spells (Text.join ", " ns) (separated (ns.map fun n => [(Token.ident, n)])) := by
  have separator : Spells (text ",") [comma] := spells_piece (by simp [pieces])
  induction ns with
  | nil => exact absurd rfl some_name
  | cons n ns ih =>
    obtain ⟨first, rest⟩ := List.forall_mem_cons.1 h
    cases ns with
    | nil => exact spells_identifier first
    | cons m ns =>
      have more := (spells_identifier first).append (separator.spaced (ih rest (List.cons_ne_nil m ns))) (.cons (by decide) _)
      refine more.congr ?_ rfl
      change _ = n ++ text ", " ++ Text.join ", " (m :: ns)
      rw [List.append_assoc]
      rfl

theorem spells_receiver (h : t.IsWritable) : Spells t.decl.receiver (typeForm t.decl.name t.decl.typeParams) := by
  have name := spells_identifier h.name
  unfold Declaration.receiver typeForm
  split
  · exact name
  · next generic =>
    have bracket : Spells (text "]") [(Token.rbrack, [])] := spells_piece (by simp [pieces])
    have params := spells_separated h.typeParams (by simpa using generic)
    refine (name.append (params.append bracket (.cons (by decide) [])).lbrack (.cons (by decide) _)).congr ?_ rfl
    rw [List.append_assoc, List.append_assoc]
    rfl

/-! ## Statements -/

/-- The line is read as a statement. -/
structure States (l : Text) (xs : List Symbol) : Prop where
  spells : Spells l xs
  form : IsStatement (xs ++ [lineEnd])
  ended : endsStatement xs = true

theorem States.isBody {l : Text} (h : States l xs) : IsBody [l] := isBody_line h.spells h.ended h.form

theorem spells_return : Spells (text "return") [(Token.kReturn, text "return")] := spells_word (by decide)

theorem states_return (h : Expresses e xs) : States (text "return " ++ e) ((Token.kReturn, text "return") :: xs) :=
  ⟨spells_return.spaced h.spells, isStatement_returnForm [xs] (by simp) (by simpa using h.form),
    by rw [endsStatement_cons h.spells.some_symbol, h.ended]⟩

theorem states_return_pair (h : Expresses e xs) (h' : Expresses e' ys) :
    States (text "return " ++ e ++ (text ", " ++ e')) ((Token.kReturn, text "return") :: (xs ++ comma :: ys)) := by
  have separator : Spells (text ",") [comma] := spells_piece (by simp [pieces])
  have values := h.spells.append (separator.spaced h'.spells) (.cons (by decide) _)
  refine ⟨(spells_return.spaced values).congr ?_ rfl, ?_, ?_⟩
  · simp only [List.append_assoc]
    rfl
  · have form := isStatement_returnForm [xs, ys] (by simp) (by simpa using ⟨h.form, h'.form⟩)
    simpa [returnForm, separated] using form
  · simp [endsStatement_cons, endsStatement_append, h'.spells.some_symbol, h'.ended]

theorem states_define {a b : Text} (ha : isIdentifier a = true) (hb : isIdentifier b = true) :
    States (a ++ text " := " ++ b) [(Token.ident, a), (Token.define, []), (Token.ident, b)] := by
  have define : Spells (text ":=") [(Token.define, [])] := spells_piece (by simp [pieces])
  refine ⟨((spells_identifier ha).spaced (define.spaced (spells_identifier hb))).congr ?_ rfl, isStatement_defineForm, rfl⟩
  simp only [List.append_assoc]
  rfl

/-! ## Constants -/

/-- A remark about the declaration. -/
theorem isRemark_about (h : t.IsWritable) {start stop : Text} (before : start ∈ remarks) (after : stop ∈ remarks) :
    IsRemark (start ++ t.decl.name ++ stop) := by
  have plain := plain_of_mem_remarks stop after
  have name := (isRemark_name h.name).append (isRemark_of_plain plain) fun b hb => (plain b (List.mem_of_mem_head? hb)).1
  rw [List.append_assoc]
  exact name.plain_append (plain_of_mem_remarks start before)

theorem declares_about (h : t.IsWritable) {start stop : Text} (before : start ∈ remarks) (after : stop ∈ remarks) :
    Declares (comment (start ++ t.decl.name ++ stop)) :=
  declares_comment (isRemark_about h before after)

theorem declares_constDecl (h : t.IsWritable) {n : Text} (hn : isIdentifier n = true) : Declares (constDecl t n) := by
  obtain ⟨xs, value⟩ := expresses_docExpr h.docs
  have remark : IsRemark (n ++ text " is the documentation of " ++ t.decl.name ++ text ".") := by
    have about : IsRemark (text " is the documentation of " ++ t.decl.name ++ text ".") :=
      isRemark_about h (by simp [remarks]) (by simp [remarks])
    have whole := (isRemark_name hn).append about (by rintro _ ⟨⟩; decide)
    rwa [← List.append_assoc, ← List.append_assoc] at whole
  have declares := (declares_comment remark).append (declares_const hn value)
  rwa [← List.append_assoc, ← List.append_assoc, ← List.append_assoc, ← List.append_assoc] at declares

/-! ## Methods for documentation -/

theorem isResult_text : IsResult [(Token.ident, text "string")] := isResult_name

/-- The result of methods that say whether there is documentation. -/
theorem isResult_text_bool :
    IsResult [(Token.lparen, []), (Token.ident, text "string"), (Token.comma, []), (Token.ident, text "bool"), (Token.rparen, [])] :=
  (isParameters_types [text "string", text "bool"]).isResult

theorem isSignature_docs : IsSignature "Docs() string" ∧ IsSignature "Docs() (string, bool)" :=
  ⟨isSignature_of_mem (n := text "Docs") (by simp [signatures]) isParameters_nil isResult_text,
    isSignature_of_mem (n := text "Docs") (by simp [signatures, comma]) isParameters_nil isResult_text_bool⟩

/-- A method of the type that the table documents. -/
theorem declares_tableMethod (h : t.IsWritable) {signature : Text} {body : List Text} (hs : IsSignature signature)
    (hb : IsBody body) : Declares (method t.decl.receiver signature body) :=
  declares_method (spells_receiver h) isParameter_typeForm hs hb

theorem expresses_true : Expresses "true" [(Token.ident, text "true")] := expresses_name (by decide)

theorem expresses_false : Expresses "false" [(Token.ident, text "false")] := expresses_name (by decide)

/-- The statement that says that there is no documentation. -/
theorem isBody_absent (optional : Bool) : IsBody [text "return " ++ if optional then text "\"\", false" else text "\"\""] := by
  have absent := expresses_quote []
  cases optional with
  | false => exact (states_return absent).isBody
  | true => exact (states_return_pair absent expresses_false).isBody

theorem declares_docsMethod (h : t.IsWritable) : Declares (docsMethod t) := by
  obtain ⟨xs, value⟩ := expresses_docExpr h.docs
  unfold docsMethod
  refine ((declares_assertion h.name (by simp)).append (declares_about h (by simp [remarks]) (by simp [remarks]))).append ?_
  split
  · refine declares_tableMethod h isSignature_docs.2 ?_
    split
    · exact (states_return_pair value expresses_true).isBody
    · exact isBody_absent true
  · exact declares_tableMethod h isSignature_docs.1 (states_return value).isBody

/-! ## Methods for fields -/

/-- The variables of a table have identifiers as names. -/
theorem isIdentifier_variable (h : t.IsWritable) {n : Text}
    (known : n ∈ [text "fieldDocs", text "fieldNames", text "fieldIndex"]) :
    isIdentifier (variableStart t ++ n) = true := by
  have other : ∀ k ∈ Token.keywords, k.1.head? ≠ some 95 := by decide
  have tail : IsTail (95 :: n) := by fin_cases known <;> (unfold IsTail; decide)
  have name := isTail_of_isWord (isIdentifier_iff.1 h.name).1
  have word := isWord_ofChar_append (c := '_') (by decide) (isTail_append name (by decide) tail)
  have text_eq : Text.ofChar '_' ++ (t.decl.name ++ 95 :: n) = variableStart t ++ n := by
    unfold variableStart
    simp only [List.append_assoc]
    rfl
  rw [← text_eq]
  exact isIdentifier_iff.2 ⟨word, ofWord_eq_ident fun k hk same => other k hk (by rw [same]; rfl)⟩

/-- The type of an array of documentation. -/
theorem exists_array (n : Nat) (optional : Bool) :
    ∃ xs, Spells (text "[" ++ Text.ofNat n ++ text "]" ++
      (if optional then text "documented.Option" else text "string") ++ openBrace)
      (xs ++ [(Token.lbrace, [])]) ∧ IsDataType xs := by
  obtain ⟨ys, type, data⟩ : ∃ ys, Spells (text "]" ++ (if optional then text "documented.Option" else text "string") ++ openBrace)
      ((Token.rbrack, []) :: (ys ++ [(Token.lbrace, [])])) ∧ IsElementType ys := by
    cases optional with
    | false => exact ⟨[(Token.ident, text "string")], spells_piece (by simp [pieces]), isElementType_name⟩
    | true =>
      exact ⟨[(Token.ident, text "documented"), (Token.period, []), (Token.ident, text "Option")], spells_piece (by simp [pieces]),
        isElementType_selector⟩
  refine ⟨_, ((spells_ofNat n).append type (.cons (by decide) _)).lbrack.congr ?_ ?_,
    isDataType_array (Text.ofNat n) data⟩
  · simp only [List.append_assoc]
    rfl
  · simp

/-- A position in the index of a table. -/
theorem exists_entry {k : LookupEntry} (position : 0 ≤ k.index) :
    ∃ xs, Spells (Text.quote k.name ++ text ": " ++ Text.ofInt k.index) xs ∧ IsElement xs := by
  obtain ⟨n, index⟩ := Int.eq_ofNat_of_zero_le position
  have colon : Spells (text ":") [(Token.colon, [])] := spells_piece (by simp [pieces])
  have key : Spells (Text.quote k.name) _ := .of_whole (symbolsOf_quote k.name)
  refine ⟨_, (key.append (colon.spaced (spells_ofNat n)) (.cons (by decide) _)).congr ?_ rfl, isElement_entry⟩
  rw [index, List.append_assoc]
  rfl

theorem isSignature_fieldDocs (optional : Bool) :
    IsSignature (text "FieldDocs() []" ++ if optional then text "documented.Option" else text "string") := by
  cases optional with
  | false =>
    exact isSignature_of_mem (n := text "FieldDocs") (by simp [signatures]) isParameters_nil
      (isResult_slice (n := text "string"))
  | true =>
    exact isSignature_of_mem (n := text "FieldDocs") (by simp [signatures]) isParameters_nil
      (isResult_slice_selector (n := text "documented") (a := text "Option"))

theorem isSignature_fieldNames : IsSignature "FieldNames() []string" :=
  isSignature_of_mem (n := text "FieldNames") (by simp [signatures]) isParameters_nil (isResult_slice (n := text "string"))

theorem isSignature_getFieldDocs : IsSignature "GetFieldDocs(name string) (string, error)" :=
  isSignature_of_mem (n := text "GetFieldDocs") (by simp [signatures, typeForm, separated])
    (isParameters_one (isParameter_named (a := text "name") (n := text "string") []))
    (isParameters_types [text "string", text "error"]).isResult

/-- The body of a method that returns all of a variable. -/
theorem isBody_slice {a b : Text} (ha : isIdentifier a = true) (hb : isIdentifier b = true)
    (slice : Spells (a ++ text "[:]") (sliceForm a)) : IsBody [a ++ text " := " ++ b, text "return " ++ (a ++ text "[:]")] :=
  (states_define ha hb).isBody.append (states_return ⟨slice, isExpression_sliceForm, rfl⟩).isBody

/-- The look-up of a name in the index of fields. -/
theorem exists_lookup (optional : Bool) {a b : Text} (ha : isIdentifier a = true) (hb : isIdentifier b = true) :
    ∃ xs, Expresses ((if optional then text "documented.LookupOpt" else text "documented.Lookup") ++ text "(" ++ a ++
      text "[:], " ++ b ++ text ", name)") xs := by
  obtain ⟨n, function⟩ : ∃ n, Spells (if optional then text "documented.LookupOpt" else text "documented.Lookup")
      [(Token.ident, text "documented"), (Token.period, []), (Token.ident, n)] := by
    cases optional with
    | false => exact ⟨text "Lookup", spells_runtimeName (n := text "Lookup") (by simp [runtimeNames])⟩
    | true => exact ⟨text "LookupOpt", spells_runtimeName (n := text "LookupOpt") (by simp [runtimeNames])⟩
  generalize (if optional then text "documented.LookupOpt" else text "documented.Lookup") = f at function
  have slice : Spells (text "[:],") [(Token.lbrack, []), (Token.colon, []), (Token.rbrack, []), comma] := spells_piece (by simp [pieces])
  have last : Spells (text ", name)") [comma, (Token.ident, text "name"), (Token.rparen, [])] := spells_piece (by simp [pieces])
  have rest := (spells_identifier hb).append last (.cons (by decide) _)
  have arguments := ((spells_identifier ha).append (slice.spaced rest) (.cons (by decide) _)).lparen
  refine ⟨callForm (text "documented") n [sliceForm a, [(Token.ident, b)], [(Token.ident, text "name")]],
    (function.append arguments (.cons (by decide) _)).congr ?_ ?_, isExpression_callForm ?_, ?_⟩
  · simp only [List.append_assoc]
    rfl
  · simp [callForm, separated, sliceForm]
  · simp [isExpression_sliceForm, isExpression_name]
  · simp [callForm, endsStatement_append, endsStatement_cons, endsStatement_singleton, Token.endsStatement]

theorem declares_fieldDecls (h : t.IsWritable) {index : LookupTable} (positions : ∀ e ∈ index.entries, 0 ≤ e.index) :
    Declares (fieldDecls t index) := by
  have docs := isIdentifier_variable h (n := text "fieldDocs") (by simp)
  have names := isIdentifier_variable h (n := text "fieldNames") (by simp)
  have keys := isIdentifier_variable h (n := text "fieldIndex") (by simp)
  obtain ⟨xs, array, data⟩ := exists_array t.items.length t.optional
  obtain ⟨ys, plain, data'⟩ := exists_array t.items.length false
  have map : Spells (text "map[string]int" ++ openBrace) ((Token.kMap, text "map") :: (Token.lbrack, []) ::
      ([(Token.ident, text "string")] ++ (Token.rbrack, []) :: [(Token.ident, text "int")]) ++ [(Token.lbrace, [])]) := spells_piece (by simp [pieces])
  unfold fieldDecls
  refine .append (.append (.append (.append (.append (.append (.append (.append (.append ?_ ?_) ?_) ?_) ?_) ?_) ?_) ?_) ?_) ?_
  · refine declares_literalVar docs array data fun e he => ?_
    obtain ⟨i, hi, rfl⟩ := List.mem_map.1 he
    have cut := h.items i hi
    split
    · exact (expresses_optionExpr cut).imp fun _ e => ⟨e.spells, e.form.isElement⟩
    · exact (expresses_docExpr cut).imp fun _ e => ⟨e.spells, e.form.isElement⟩
  · refine declares_literalVar names plain data' fun e he => ?_
    obtain ⟨i, -, rfl⟩ := List.mem_map.1 he
    exact ⟨_, (expresses_quote i.name).spells, (expresses_quote i.name).form.isElement⟩
  · refine declares_literalVar keys map isDataType_map fun e he => ?_
    obtain ⟨k, hk, rfl⟩ := List.mem_map.1 he
    exact exists_entry (positions k hk)
  · exact declares_assertion h.name (by simp)
  · exact declares_about h (by simp [remarks]) (by simp [remarks])
  · refine declares_tableMethod h (isSignature_fieldDocs t.optional) ?_
    have body := isBody_slice (a := text "docs") (by decide) docs (spells_piece (by simp [pieces]))
    rw [← List.append_assoc] at body
    exact body
  · exact declares_about h (by simp [remarks]) (by simp [remarks])
  · refine declares_tableMethod h isSignature_fieldNames ?_
    have body := isBody_slice (a := text "names") (by decide) names (spells_piece (by simp [pieces]))
    rw [← List.append_assoc] at body
    exact body
  · exact declares_comment (isRemark_of_plain (plain_of_mem_remarks _ (by simp [remarks])))
  · refine declares_tableMethod h isSignature_getFieldDocs ?_
    obtain ⟨zs, lookup⟩ := exists_lookup t.optional docs keys
    have body := (states_return lookup).isBody
    simp only [List.append_assoc] at body ⊢
    exact body

/-! ## Methods for the constants of an enum -/

theorem isSignature_variants (optional : Bool) :
    IsSignature (text "VariantDocs() " ++ if optional then text "(string, bool)" else text "string") := by
  cases optional with
  | false => exact isSignature_of_mem (n := text "VariantDocs") (by simp [signatures]) isParameters_nil isResult_text
  | true =>
    exact isSignature_of_mem (n := text "VariantDocs") (by simp [signatures, comma]) isParameters_nil isResult_text_bool

/-- The lines for one constant are a clause of a switch. -/
theorem exists_clause {i : TableItem} (hn : isIdentifier i.ident = true) (cut : i.docs.IsCut) :
    ∃ p : Text × List Symbol, Written ((variantCase t i).flatMap bodyLine) (clauseForm p.1 p.2) ∧ IsStatement p.2 := by
  obtain ⟨xs, value⟩ := expresses_docExpr cut
  obtain ⟨ys, statement⟩ : ∃ ys, States (text "return " ++ docExpr i.docs ++ if t.optional then text ", true" else []) ys := by
    split
    · exact ⟨_, states_return_pair value expresses_true⟩
    · exact ⟨_, by simpa using states_return value⟩
  have keyword : Spells (text "case") [(Token.kCase, text "case")] := spells_word (by decide)
  have colon : Spells (text ":") [(Token.colon, [])] := spells_piece (by simp [pieces])
  have head := keyword.spaced ((spells_identifier hn).append colon (.cons (by decide) _))
  have first := written_open (head.blank (b := 9) (.inr rfl)) rfl
  have second := written_ended ((statement.spells.blank (b := 9) (.inr rfl)).blank (b := 9) (.inr rfl)) statement.ended
  refine ⟨(i.ident, ys ++ [lineEnd]), ?_, statement.form⟩
  have written := first.append second
  have text_eq : 9 :: (text "case" ++ 32 :: (i.ident ++ text ":")) ++ [10] ++
      (9 :: 9 :: (text "return " ++ docExpr i.docs ++ if t.optional then text ", true" else []) ++ [10]) =
      (variantCase t i).flatMap bodyLine := by
    simp only [variantCase, List.flatMap_cons, List.flatMap_nil, bodyLine_eq, List.append_assoc, List.cons_append]
    rfl
  rwa [text_eq] at written

/-- The lines for the constants are a switch. -/
theorem isBody_switch {items : List TableItem} (named : ∀ i ∈ items, isIdentifier i.ident = true)
    (cut : ∀ i ∈ items, i.docs.IsCut) :
    IsBody ([text "switch v " ++ openBrace] ++ items.flatMap (variantCase t) ++ [closeBrace]) := by
  obtain ⟨clauses, written, statements, -⟩ :=
    exists_written_flatMap (fun p : Text × List Symbol => clauseForm p.1 p.2) fun i hi =>
      exists_clause (t := t) (named i hi) (cut i hi)
  have head : Spells (text "switch v " ++ openBrace) [(Token.kSwitch, text "switch"), (Token.ident, text "v"), (Token.lbrace, [])] :=
    spells_piece (by simp [pieces])
  have start := written_open (head.blank (b := 9) (.inr rfl)) rfl
  have stop := written_ended (spells_closeBrace.blank (b := 9) (.inr rfl)) rfl
  refine ⟨[switchForm (text "v") (clauses.map fun p => clauseForm p.1 p.2)], ?_,
    List.forall_mem_singleton.2 (isStatement_switchForm statements)⟩
  have lines := start.append (written.append stop)
  simpa [switchForm, bodyLine_eq, List.flatMap_assoc, ← List.flatMap_def] using lines

theorem declares_variantsMethod (h : t.IsWritable) (family : t.base = AttributeBase.documentedVariants.name) :
    Declares (variantsMethod t) := by
  have shape : variantsMethod t =
      let items := t.items.filter fun i => !t.optional || i.docs.isPresent
      let cases := items.flatMap (variantCase t)
      assertion t "DocumentedVariants" ++
        comment (text "VariantDocs returns the documentation of the " ++ t.decl.name ++ text " constant v holds.") ++
        method (text "v " ++ t.decl.receiver)
          (text "VariantDocs() " ++ if t.optional then text "(string, bool)" else text "string")
          ((if cases.isEmpty then [] else [text "switch v " ++ openBrace] ++ cases ++ [closeBrace]) ++
            [text "return " ++ if t.optional then text "\"\", false" else text "\"\""]) := by
    unfold variantsMethod
    cases t.optional <;> rfl
  rw [shape]
  refine ((declares_assertion h.name (by simp)).append (declares_about h (by simp [remarks]) (by simp [remarks]))).append ?_
  have receiver := (spells_identifier (n := text "v") (by decide)).spaced (spells_receiver h)
  refine declares_method receiver (isParameter_named _) (isSignature_variants t.optional) (.append ?_ (isBody_absent t.optional))
  split
  · exact ⟨[], written_nil, by simp⟩
  · exact isBody_switch (fun i hi => h.idents family i (List.mem_of_mem_filter hi))
      fun i hi => h.items i (List.mem_of_mem_filter hi)

/-- **What an emitter writes is read as declarations.** -/
theorem declares_emit {e : Emitter} {code : Text} (h : t.IsWritable) (own : t.base = e.name) (emitted : e.emit t = .ok code) :
    Declares code := by
  cases e with
  | const =>
    unfold emit at emitted
    dsimp only at emitted
    split at emitted
    · cases emitted
    · cases emitted
      exact .flatMap fun n hn => declares_constDecl h (h.constNames own n hn)
  | docs =>
    cases emitted
    exact declares_docsMethod h
  | fields =>
    unfold emit at emitted
    dsimp only at emitted
    split at emitted
    · next compiled =>
      cases emitted
      exact declares_fieldDecls h (h.positions own _ compiled)
    · cases emitted
  | variants =>
    cases emitted
    exact declares_variantsMethod h own

end Emitter

end DocAccessors
