import DocAccessors.Generate.Emitter
import DocAccessors.Proofs.Generate.Forms
import DocAccessors.Proofs.Source.Spelling
import DocAccessors.Proofs.Table.Expressions

/-!
# The parts of generated code

What the parts that emitters put together are read as: expressions, statements and declarations.

* `Expresses e xs`: the text `e` is read as the expression `xs`; `expresses_docExpr`, `expresses_optionExpr` are those for
  documentation;
* `Declares t`: the lines `t` are read as declarations;
* `declares_comment`, `declares_assertion`, `declares_method`, `declares_literalVar`: the parts of emitters are.
-/

namespace DocAccessors

open Source Source.Grammar
open Text (glyphs)

namespace Source

variable {p q : Text} {xs ys : List Symbol}

theorem Spells.congr (h : Spells p xs) (text_eq : p = q) (symbols_eq : xs = ys) : Spells q ys := text_eq ▸ symbols_eq ▸ h

/-- A blank between two parts. -/
theorem Spells.spaced (h : Spells p xs) (h' : Spells q ys) : Spells (p ++ 32 :: q) (xs ++ ys) :=
  h.append (h'.blank (.inl rfl)) (.cons (by decide) q)

/-- A line that ends with a token that no semicolon follows. -/
theorem written_open (h : Spells p xs) (goesOn : endsStatement xs = false) : Written (p ++ [10]) xs := by
  simpa [goesOn] using written_line h

/-- A line that ends with a token that a semicolon follows. -/
theorem written_ended (h : Spells p xs) (ended : endsStatement xs = true) : Written (p ++ [10]) (xs ++ [lineEnd]) := by
  simpa [ended] using written_line h

/-- Lines of which each is read as a form. -/
theorem exists_written_flatMap {ι α : Type} {f : ι → Text} (form : α → List Symbol) {P : α → Prop} {is : List ι}
    (h : ∀ i ∈ is, ∃ a, Written (f i) (form a) ∧ P a) :
    ∃ as : List α, Written (is.flatMap f) (as.flatMap form) ∧ (∀ a ∈ as, P a) ∧ as.length = is.length := by
  induction is with
  | nil => exact ⟨[], written_nil, by simp, rfl⟩
  | cons i is ih =>
    obtain ⟨first, rest⟩ := List.forall_mem_cons.1 h
    obtain ⟨a, written, ha⟩ := first
    obtain ⟨as, written', has, length⟩ := ih rest
    exact ⟨a :: as, written.append written', List.forall_mem_cons.2 ⟨ha, has⟩, by simp [length]⟩

end Source

namespace Emitter

/-! ## Pieces of code -/

/-- What emitters write as it is, with its symbols. -/
def pieces : List (Text × List Symbol) :=
  [(text ",", [comma]), (text ":", [(Token.colon, [])]), (text "=", [(Token.assign, [])]), (text ":=", [(Token.define, [])]),
    (text "]", [(Token.rbrack, [])]), (text ")", [(Token.rparen, [])]), (closeBrace, [(Token.rbrace, [])]),
    (text ")(nil)", [(Token.rparen, []), (Token.lparen, []), (Token.ident, text "nil"), (Token.rparen, [])]),
    (text "docs" ++ text "[:]", sliceForm (text "docs")), (text "names" ++ text "[:]", sliceForm (text "names")),
    (text "[:],", [(Token.lbrack, []), (Token.colon, []), (Token.rbrack, []), comma]),
    (text ", name)", [comma, (Token.ident, text "name"), (Token.rparen, [])]),
    (text "documented.None()", callForm (text "documented") (text "None") []),
    (text "]" ++ text "string" ++ openBrace, [(Token.rbrack, []), (Token.ident, text "string"), (Token.lbrace, [])]),
    (text "]" ++ text "documented.Option" ++ openBrace,
      [(Token.rbrack, []), (Token.ident, text "documented"), (Token.period, []), (Token.ident, text "Option"), (Token.lbrace, [])]),
    (text "map[string]int" ++ openBrace,
      [(Token.kMap, text "map"), (Token.lbrack, []), (Token.ident, text "string"), (Token.rbrack, []), (Token.ident, text "int"), (Token.lbrace, [])]),
    (text "switch v " ++ openBrace, [(Token.kSwitch, text "switch"), (Token.ident, text "v"), (Token.lbrace, [])])]

theorem spells_piece {t : Text} {xs : List Symbol} (known : (t, xs) ∈ pieces) : Spells t xs := by
  have whole : ∀ p ∈ pieces, WholeTokens p.1 ∧ symbolsOf p.1 = p.2 := by decide +kernel
  exact .of_whole (whole _ known)

/-- What the code refers to in the run-time package. -/
def runtimeNames : List Text :=
  [text "Some", text "Lookup", text "LookupOpt", text "Documented", text "DocumentedOpt", text "DocumentedFields",
    text "DocumentedFieldsOpt", text "DocumentedVariants", text "DocumentedVariantsOpt"]

theorem spells_runtimeName {n : Text} (known : n ∈ runtimeNames) :
    Spells (text "documented." ++ n) [(Token.ident, text "documented"), (Token.period, []), (Token.ident, n)] := by
  have whole : ∀ n ∈ runtimeNames, WholeTokens (text "documented." ++ n) ∧
      symbolsOf (text "documented." ++ n) = [(Token.ident, text "documented"), (Token.period, []), (Token.ident, n)] := by decide +kernel
  exact .of_whole (whole n known)

/-! ## Expressions -/

/-- Wherever it stands before a delimiter, the text is read as the expression. -/
structure Expresses (e : Text) (xs : List Symbol) : Prop where
  spells : Spells e xs
  form : IsExpression xs
  ended : endsStatement xs = true

theorem expresses_quote (t : Text) : Expresses (Text.quote t) [(Token.string, Text.quote t)] :=
  ⟨.of_whole (symbolsOf_quote t), isExpression_literal _, rfl⟩

theorem expresses_name {n : Text} (h : isIdentifier n = true) : Expresses n [(Token.ident, n)] :=
  ⟨spells_identifier h, isExpression_name n, rfl⟩

theorem expresses_cut {e : Text} (cut : IsCutExpression e) : Expresses e (symbolsOf e) := by
  obtain ⟨x, parses⟩ := cut.parses
  exact ⟨cut.whole.spells, isExpression_of_parse parses cut.whole, (edges_of_parse parses cut.whole).2⟩

/-- **The expression for documentation is one.** -/
theorem expresses_docExpr {v : DocValue} (cut : v.IsCut) : ∃ xs, Expresses (docExpr v) xs := by
  cases v with
  | absent => exact ⟨_, expresses_quote []⟩
  | text t => exact ⟨_, expresses_quote t⟩
  | default e => exact ⟨_, expresses_cut (cut e rfl)⟩

/-- A call of a function of the run-time package. -/
theorem expresses_call {f e : Text} {n : Text} {xs : List Symbol}
    (function : Spells f [(Token.ident, text "documented"), (Token.period, []), (Token.ident, n)])
    (h : Expresses e xs) : Expresses (f ++ text "(" ++ e ++ text ")") (callForm (text "documented") n [xs]) := by
  have close : Spells (text ")") [(Token.rparen, [])] := spells_piece (by simp [pieces])
  have argument : Spells (40 :: (e ++ text ")")) ((Token.lparen, []) :: (xs ++ [(Token.rparen, [])])) :=
    (h.spells.append close (.cons (by decide) [])).lparen
  refine ⟨(function.append argument (.cons (by decide) _)).congr (by simp only [List.append_assoc]; rfl) ?_, ?_, ?_⟩
  · simp [callForm, separated]
  · exact isExpression_callForm (List.forall_mem_singleton.2 h.form)
  · simp [callForm, endsStatement_append, endsStatement_cons, endsStatement_singleton, Token.endsStatement]

theorem expresses_optionExpr {v : DocValue} (cut : v.IsCut) : ∃ xs, Expresses (optionExpr v) xs := by
  unfold optionExpr
  split
  · obtain ⟨xs, h⟩ := expresses_docExpr cut
    exact ⟨_, expresses_call (spells_runtimeName (n := text "Some") (by simp [runtimeNames])) h⟩
  · exact ⟨callForm (text "documented") (text "None") [], spells_piece (by simp [pieces]),
      isExpression_callForm (by simp), by decide⟩

/-! ## Comments -/

/-- The text stands on one line, and nothing is wrong with it in a comment. -/
def IsRemark (t : Text) : Prop := ∀ g ∈ glyphs t, g.char ≠ '\n' ∧ ∀ o, Reader.glyphFault? o g = none

theorem IsRemark.plain_append {t u : Text} (plain : ∀ b ∈ t, b < 0x80 ∧ b ≠ 0 ∧ b ≠ 10) (h : IsRemark u) : IsRemark (t ++ u) := by
  have other : ∀ b : UInt8, b < 0x80 → b ≠ 10 → Char.ofNat b.toNat ≠ '\n' := by decide +kernel
  intro g hg
  rw [Text.glyphs_ascii_append t fun b hb => (plain b hb).1] at hg
  rcases List.mem_append.1 hg with hg | hg
  · obtain ⟨b, hb, rfl⟩ := List.mem_map.1 hg
    obtain ⟨ascii, none, line⟩ := plain b hb
    exact ⟨other b ascii line, fine_byte ascii none [] _ (by rw [Text.glyphs_ascii ascii]; rfl)⟩
  · exact h g hg

theorem isRemark_of_plain {t : Text} (plain : ∀ b ∈ t, b < 0x80 ∧ b ≠ 0 ∧ b ≠ 10) : IsRemark t := by
  have empty : IsRemark [] := by simp [IsRemark, glyphs]
  simpa using empty.plain_append plain

theorem isRemark_name {n : Text} (h : isIdentifier n = true) : IsRemark n := by
  obtain ⟨-, -, -, -, parts⟩ := exists_glyphs_of_isWord (isIdentifier_iff.1 h).1
  have other : Text.isIdentPart '\n' = false := by decide
  refine fun g hg => ⟨fun same => ?_, fine_of_isIdentPart (parts g hg)⟩
  have part := parts g hg
  rw [same, other] at part
  cases part

theorem IsRemark.append {t u : Text} (h : IsRemark t) (h' : IsRemark u) (ascii : ∀ b ∈ u.head?, b < 0x80) :
    IsRemark (t ++ u) := by
  cases u with
  | nil => rwa [List.append_nil]
  | cons b u =>
    rw [IsRemark, Text.glyphs_append_ascii (ascii b rfl)]
    exact fun g hg => (List.mem_append.1 hg).elim (h g) (h' g)

/-- What comments say beside names. -/
def remarks : List Text :=
  [text " is the documentation of ", text ".", text "Docs returns the documentation of ",
    text "FieldDocs returns the documentation of each field of ", text ", in declaration order.",
    text "FieldNames returns the lookup name of each field of ", text ", \"\" for unnamed ones.",
    text "GetFieldDocs returns the documentation of the field published under name.",
    text "VariantDocs returns the documentation of the ", text " constant v holds."]

theorem plain_of_mem_remarks : ∀ t ∈ remarks, ∀ b ∈ t, b < 0x80 ∧ b ≠ 0 ∧ b ≠ 10 := by decide +kernel

/-! ## Declarations -/

/-- The lines are read as declarations. -/
def Declares (t : Text) : Prop := ∃ xss : List (List Symbol), Written t xss.flatten ∧ ∀ xs ∈ xss, IsDecl xs

namespace Declares

theorem nil : Declares [] := ⟨[], written_nil, by simp⟩

theorem of_written {t : Text} {xs : List Symbol} (h : Written t xs) (decl : IsDecl xs) : Declares (t ++ text "\n") :=
  ⟨[xs], by simpa [show text "\n" = [10] from rfl] using h.append written_blank, List.forall_mem_singleton.2 decl⟩

theorem append {t u : Text} (h : Declares t) (h' : Declares u) : Declares (t ++ u) := by
  obtain ⟨xss, written, decls⟩ := h
  obtain ⟨yss, written', decls'⟩ := h'
  exact ⟨xss ++ yss, by simpa using written.append written', List.forall_mem_append.2 ⟨decls, decls'⟩⟩

theorem flatMap {α : Type} {f : α → Text} {as : List α} (h : ∀ a ∈ as, Declares (f a)) : Declares (as.flatMap f) := by
  induction as with
  | nil => exact nil
  | cons a as ih =>
    obtain ⟨first, rest⟩ := List.forall_mem_cons.1 h
    exact first.append (ih rest)

end Declares

theorem declares_comment {t : Text} (h : IsRemark t) : Declares (comment t) :=
  ⟨[], written_remark h, by simp⟩

theorem spells_equals : Spells (text "=") [(Token.assign, [])] := spells_piece (by simp [pieces])

/-- The definition of a constant. -/
theorem declares_const {name e : Text} {xs : List Symbol} (hn : isIdentifier name = true) (he : Expresses e xs) :
    Declares (text "const " ++ name ++ text " = " ++ e ++ text "\n\n") := by
  have keyword : Spells (text "const") [(Token.kConst, text "const")] := spells_word (by decide)
  have line := keyword.spaced ((spells_identifier hn).spaced (spells_equals.spaced he.spells))
  have written := written_ended line (by simp [endsStatement_cons, he.spells.some_symbol, he.ended])
  have declares := Declares.of_written written (isDecl_constForm he.form)
  have text_eq : text "const" ++ 32 :: (name ++ 32 :: (text "=" ++ 32 :: e)) ++ [10] ++ text "\n" =
      text "const " ++ name ++ text " = " ++ e ++ text "\n\n" := by
    simp only [List.append_assoc, List.cons_append]
    rfl
  rwa [text_eq] at declares

theorem spells_var : Spells (text "var") [(Token.kVar, text "var")] := spells_word (by decide)

theorem spells_closeBrace : Spells closeBrace [(Token.rbrace, [])] := spells_piece (by simp [pieces])

/-- The conversion of the null pointer. -/
theorem spells_null {n : Text} (hn : isIdentifier n = true) : Spells (text "(*" ++ n ++ text ")(nil)") (nullForm n) := by
  have arguments : Spells (text ")(nil)") [(Token.rparen, []), (Token.lparen, []), (Token.ident, text "nil"), (Token.rparen, [])] :=
    spells_piece (by simp [pieces])
  have ended : Ended (text ")(nil)") := .cons (by decide) _
  have name := spells_identifier hn
  have plain : ∀ g ∈ (glyphs (n ++ text ")(nil)")).head?, g.char ≠ '=' := by
    obtain ⟨g, gs, glyphs_eq, first, -⟩ := exists_glyphs_of_isWord (isIdentifier_iff.1 hn).1
    have other : Text.isIdentStart '=' = false := by decide
    rw [name.head_append ended, glyphs_eq]
    rintro _ ⟨⟩ same
    rw [same, other] at first
    cases first
  exact ((name.append arguments ended).star plain).lparen

/-- The check that a type has the methods of an interface. -/
theorem declares_assertion {t : DocTable} {interface : Text} (hn : isIdentifier t.decl.name = true)
    (known : interface ∈ [text "Documented", text "DocumentedFields", text "DocumentedVariants"]) :
    Declares (assertion t interface) := by
  unfold assertion
  split
  · have type : Spells (text "documented." ++ interface ++ (if t.optional then text "Opt" else []))
        [(Token.ident, text "documented"), (Token.period, []), (Token.ident, interface ++ if t.optional then text "Opt" else [])] := by
      rw [List.append_assoc]
      refine spells_runtimeName ?_
      cases t.optional <;> fin_cases known <;> decide
    generalize (if t.optional then text "Opt" else []) = form at type
    have blank : Spells (text "_") [(Token.ident, text "_")] := spells_identifier (by decide)
    have line := spells_var.spaced (blank.spaced (type.spaced (spells_equals.spaced (spells_null hn))))
    have written := written_ended line
      (by simp [nullForm, separated, endsStatement_cons, endsStatement_singleton, Token.endsStatement])
    have declares := Declares.of_written written isDecl_assertionForm
    have text_eq : text "var" ++ 32 :: (text "_" ++ 32 :: (text "documented." ++ interface ++ form ++ 32 ::
        (text "=" ++ 32 :: (text "(*" ++ t.decl.name ++ text ")(nil)")))) ++ [10] ++ text "\n" =
        text "var _ documented." ++ interface ++ form ++ text " = (*" ++ t.decl.name ++ text ")(nil)\n\n" := by
      simp only [List.append_assoc, List.cons_append]
      rfl
    rwa [text_eq] at declares
  · exact .nil

/-! ## Literals -/

/-- A line for an element of a literal. -/
theorem exists_element {e : Text} (h : ∃ xs, Spells e xs ∧ IsElement xs) :
    ∃ xs, Written (text "\t" ++ e ++ text ",\n") (xs ++ [comma]) ∧ IsElement xs := by
  obtain ⟨xs, spells, element⟩ := h
  have separator : Spells (text ",") [comma] := spells_piece (by simp [pieces])
  have line := (spells.append separator (.cons (by decide) [])).blank (b := 9) (.inr rfl)
  refine ⟨xs, ?_, element⟩
  have written := written_open line (by simp [endsStatement_append, endsStatement_singleton, comma, Token.endsStatement])
  have text_eq : 9 :: (e ++ text ",") ++ [10] = text "\t" ++ e ++ text ",\n" := by
    simp only [List.append_assoc, List.cons_append]
    rfl
  rwa [text_eq] at written

/-- The definition of a variable by a literal. -/
theorem declares_literalVar {name type : Text} {elements : List Text} {xs : List Symbol} (hn : isIdentifier name = true)
    (ht : Spells (type ++ openBrace) (xs ++ [(Token.lbrace, [])])) (data : IsDataType xs)
    (each : ∀ e ∈ elements, ∃ xs, Spells e xs ∧ IsElement xs) : Declares (literalVar name type elements) := by
  obtain ⟨xss, lines, forms, -⟩ := exists_written_flatMap (· ++ [comma]) fun e he => exists_element (each e he)
  have head := spells_var.spaced ((spells_identifier hn).spaced (spells_equals.spaced ht))
  have start := written_open head
    (by simp [endsStatement_cons, endsStatement_append, endsStatement_singleton, Token.endsStatement])
  have stop := written_ended spells_closeBrace rfl
  have symbols_eq : [(Token.kVar, text "var")] ++ ([(Token.ident, name)] ++ ([(Token.assign, [])] ++ (xs ++ [(Token.lbrace, [])]))) ++
      (xss.flatMap (· ++ [comma]) ++ ([(Token.rbrace, [])] ++ [lineEnd])) = literalForm name xs xss := by
    simp [literalForm, bracesForm]
  have written := start.append (lines.append stop)
  rw [symbols_eq] at written
  have declares := Declares.of_written written (isDecl_literalForm data forms)
  have text_eq : text "var" ++ 32 :: (name ++ 32 :: (text "=" ++ 32 :: (type ++ openBrace))) ++ [10] ++
      (elements.flatMap (fun e => text "\t" ++ e ++ text ",\n") ++ (closeBrace ++ [10])) ++ text "\n" =
      literalVar name type elements := by
    unfold literalVar
    simp only [List.append_assoc, List.cons_append]
    rfl
  rwa [text_eq] at declares

/-! ## Methods -/

/-- The signature of a method. -/
def IsSignature (s : Text) : Prop := ∃ n params result,
  Spells (text ") " ++ s ++ text " " ++ openBrace) ((Token.rparen, []) :: (Token.ident, n) :: (params ++ (result ++ [(Token.lbrace, [])]))) ∧
    IsParameters params ∧ IsResult result

/-- The signatures that emitters write, with their names, parameters and results. -/
def signatures : List (Text × Text × List Symbol × List Symbol) :=
  [(text "Docs() string", text "Docs", [(Token.lparen, []), (Token.rparen, [])], [(Token.ident, text "string")]),
    (text "Docs() (string, bool)", text "Docs", [(Token.lparen, []), (Token.rparen, [])],
      [(Token.lparen, []), (Token.ident, text "string"), comma, (Token.ident, text "bool"), (Token.rparen, [])]),
    (text "FieldDocs() []" ++ text "string", text "FieldDocs", [(Token.lparen, []), (Token.rparen, [])],
      [(Token.lbrack, []), (Token.rbrack, []), (Token.ident, text "string")]),
    (text "FieldDocs() []" ++ text "documented.Option", text "FieldDocs", [(Token.lparen, []), (Token.rparen, [])],
      [(Token.lbrack, []), (Token.rbrack, []), (Token.ident, text "documented"), (Token.period, []), (Token.ident, text "Option")]),
    (text "FieldNames() []string", text "FieldNames", [(Token.lparen, []), (Token.rparen, [])],
      [(Token.lbrack, []), (Token.rbrack, []), (Token.ident, text "string")]),
    (text "GetFieldDocs(name string) (string, error)", text "GetFieldDocs",
      [(Token.lparen, []), (Token.ident, text "name"), (Token.ident, text "string"), (Token.rparen, [])],
      [(Token.lparen, []), (Token.ident, text "string"), comma, (Token.ident, text "error"), (Token.rparen, [])]),
    (text "VariantDocs() " ++ text "string", text "VariantDocs", [(Token.lparen, []), (Token.rparen, [])], [(Token.ident, text "string")]),
    (text "VariantDocs() " ++ text "(string, bool)", text "VariantDocs", [(Token.lparen, []), (Token.rparen, [])],
      [(Token.lparen, []), (Token.ident, text "string"), comma, (Token.ident, text "bool"), (Token.rparen, [])])]

theorem isSignature_of_mem {s n : Text} {params result : List Symbol} (known : (s, n, params, result) ∈ signatures)
    (hp : IsParameters params) (hr : IsResult result) : IsSignature s := by
  have whole : ∀ p ∈ signatures, WholeTokens (text ") " ++ p.1 ++ text " " ++ openBrace) ∧
      symbolsOf (text ") " ++ p.1 ++ text " " ++ openBrace) =
        (Token.rparen, []) :: (Token.ident, p.2.1) :: (p.2.2.1 ++ (p.2.2.2 ++ [(Token.lbrace, [])])) := by decide +kernel
  exact ⟨n, params, result, .of_whole (whole _ known), hp, hr⟩

/-- A line of the body of a method. -/
def bodyLine (l : Text) : Text := text "\t" ++ l ++ text "\n"

/-- The lines of the body of a method. -/
def IsBody (body : List Text) : Prop := ∃ xss : List (List Symbol), Written (body.flatMap bodyLine) xss.flatten ∧
  ∀ xs ∈ xss, IsStatement xs

theorem bodyLine_eq (l : Text) : bodyLine l = 9 :: l ++ [10] := rfl

theorem IsBody.append {ls ls' : List Text} (h : IsBody ls) (h' : IsBody ls') : IsBody (ls ++ ls') := by
  obtain ⟨xss, written, statements⟩ := h
  obtain ⟨yss, written', statements'⟩ := h'
  exact ⟨xss ++ yss, by simpa using written.append written', List.forall_mem_append.2 ⟨statements, statements'⟩⟩

/-- A statement on one line. -/
theorem isBody_line {l : Text} {xs : List Symbol} (h : Spells l xs) (ended : endsStatement xs = true)
    (statement : IsStatement (xs ++ [lineEnd])) : IsBody [l] := by
  refine ⟨[xs ++ [lineEnd]], ?_, List.forall_mem_singleton.2 statement⟩
  have written := written_ended (h.blank (b := 9) (.inr rfl)) ended
  simpa [bodyLine_eq] using written

theorem declares_method {receiver signature : Text} {body : List Text} {xs : List Symbol} (hr : Spells receiver xs)
    (parameter : IsParameter xs) (hs : IsSignature signature) (hb : IsBody body) : Declares (method receiver signature body) := by
  obtain ⟨n, params, result, tail, hp, ht⟩ := hs
  obtain ⟨xss, lines, statements⟩ := hb
  have keyword : Spells (text "func") [(Token.kFunc, text "func")] := spells_word (by decide)
  have ended : Ended (text ") " ++ signature ++ text " " ++ openBrace) := .cons (by decide) _
  have start := written_open (keyword.spaced (hr.append tail ended).lparen)
    (by simp [endsStatement_cons, endsStatement_append, endsStatement_singleton, Token.endsStatement])
  have stop := written_ended spells_closeBrace rfl
  have symbols_eq : [(Token.kFunc, text "func")] ++ (Token.lparen, []) :: (xs ++ (Token.rparen, []) :: (Token.ident, n) ::
      (params ++ (result ++ [(Token.lbrace, [])]))) ++ (xss.flatten ++ ([(Token.rbrace, [])] ++ [lineEnd])) =
      methodForm xs n params result xss := by
    simp [methodForm]
  have written := start.append (lines.append stop)
  rw [symbols_eq] at written
  have declares := Declares.of_written written (isDecl_methodForm parameter hp ht statements)
  have text_eq : text "func" ++ 32 :: 40 :: (receiver ++ (text ") " ++ signature ++ text " " ++ openBrace)) ++ [10] ++
      (body.flatMap bodyLine ++ (closeBrace ++ [10])) ++ text "\n" = method receiver signature body := by
    unfold method
    simp only [List.append_assoc, List.cons_append]
    rfl
  rwa [text_eq] at declares

end Emitter

end DocAccessors
