import DocAccessors.Proofs.Source.Sentences

/-!
# The forms of generated declarations

What generated declarations are, as sequences of symbols, and that the grammar reads them.
-/

namespace DocAccessors.Source.Grammar

open Rules

/-- The symbols are a declaration at the top level of a file, if the rules go deep enough. -/
structure IsDecl (xs : List Symbol) : Prop where
  first : ∀ u, firstToken xs u ∈ [.kConst, .kVar, .kFunc]
  takes : ∀ {fuel depth : Nat}, xs.length < fuel → 4 * xs.length + 36 ≤ depth → ∀ u,
    Takes {} (Rules.ofDepth fuel depth).decl xs u fun _ => True

variable {n a : Text} {xs v : List Symbol} {fuel d : Nat} {u : Token}

theorem IsDecl.some_symbol (h : IsDecl xs) : 1 ≤ xs.length := by
  have first := h.first .eof
  cases xs with
  | nil => exact absurd first (by simp)
  | cons => simp

/-! ## Expressions -/

theorem stop_of_follow (follow : u ∈ [.comma, .rparen, .semicolon]) : u ∈ stops := by
  fin_cases follow <;> decide

theorem isExpression_name (n : Text) : IsExpression [(Token.ident, n)] := by
  refine ⟨by simp [noStart], fun {fuel depth u} _ deep follow => ?_⟩
  obtain ⟨d, rfl⟩ := Nat.exists_eq_add_of_le' (show 2 ≤ depth by omega)
  exact (takes_name (stop_of_follow follow)).imp fun _ _ => trivial

theorem isExpression_literal (n : Text) : IsExpression [(Token.string, n)] := by
  refine ⟨by simp [noStart], fun {fuel depth u} _ deep follow => ?_⟩
  obtain ⟨d, rfl⟩ := Nat.exists_eq_add_of_le' (show 2 ≤ depth by omega)
  exact takes_literal (.inr rfl) (stop_of_follow follow)

/-- A slice of all of a variable. -/
def sliceForm (name : Text) : List Symbol := [(Token.ident, name)] ++ [(Token.lbrack, []), (Token.colon, []), (Token.rbrack, [])]

theorem isExpression_sliceForm : IsExpression (sliceForm n) := by
  refine ⟨by simp [sliceForm, noStart], fun {fuel depth u} enough deep follow => ?_⟩
  obtain ⟨d, rfl⟩ := Nat.exists_eq_add_of_le' (show 2 ≤ depth by omega)
  obtain ⟨k, rfl⟩ := Nat.exists_eq_add_of_le' (show 1 ≤ fuel by omega)
  have weak := weak_of_stop (stop_of_follow follow)
  refine takes_expr (by simp) weak.1 weak.2 takes_operand_ident fun x _ => ?_
  rw [fuel_ofDepth]
  exact takes_primaryRest_slice rfl fun y => takes_primaryRest_stop (stop_of_follow follow) trivial

section

variable {α β : Type} {f : α → List β} {as : List α}

theorem length_le_flatMap_of_mem {a : α} (h : a ∈ as) : (f a).length ≤ (as.flatMap f).length := by
  rw [List.length_flatMap]
  exact List.le_sum_of_mem (List.mem_map_of_mem h)

theorem length_le_flatMap (some_each : ∀ a ∈ as, 1 ≤ (f a).length) : as.length ≤ (as.flatMap f).length := by
  rw [List.length_flatMap]
  simpa using List.length_le_sum_of_one_le (as.map fun a => (f a).length) (by simpa using some_each)

end

/-! ## Constants and variables -/

/-- The definition of a constant. -/
def constForm (name : Text) (value : List Symbol) : List Symbol :=
  (Token.kConst, text "const") :: (Token.ident, name) :: (Token.assign, []) :: (value ++ [lineEnd])

theorem isDecl_constForm (hv : IsExpression v) : IsDecl (constForm n v) := by
  refine ⟨fun u => by simp [constForm], fun {fuel depth} enough deep u => ?_⟩
  obtain ⟨d, rfl⟩ := Nat.exists_eq_add_of_le' (show 8 ≤ depth by omega)
  simp only [constForm, List.length_cons, List.length_append, List.length_nil] at enough deep
  refine takes_decl_gen (.inl rfl) (takes_genDecl (by simp) (takes_valueSpec_const (takes_typeRule_none (by simp)) ?_))
  exact hv.takes (by omega) (by omega) (by simp)

/-- The conversion of the null pointer to a pointer to a type. -/
def nullForm (type : Text) : List Symbol :=
  (Token.lparen, []) :: [(Token.mul, []), (Token.ident, type)] ++ [(Token.rparen, [])] ++
    ((Token.lparen, []) :: (separated [[(Token.ident, text "nil")]] ++ [(Token.rparen, [])]))

theorem takes_nullForm (steps : 1 ≤ fuel) : Takes ⟨true, false⟩ (ofDepth fuel (d + 6)).expr (nullForm n) .semicolon
    fun _ => True := by
  obtain ⟨k, rfl⟩ := Nat.exists_eq_add_of_le' steps
  refine takes_expr (P := fun _ => True) (by simp) (by decide) (by decide) (takes_operand_paren rfl ?_) fun x _ => ?_
  · refine takes_binaryRule Nat.one_pos (by decide) (by decide) (takes_unaryRule_star (takes_unaryRule (by simp) ?_))
    exact takes_operand_ident.last fun x _ => takes_primaryRest_stop (by decide) trivial
  · rw [fuel_ofDepth]
    refine takes_primaryRest_call rfl (fun xs hxs => ?_) (by simp) fun y => takes_primaryRest_stop (by decide) trivial
    rw [List.mem_singleton.1 hxs]
    refine ⟨by simp, fun v hv => (takes_name ?_).imp fun _ _ => trivial⟩
    rcases hv with rfl | rfl <;> decide

/-- The definition of a variable that nothing refers to, with its type. -/
def assertionForm (package interface name : Text) : List Symbol :=
  (Token.kVar, text "var") :: (Token.ident, text "_") :: ([(Token.ident, package), (Token.period, []), (Token.ident, interface)] ++ (Token.assign, []) ::
    (nullForm name ++ [lineEnd]))

theorem isDecl_assertionForm {package interface : Text} : IsDecl (assertionForm package interface n) := by
  refine ⟨fun u => by simp [assertionForm], fun {fuel depth} enough deep u => ?_⟩
  obtain ⟨d, rfl⟩ := Nat.exists_eq_add_of_le' (show 8 ≤ depth by omega)
  refine takes_decl_gen (.inr rfl) (takes_genDecl (by simp) (takes_valueSpec_var (.inr ⟨by simp, by simp, ?_⟩) ?_))
  · exact takes_typeRule_selector (by decide)
  · exact takes_nullForm (by omega)

/-! ## Literals -/

/-- The symbols are an element of a composite literal, if the rules go deep enough. -/
structure IsElement (xs : List Symbol) : Prop where
  first : ∀ u, firstToken xs u ∉ noStart
  takes : ∀ {fuel d : Nat}, xs.length < fuel → 4 * xs.length + 28 ≤ d →
    Takes ⟨true, false⟩ (ofDepth fuel (d + 5)).element xs .comma fun _ => True

theorem noStart_spec {t : Token} (h : t ∉ noStart) : t ≠ .lbrace ∧ t ≠ .rbrace ∧ t ≠ .rparen ∧ t ≠ .semicolon ∧ t ≠ .eof := by
  simpa [noStart] using h

theorem IsExpression.isElement (h : IsExpression v) : IsElement v := by
  refine ⟨h.first, fun {fuel d} enough deep => takes_element (noStart_spec (h.first _)).1 ?_⟩
  exact h.takes enough (by omega) (by simp)

/-- A call of a function of another package. -/
def callForm (package function : Text) (arguments : List (List Symbol)) : List Symbol :=
  [(Token.ident, package)] ++ (Token.period, []) :: (Token.ident, function) :: (Token.lparen, []) :: (separated arguments ++ [(Token.rparen, [])])

theorem takes_callForm {package function : Text} {xss : List (List Symbol)} {u : Token} (stop : u ∈ stops)
    (enough : xss.length ≤ fuel)
    (steps : 3 ≤ fuel)
    (each : ∀ xs ∈ xss, (∀ v, firstToken xs v ≠ .rparen ∧ firstToken xs v ≠ .eof) ∧
      ∀ v, v = .comma ∨ v = .rparen → Takes ⟨true, false⟩ (ofDepth fuel d).expr xs v fun _ => True) :
    Takes ⟨true, false⟩ (ofDepth fuel (d + 2)).expr (callForm package function xss) u fun _ => True := by
  obtain ⟨k, rfl⟩ := Nat.exists_eq_add_of_le' steps
  refine takes_expr (by simp) (weak_of_stop stop).1 (weak_of_stop stop).2 takes_operand_ident fun x _ => ?_
  rw [fuel_ofDepth]
  refine takes_primaryRest_selector fun i => takes_primaryRest_call rfl each ?_ fun y => takes_primaryRest_stop stop trivial
  rwa [fuel_ofDepth]

theorem isExpression_callForm {package function : Text} {xss : List (List Symbol)} (each : ∀ xs ∈ xss, IsExpression xs) :
    IsExpression (callForm package function xss) := by
  refine ⟨by simp [callForm, noStart], fun {fuel depth u} enough deep follow => ?_⟩
  obtain ⟨d, rfl⟩ := Nat.exists_eq_add_of_le' (show 2 ≤ depth by omega)
  simp only [callForm, List.length_append, List.length_cons, List.length_nil] at enough deep
  have count := length_separated_le xss
  refine takes_callForm (stop_of_follow follow) (by omega) (by omega) fun xs hxs => ?_
  have length := length_le_separated hxs
  refine ⟨fun v => ?_, fun v hv => (each xs hxs).takes (by omega) (by omega) (by rcases hv with rfl | rfl <;> simp)⟩
  obtain ⟨-, -, paren, -, eof⟩ := noStart_spec ((each xs hxs).first v)
  exact ⟨paren, eof⟩

/-- An element with its key. -/
theorem isElement_entry {key index : Text} : IsElement ([(Token.string, key)] ++ (Token.colon, []) :: [(Token.int, index)]) := by
  refine ⟨by simp [noStart], fun {fuel d} enough deep => takes_element_keyed (by simp) ?_ (by simp) ?_⟩
  · exact takes_literal (.inr rfl) (by decide)
  · exact takes_literal (.inl rfl) (by decide)

/-- The braces of a composite literal. -/
def bracesForm (elements : List (List Symbol)) : List Symbol :=
  (Token.lbrace, []) :: (elements.flatMap (· ++ [comma]) ++ [(Token.rbrace, [])])

/-- The definition of a variable by a composite literal. -/
def literalForm (name : Text) (type : List Symbol) (elements : List (List Symbol)) : List Symbol :=
  (Token.kVar, text "var") :: (Token.ident, name) :: ([] ++ (Token.assign, []) :: (type ++ bracesForm elements ++ [lineEnd]))

/-- The symbols are a type that composite literals can have everywhere. -/
structure IsDataType (xs : List Symbol) : Prop where
  first : firstToken xs .lbrace = .lbrack ∨ firstToken xs .lbrace = .kMap
  takes : ∀ {fuel d : Nat}, Takes ⟨true, false⟩ (ofDepth fuel (d + 4)).type? xs .lbrace fun t => ∃ x, t = some x ∧ IsData x

theorem isDecl_literalForm {type : List Symbol} {elements : List (List Symbol)} (data : IsDataType type)
    (each : ∀ xs ∈ elements, IsElement xs) : IsDecl (literalForm n type elements) := by
  refine ⟨fun u => by simp [literalForm], fun {fuel depth} enough deep u => ?_⟩
  obtain ⟨d, rfl⟩ := Nat.exists_eq_add_of_le' (show 8 ≤ depth by omega)
  simp only [literalForm, bracesForm, List.length_cons, List.length_append, List.length_nil] at enough deep
  refine takes_decl_gen (.inr rfl) (takes_genDecl (by simp) (takes_valueSpec_var (.inl rfl) ?_))
  have first : firstToken (type ++ bracesForm elements) .semicolon = .lbrack ∨
      firstToken (type ++ bracesForm elements) .semicolon = .kMap := by
    rw [firstToken_append]
    exact data.first
  have count : elements.length ≤ (elements.flatMap (· ++ [comma])).length := length_le_flatMap fun xs _ => by simp
  refine takes_expr ?_ (by decide) (by decide) (takes_operand_type data.first data.takes) fun x hx => ?_
  · rcases first with first | first <;> simp [first]
  · obtain ⟨k, rfl⟩ := Nat.exists_eq_add_of_le' (show 1 ≤ fuel by omega)
    rw [fuel_ofDepth, ← List.append_nil (bracesForm elements)]
    refine takes_primaryRest_literal hx rfl (takes_literalValueRule rfl (fun xs hxs => ?_) ?_)
      fun y => takes_primaryRest_stop (by decide) trivial
    · have length : (xs ++ [comma]).length ≤ (elements.flatMap (· ++ [comma])).length := 
        length_le_flatMap_of_mem (f := (· ++ [comma])) hxs
      rw [List.length_append] at length
      refine ⟨fun v => ?_, (each xs hxs).takes (by omega) (by omega)⟩
      obtain ⟨-, brace, -, -, eof⟩ := noStart_spec ((each xs hxs).first v)
      exact ⟨brace, eof⟩
    · rw [fuel_ofDepth]
      omega

/-- The symbols are a type that the elements of arrays can have. -/
def IsElementType (xs : List Symbol) : Prop :=
  ∀ {fuel d : Nat}, Takes ⟨true, false⟩ (ofDepth fuel (d + 3)).type? xs .lbrace fun t => ∃ x, t = some x ∧ IsPlain x

theorem isElementType_name : IsElementType [(Token.ident, n)] := takes_typeRule_name (by decide) (by decide)

theorem isElementType_selector : IsElementType [(Token.ident, n), (Token.period, []), (Token.ident, a)] := takes_typeRule_selector (by decide)

theorem isDataType_array (count : Text) {type : List Symbol} (h : IsElementType type) :
    IsDataType ((Token.lbrack, []) :: ([(Token.int, count)] ++ (Token.rbrack, []) :: type)) := by
  refine ⟨.inl rfl, takes_typeRule_array rfl rfl ?_ h⟩
  exact takes_literal (.inl rfl) (by decide)

theorem isDataType_map {key value : Text} :
    IsDataType ((Token.kMap, text "map") :: (Token.lbrack, []) :: ([(Token.ident, key)] ++ (Token.rbrack, []) :: [(Token.ident, value)])) :=
  ⟨.inr rfl, takes_typeRule_map (takes_typeRule_name (by decide) (by decide)) (takes_typeRule_name (by decide) (by decide))⟩

/-! ## Statements -/

/-- The symbols are a statement, if the rules go deep enough. -/
structure IsStatement (xs : List Symbol) : Prop where
  first : ∀ u, firstToken xs u ∉ [.kCase, .kDefault, .rbrace, .eof]
  takes : ∀ {fuel depth : Nat}, xs.length < fuel → 4 * xs.length + 36 ≤ depth → ∀ u,
    Takes {} (ofDepth fuel depth).stmt xs u fun _ => True

def returnForm (values : List (List Symbol)) : List Symbol := (Token.kReturn, text "return") :: (separated values ++ [lineEnd])

theorem isStatement_returnForm (values : List (List Symbol)) (some_value : values ≠ [])
    (each : ∀ xs ∈ values, IsExpression xs) : IsStatement (returnForm values) := by
  refine ⟨fun u => by simp [returnForm], fun {fuel depth} enough deep u => ?_⟩
  obtain ⟨d, rfl⟩ := Nat.exists_eq_add_of_le' (show 1 ≤ depth by omega)
  simp only [returnForm, List.length_cons, List.length_append, List.length_nil] at enough deep
  have count := length_separated_le values
  refine takes_stmtRule_return (takes_returnStmt some_value (by rw [fuel_ofDepth]; omega) ?_ fun xs hxs v hv => ?_)
  · obtain ⟨xs, xss, rfl⟩ := List.exists_cons_of_ne_nil some_value
    rw [separated_cons, firstToken_append]
    obtain ⟨-, brace, -, semi, -⟩ := noStart_spec
      ((each xs (by simp)).first (firstToken (xss.map (comma :: ·)).flatten .semicolon))
    simp [brace, semi]
  · have length := length_le_separated hxs
    exact (each xs hxs).takes (by omega) (by omega) (by rcases hv with rfl | rfl <;> simp)

/-- The definition of a local variable. -/
def defineForm (name value : Text) : List Symbol := [(Token.ident, name)] ++ (Token.define, []) :: ([(Token.ident, value)] ++ [lineEnd])

theorem isStatement_defineForm : IsStatement (defineForm n a) := by
  refine ⟨fun u => by simp [defineForm], fun {fuel depth} enough deep u => ?_⟩
  obtain ⟨d, rfl⟩ := Nat.exists_eq_add_of_le' (show 3 ≤ depth by omega)
  refine takes_stmtRule_define rfl ?_ ?_
  · exact (takes_name (by decide)).imp fun _ _ => trivial
  · exact (takes_name (by decide)).imp fun _ _ => trivial

/-- A clause of a switch. -/
def clauseForm (value : Text) (body : List Symbol) : List Symbol :=
  (Token.kCase, text "case") :: ([(Token.ident, value)] ++ (Token.colon, []) :: body)

theorem length_clauseForm : (clauseForm a xs).length = xs.length + 3 := by simp [clauseForm]

/-- A switch over a variable. -/
def switchForm (subject : Text) (clauses : List (List Symbol)) : List Symbol :=
  (Token.kSwitch, text "switch") :: ([(Token.ident, subject)] ++ (Token.lbrace, []) :: (clauses.flatten ++ [(Token.rbrace, []), lineEnd]))

theorem isStatement_switchForm {clauses : List (Text × List Symbol)} (each : ∀ p ∈ clauses, IsStatement p.2) :
    IsStatement (switchForm n (clauses.map fun p => clauseForm p.1 p.2)) := by
  refine ⟨fun u => by simp [switchForm], fun {fuel depth} enough deep u => ?_⟩
  obtain ⟨d, rfl⟩ := Nat.exists_eq_add_of_le' (show 4 ≤ depth by omega)
  simp only [switchForm, List.length_cons, List.length_append, List.length_nil, ← List.flatMap_def] at enough deep
  have count : clauses.length ≤ (clauses.flatMap fun p => clauseForm p.1 p.2).length :=
    length_le_flatMap fun p _ => by simp [length_clauseForm]
  refine takes_stmtRule_switch
    (takes_switchStmt (by rw [fuel_ofDepth, List.length_map]; omega) (takes_name_header rfl) (by simp) ?_)
  intro ys hys
  obtain ⟨p, hp, rfl⟩ := List.mem_map.1 hys
  have length : (clauseForm p.1 p.2).length ≤ (clauses.flatMap fun p => clauseForm p.1 p.2).length :=
    length_le_flatMap_of_mem (f := fun p => clauseForm p.1 p.2) hp
  rw [length_clauseForm] at length
  refine ⟨fun v => rfl, fun v hv => takes_caseClause (by rw [fuel_ofDepth]; omega) hv ?_ (each p hp).first ?_⟩
  · exact (takes_name (by decide)).imp fun _ _ => trivial
  · exact (each p hp).takes (by omega) (by omega)

/-! ## Methods -/

/-- A type with the names of its parameters. -/
def typeForm (name : Text) (params : List Text) : List Symbol :=
  if params.isEmpty then [(Token.ident, name)]
  else (Token.ident, name) :: (Token.lbrack, []) :: (separated (params.map fun p => [(Token.ident, p)]) ++ [(Token.rbrack, [])])

/-- The symbols are an entry of a parameter list, between brackets that hold nothing else. -/
structure IsParameter (xs : List Symbol) : Prop where
  first : ∀ u, firstToken xs u = .ident
  takes : ∀ {fuel d : Nat}, xs.length < fuel → ∃ Q : Param → Prop, ((∀ p, Q p → p.IsLone) ∨ ∀ p, Q p → p.IsNamed) ∧
    ∀ u, u = .comma ∨ u = .rparen → Takes {} ((ofDepth fuel (d + 8)).paramDecl none false) xs u Q

theorem isParameter_typeForm {params : List Text} : IsParameter (typeForm n params) := by
  unfold typeForm
  split
  · exact ⟨fun u => rfl, fun _ => ⟨Param.IsLone, .inl fun _ h => h, fun u hu => takes_paramDecl_name hu⟩⟩
  · next some_param =>
    refine ⟨fun u => rfl, fun {fuel d} enough => ⟨Param.IsLone, .inl fun _ h => h, fun u hu => ?_⟩⟩
    have count := length_separated_le (params.map fun p => [((Token.ident, p) : Symbol)])
    simp only [List.length_cons, List.length_append, List.length_nil] at enough
    refine takes_paramDecl_instance rfl hu (by simpa using some_param) (fun xs hxs => ?_) (by rw [fuel_ofDepth]; omega) ?_
    · obtain ⟨p, -, rfl⟩ := List.mem_map.1 hxs
      refine ⟨by simp, fun v hv => (takes_name ?_).imp fun _ _ => trivial⟩
      rcases hv with rfl | rfl <;> decide
    · exact takes_typeRule_none (by rcases hu with rfl | rfl <;> simp)

/-- A variable of a type with the names of its parameters. -/
theorem isParameter_named (params : List Text) : IsParameter ((Token.ident, a) :: typeForm n params) := by
  refine ⟨fun u => rfl, fun {fuel d} enough => ⟨Param.IsNamed, .inr fun _ h => h, fun u hu => ?_⟩⟩
  unfold typeForm at enough ⊢
  split
  · refine takes_paramDecl_named hu rfl (takes_typeRule_name ?_ ?_) <;> rcases hu with rfl | rfl <;> simp
  · next some_param =>
    rw [if_neg some_param] at enough
    have count := length_separated_le (params.map fun p => [((Token.ident, p) : Symbol)])
    simp only [List.length_cons, List.length_append, List.length_nil] at enough
    refine takes_paramDecl_named hu rfl
      (takes_typeRule_instance rfl (P := IsPlain) (by simpa using some_param) (fun xs hxs => ?_) ?_)
    · obtain ⟨p, -, rfl⟩ := List.mem_map.1 hxs
      refine ⟨by simp, fun v hv => takes_typeRule_name ?_ ?_⟩ <;> rcases hv with rfl | rfl <;> simp
    · rw [fuel_ofDepth]
      omega

/-- The symbols are parameters. -/
def IsParameters (xs : List Symbol) : Prop :=
  (∀ u, firstToken xs u = .lparen) ∧ ∀ {fuel d : Nat} {dotsOk : Bool}, xs.length < fuel → ∀ u,
    Takes {} ((ofDepth fuel (d + 8)).parameters dotsOk) xs u fun _ => True

theorem isParameters_nil : IsParameters [(Token.lparen, []), (Token.rparen, [])] := by
  refine ⟨fun u => rfl, fun {fuel d dotsOk} _ u => ?_⟩
  exact takes_parameters [] (Q := Param.IsLone) (.inl fun _ h => h) (by simp) (Nat.zero_le _)

theorem isParameters_one (h : IsParameter xs) : IsParameters ((Token.lparen, []) :: (xs ++ [(Token.rparen, [])])) := by
  refine ⟨fun u => rfl, fun {fuel d dotsOk} enough u => ?_⟩
  simp only [List.length_cons, List.length_append, List.length_nil] at enough
  obtain ⟨Q, form, takes⟩ := h.takes (show xs.length < fuel by omega) (d := d)
  refine takes_parameters [xs] (form.imp id fun named => ⟨rfl, named⟩) (fun ys hys => ?_) ?_
  · rw [List.mem_singleton.1 hys]
    exact ⟨fun v => by simp [h.first], takes⟩
  · rw [fuel_ofDepth, List.length_singleton]
    omega

theorem isParameters_types (types : List Text) :
    IsParameters ((Token.lparen, []) :: (separated (types.map fun n => [(Token.ident, n)]) ++ [(Token.rparen, [])])) := by
  refine ⟨fun u => rfl, fun {fuel d dotsOk} enough u => ?_⟩
  have count := length_separated_le (types.map fun n => [((Token.ident, n) : Symbol)])
  simp only [List.length_cons, List.length_append, List.length_nil] at enough
  refine takes_parameters _ (.inl fun _ h => h) (fun xs hxs => ?_) (by rw [fuel_ofDepth]; omega)
  obtain ⟨n, -, rfl⟩ := List.mem_map.1 hxs
  exact ⟨by simp, fun v hv => takes_paramDecl_name hv⟩

/-- The symbols are the result of a function with a body. -/
def IsResult (xs : List Symbol) : Prop :=
  ∀ {fuel d : Nat}, xs.length < fuel → Takes {} (ofDepth fuel (d + 8)).result xs .lbrace fun _ => True

theorem IsParameters.isResult (h : IsParameters xs) : IsResult xs :=
  fun enough => takes_result_params (h.1 _) (h.2 enough _)

theorem isResult_name : IsResult [(Token.ident, n)] :=
  fun _ => takes_result_type (by simp) (takes_typeRule_name (by decide) (by decide))

theorem isResult_slice : IsResult [(Token.lbrack, []), (Token.rbrack, []), (Token.ident, n)] :=
  fun _ => takes_result_type (by simp) ((takes_typeRule_slice rfl (takes_typeRule_name (by decide) (by decide))).imp fun _ h => h)

theorem isResult_slice_selector : IsResult [(Token.lbrack, []), (Token.rbrack, []), (Token.ident, n), (Token.period, []), (Token.ident, a)] :=
  fun _ => takes_result_type (by simp) ((takes_typeRule_slice rfl (takes_typeRule_selector (by decide))).imp fun _ h => h)

/-- A method. -/
def methodForm (receiver : List Symbol) (name : Text) (params result : List Symbol) (body : List (List Symbol)) : List Symbol :=
  (Token.kFunc, text "func") :: ((Token.lparen, []) :: (receiver ++ [(Token.rparen, [])]) ++ (Token.ident, name) ::
    (params ++ (result ++ ((Token.lbrace, []) :: (body.flatten ++ [(Token.rbrace, [])]) ++ [lineEnd]))))

theorem isDecl_methodForm {receiver params result : List Symbol} {body : List (List Symbol)} (hr : IsParameter receiver)
    (hp : IsParameters params) (ht : IsResult result) (each : ∀ xs ∈ body, IsStatement xs) :
    IsDecl (methodForm receiver n params result body) := by
  refine ⟨fun u => by simp [methodForm], fun {fuel depth} enough deep u => ?_⟩
  obtain ⟨d, rfl⟩ := Nat.exists_eq_add_of_le' (show 8 ≤ depth by omega)
  simp only [methodForm, List.length_cons, List.length_append, List.length_nil] at enough deep
  have some_symbol : ∀ xs ∈ body, 1 ≤ xs.length := by
    intro xs hxs
    have first := (each xs hxs).first .eof
    cases xs with
    | nil => exact absurd first (by simp)
    | cons x xs => simp
  have count : body.length ≤ body.flatten.length := by simpa using length_le_flatMap (f := id) some_symbol
  refine takes_decl_func (takes_funcDecl rfl hp.1 rfl ?_ (hp.2 (by omega)) (ht (by omega)) ?_)
  · refine (isParameters_one hr).2 ?_ _
    simp only [List.length_cons, List.length_append, List.length_nil]
    omega
  · refine takes_block (by rw [fuel_ofDepth]; omega) fun xs hxs => ⟨(each xs hxs).first, ?_⟩
    have length : xs.length ≤ body.flatten.length := by simpa using length_le_flatMap_of_mem (f := id) hxs
    exact (each xs hxs).takes (by omega) (by omega)

end DocAccessors.Source.Grammar
