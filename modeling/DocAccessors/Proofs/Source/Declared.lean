import DocAccessors.Proofs.Source.Accounted
import DocAccessors.Proofs.Source.Symbols
import DocAccessors.Proofs.Source.Word

/-!
# What files declare

The names that a file declares at its top level are words of its text, in the order in which they stand there.

* `Gives P p`: what the rule `p` reads has the property `P`;
* `File.isNamed_of_parse`: every declaration of constants or variables in a file that was read declares a name;
* `Decl.declared`: the names that a declaration declares;
* `Grammar.declared all ns`: as long as no fault was found, the names `ns` are among the items that were passed;
* `Declares all pre p post`: a rule that starts when the names `pre` have been read ends when the names `post` have;
* `File.declared_of_parse`: the names of a file that was read are spelled, stand in its text, and lie side by side.
-/

set_option mvcgen.warning false

namespace DocAccessors.Source

/-! ## Declarations with names -/

def Spec.IsNamed : Spec → Prop
  | .valueSpec _ names _ _ _ => names ≠ []
  | _ => True

/-- The entries of the declaration declare names, if it is one of constants or variables. -/
def Decl.IsNamed : Decl → Prop
  | .gen (.mk _ _ keyword _ specs _) => keyword = .kConst ∨ keyword = .kVar → ∀ s ∈ specs, s.IsNamed
  | _ => True

namespace Grammar

/-- What a rule reads has a property, unless reading stops. -/
def Gives (P : α → Prop) (p : Parse α) : Prop := ∀ s a s', p.run s = .ok (a, s') → P a

variable {P : α → Prop}

theorem gives_pure {a : α} (h : P a) : Gives P (pure a) := by
  intro s b s' run
  cases run
  exact h

theorem Gives.bind {Q : β → Prop} {p : Parse α} {f : α → Parse β} (hp : Gives P p) (hf : ∀ a, P a → Gives Q (f a)) :
    Gives Q (p >>= f) := by
  intro s b s'' run
  obtain ⟨a, s', first, second⟩ := run_bind_eq_ok.1 run
  exact hf a (hp s a s' first) s' b s'' second

theorem Gives.after {Q : β → Prop} {p : Parse α} {f : α → Parse β} (hf : ∀ a, Gives Q (f a)) : Gives Q (p >>= f) :=
  Gives.bind (P := fun _ => True) (fun _ _ _ _ => trivial) fun a _ => hf a

theorem gives_manyWhile {cond : Parse Bool} {p : Parse α} (hp : Gives P p) (fuel : Nat) :
    Gives (fun as => ∀ a ∈ as, P a) (manyWhile cond p fuel) := by
  induction fuel with
  | zero => exact gives_pure (by simp)
  | succ fuel ih =>
    refine Gives.after fun goesOn => ?_
    split
    · exact hp.bind fun a ha => ih.bind fun as has => gives_pure (List.forall_mem_cons.2 ⟨ha, has⟩)
    · exact gives_pure (by simp)

namespace Rules

variable (r : Rules)

theorem gives_valueSpec (keyword : Token) (doc : Option CommentGroup) :
    Gives Spec.IsNamed (r.valueSpec keyword doc) := by
  unfold valueSpec
  refine Gives.after fun name => Gives.after fun more => ?_
  dsimp only
  repeat' first
    | exact gives_pure (List.cons_ne_nil name more)
    | refine Gives.after fun _ => ?_
    | split

theorem gives_genDecl (keyword : Token) : Gives (fun g => (Decl.gen g).IsNamed) (r.genDecl keyword) := by
  unfold genDecl
  extract_lets spec
  have named (doc : Option CommentGroup) :
      Gives (fun s => keyword = .kConst ∨ keyword = .kVar → s.IsNamed) (spec doc) := by
    rintro s a s' run (rfl | rfl) <;> exact r.gives_valueSpec _ doc s a s' run
  refine Gives.after fun i => ?_
  refine Gives.after fun o => ?_
  refine Gives.after fun several => ?_
  split
  · refine Gives.after fun lparen => ?_
    refine Gives.after fun _ => ?_
    refine Gives.bind (P := fun ss => ∀ s ∈ ss, keyword = .kConst ∨ keyword = .kVar → s.IsNamed)
      (gives_manyWhile (Gives.after fun i => ?_) r.fuel) fun specs named => ?_
    · exact named i.lead
    · refine Gives.after fun rparen => ?_
      refine Gives.after fun _ => ?_
      exact gives_pure fun values s hs => named s hs values
  · exact (named none).bind fun s named => gives_pure fun values => by simpa using named values

theorem gives_funcDecl : Gives Decl.IsNamed r.funcDecl := by
  unfold funcDecl
  repeat' first
    | exact gives_pure trivial
    | refine Gives.after fun _ => ?_
    | split

theorem gives_decl : Gives Decl.IsNamed r.decl := by
  unfold decl
  refine Gives.after fun i => ?_
  split
  · exact (r.gives_genDecl _).bind fun g named => gives_pure named
  · exact (r.gives_genDecl _).bind fun g named => gives_pure named
  · exact (r.gives_genDecl _).bind fun g named => gives_pure named
  · exact (r.gives_genDecl _).bind fun g named => gives_pure named
  · exact r.gives_funcDecl
  · exact Gives.after fun _ => Gives.after fun _ => Gives.after fun _ => gives_pure trivial

theorem gives_declsFrom (last : Token) (fuel : Nat) : Gives (fun ds => ∀ d ∈ ds, d.IsNamed) (r.declsFrom last fuel) := by
  induction fuel generalizing last with
  | zero => exact gives_pure (by simp)
  | succ fuel ih =>
    have rest (i : Item) : Gives (fun ds => ∀ d ∈ ds, d.IsNamed) (do
        let d ← r.decl
        return d :: (← r.declsFrom i.token fuel)) :=
      r.gives_decl.bind fun d named => (ih i.token).bind fun ds all => gives_pure (List.forall_mem_cons.2 ⟨named, all⟩)
    unfold declsFrom
    refine Gives.after fun i => ?_
    dsimp only
    split
    · exact gives_pure (by simp)
    · split
      · exact Gives.after fun _ => rest i
      · exact rest i

theorem gives_file (comments : List CommentGroup) : Gives (fun f => ∀ d ∈ f.decls, d.IsNamed) (r.file comments) := by
  unfold file
  refine Gives.after fun _ => Gives.after fun i => Gives.after fun o => Gives.after fun name => ?_
  refine Gives.after fun _ => Gives.after fun _ => ?_
  refine Gives.bind (gives_manyWhile ((r.gives_genDecl .kImport).bind fun g named => gives_pure named) r.fuel)
    fun imports first => ?_
  refine (r.gives_declsFrom .kImport r.fuel).bind fun decls rest => gives_pure ?_
  intro d hd
  exact (List.mem_append.1 hd).elim (first d) (rest d)

end Rules

end Grammar

/-- **What a file that was read declares has a name.** -/
theorem File.isNamed_of_parse {file : SourceFile} {src : Text} {f : File} (read : File.parse file src = .ok f) :
    ∀ d ∈ f.decls, d.IsNamed := by
  unfold File.parse at read
  split at read
  · next g attempted =>
    cases read
    unfold File.attempt at attempted
    split at attempted
    · next g fs flat =>
      have same : g = f := by
        split at attempted
        · cases attempted
        · exact Option.some.inj (Prod.mk.inj attempted).1
      subst same
      unfold File.attemptFlat attemptRule at flat
      dsimp only at flat
      split at flat
      · cases flat
      · next tree s' run =>
        obtain ⟨found, -⟩ := Prod.mk.inj flat
        exact Option.some.inj found ▸ Grammar.Rules.gives_file _ _ _ _ _ run
    · cases attempted
  · cases read

open Std.Do

/-! ## Declared names -/

def Spec.declared : Spec → List Ident
  | .importSpec .. => []
  | .valueSpec _ names _ _ _ => names
  | .typeSpec _ name _ _ _ _ => [name]

/-- The names that the entries of a declaration declare. -/
def GenDecl.declared : GenDecl → List Ident
  | .mk _ _ _ _ specs _ => specs.flatMap Spec.declared

def Decl.declared : Decl → List Ident
  | .bad _ _ => []
  | .gen d => d.declared
  | .func _ _ _ name _ _ _ _ => [name]

/-- The names that a file declares at its top level. -/
def File.declared (f : File) : List Ident := f.decls.flatMap Decl.declared

def Lexeme.ident? (l : Lexeme) : Option Ident := if l.token = .ident then some ⟨l.offset, l.lit⟩ else none

def Item.ident? (i : Item) : Option Ident := i.core.ident?

namespace Grammar

/-! ## Reading names -/

/-- As long as no fault was found, the names are among the items that were passed, in order. -/
def State.Declared (all : List Item) (ns : List Ident) (s : State) : Prop :=
  s.items ≠ [] ∧ (s.faults = [] → ∃ done, all = done ++ s.items ∧ ns.Sublist (done.filterMap Item.ident?))

theorem State.Declared.next {all : List Item} {ns : List Ident} {s : State} {i j : Item} {is : List Item}
    (h : s.Declared all ns) (items : s.items = i :: j :: is) :
    State.Declared all (ns ++ i.ident?.toList)
      { s with items := j :: is, faults := (placed s.file j.faults).reverse ++ s.faults } := by
  refine ⟨List.cons_ne_nil _ _, fun none => ?_⟩
  obtain ⟨done, rfl, sublist⟩ := h.2 (List.append_eq_nil_iff.1 none).2
  refine ⟨done ++ [i], by simp [items], ?_⟩
  rw [List.filterMap_append]
  refine sublist.append ?_
  cases ident : i.ident? <;> simp [ident]

/-- The names that have been read are among the items that were passed. -/
def declared (all : List Item) (ns : List Ident) : Invariant where
  Holds s := s.Declared all ns
  next := by
    refine triple_iff_run.2 fun s h a s' run => ?_
    rw [run_next] at run
    cases run
    split
    · next items =>
      obtain ⟨left, among⟩ := h.next items
      refine ⟨left, fun none => ?_⟩
      obtain ⟨done, split, sublist⟩ := among none
      exact ⟨done, split, (List.sublist_append_left _ _).trans sublist⟩
    · exact h
  fault o m := by
    refine triple_iff_run.2 fun s h a s' run => ?_
    have found := triple_iff_run.1 (fault_found o m) s trivial a s' run
    rcases run_fault o m s with stops | ⟨stays, -⟩ | ⟨f, adds⟩
    · rw [stops] at run
      cases run
    · rw [stays] at run
      cases run
      exact h
    · rw [adds] at run
      cases run
      exact ⟨h.1, fun none => absurd none found⟩
  level _ _ h := h
  inRhs _ _ h := h
  sync _ _ _ h := h

/-- A rule that starts when the names `pre` have been read ends, unless reading stops, when the names `post` have. -/
def Declares (all : List Item) (pre : List Ident) (p : Parse α) (post : α → List Ident) : Prop :=
  ∀ s, s.Declared all pre → ∀ a s', p.run s = .ok (a, s') → s'.Declared all (post a)

variable {all : List Item} {pre : List Ident}

theorem declares_pure (a : α) {post : α → List Ident} (same : post a = pre) : Declares all pre (pure a) post := by
  intro s h b s' run
  cases run
  rwa [same]

theorem Declares.bind {mid : α → List Ident} {post : β → List Ident} {p : Parse α} {f : α → Parse β}
    (hp : Declares all pre p mid) (hf : ∀ a, Declares all (mid a) (f a) post) : Declares all pre (p >>= f) post := by
  intro s h b s'' run
  obtain ⟨a, s', first, second⟩ := run_bind_eq_ok.1 run
  exact hf a s' (hp s h a s' first) b s'' second

/-- A rule that declares nothing leaves the names as they are. -/
theorem declares_of_keeps {p : Parse α} (keeps : Keeps (declared all pre) p) : Declares all pre p fun _ => pre :=
  triple_iff_run.1 keeps

theorem Declares.after {post : β → List Ident} {p : Parse α} {f : α → Parse β} (keeps : Keeps (declared all pre) p)
    (hf : ∀ a, Declares all pre (f a) post) : Declares all pre (p >>= f) post :=
  (declares_of_keeps keeps).bind hf

/-- **A name that is read is an item.** -/
theorem declares_ident (ends : ∀ i ∈ all.getLast?, i.token ≠ .ident) : Declares all pre ident fun a => pre ++ [a] := by
  intro s h a s' run
  obtain ⟨i, rest, items⟩ := List.exists_cons_of_ne_nil h.1
  have here : current.run s = .ok (i, s) := by
    simp only [current, StateT.run_bind, StateT.run_get, pure_bind, items]
    rfl
  obtain ⟨_, _, here', run⟩ := run_bind_eq_ok.1 run
  cases here.symm.trans here'
  split at run
  · next isIdent =>
    have isIdent : i.token = .ident := beq_iff_eq.1 isIdent
    obtain ⟨_, s₁, passed, run⟩ := run_bind_eq_ok.1 run
    cases run
    rw [run_next, items] at passed
    cases rest with
    | nil =>
      -- the last item is the end
      cases passed
      refine ⟨h.1, fun none => ?_⟩
      obtain ⟨done, rfl, -⟩ := h.2 none
      exact absurd isIdent (ends i (by simp [items]))
    | cons j is =>
      cases passed
      have passed := h.next items
      rwa [Item.ident?, Lexeme.ident?, Item.core, if_pos isIdent] at passed
  · next other =>
    obtain ⟨_, s₁, passed, run⟩ := run_bind_eq_ok.1 run
    cases run
    have found := triple_iff_run.1 (expect_found .ident) s ⟨i, by simp [items], by simpa using other⟩ _ _ passed
    have kept := triple_iff_run.1 (keeps_expect (I := declared all pre) .ident) s h _ _ passed
    exact ⟨kept.1, fun none => absurd none found⟩

theorem declares_manyWhile {cond : Parse Bool} {p : Parse α} {names : α → List Ident}
    (hc : ∀ pre, Keeps (declared all pre) cond) (hp : ∀ pre, Declares all pre p fun a => pre ++ names a) (fuel : Nat) :
    Declares all pre (manyWhile cond p fuel) fun as => pre ++ as.flatMap names := by
  induction fuel generalizing pre with
  | zero => exact declares_pure [] (by simp)
  | succ fuel ih =>
    unfold manyWhile
    refine Declares.after (hc pre) fun goesOn => ?_
    split
    · refine (hp pre).bind fun a => ih.bind fun as => declares_pure _ ?_
      rw [List.flatMap_cons, List.append_assoc]
    · exact declares_pure [] (by simp)

theorem declares_names (ends : ∀ i ∈ all.getLast?, i.token ≠ .ident) (fuel : Nat) :
    Declares all pre (manyWhile (isAt .comma) (do next; ident) fuel) fun as => pre ++ as := by
  have one (pre : List Ident) : Declares all pre (do next; ident) fun a => pre ++ [a] :=
    Declares.after keeps_next fun _ => declares_ident ends
  have names : Declares all pre (manyWhile (isAt .comma) (do next; ident) fuel) fun as => pre ++ as.flatMap fun a => [a] :=
    declares_manyWhile (fun _ => keeps_isAt .comma) one fuel
  simpa using names

namespace Rules

variable {r : Rules} [keep : ∀ ns, Keep (declared all ns) r]

/-- What goes on when all names have been read gives them. -/
theorem declares_of_gives {p : Parse α} {post : α → List Ident} (keeps : ∀ I : Invariant, Keep I r → Keeps I p)
    (gives : Gives (fun a => post a = pre) p) : Declares all pre p post := by
  intro s h a s' run
  rw [gives s a s' run]
  exact triple_iff_run.1 (keeps _ (keep pre)) s h a s' run

variable (ends : ∀ i ∈ all.getLast?, i.token ≠ .ident)
include ends

theorem declares_valueSpec (keyword : Token) (doc : Option CommentGroup) :
    Declares all pre (r.valueSpec keyword doc) fun s => pre ++ s.declared := by
  unfold valueSpec
  refine (declares_ident ends).bind fun name => (declares_names ends r.fuel).bind fun more => ?_
  refine declares_of_gives (r := r) (fun I keep => ?_) ?_
  · mvcgen <;> exact fun _ _ => inferInstance
  · dsimp only
    repeat' first
      | exact gives_pure (by simp [Spec.declared])
      | refine Gives.after fun _ => ?_
      | split

theorem declares_typeSpec (doc : Option CommentGroup) :
    Declares all pre (r.typeSpec doc) fun s => pre ++ s.declared := by
  unfold typeSpec
  refine (declares_ident ends).bind fun name => ?_
  refine declares_of_gives (r := r) (fun I keep => ?_) ?_
  · have length (x : Expr) := keeps_nested (Keeps.bind (keeps_primary (I := I) (r := r) (some x)) fun x =>
      keeps_binaryRest (r := r) 1 x r.fuel)
    mvcgen [length]
  · dsimp only
    repeat' first
      | exact gives_pure (by simp [Spec.declared])
      | refine Gives.after fun _ => ?_
      | split

theorem declares_genDecl (keyword : Token) : Declares all pre (r.genDecl keyword) fun d => pre ++ d.declared := by
  unfold genDecl
  extract_lets spec
  have declares_spec (pre : List Ident) (doc : Option CommentGroup) :
      Declares all pre (spec doc) fun s => pre ++ s.declared := by
    unfold spec
    split
    · refine declares_of_gives (r := r) (fun I _ => keeps_importSpec doc) ?_
      unfold importSpec
      repeat' first
        | exact gives_pure (by simp [Spec.declared])
        | refine Gives.after fun _ => ?_
        | split
    · exact declares_typeSpec ends doc
    · exact declares_valueSpec ends keyword doc
  refine Declares.after keeps_current fun i => Declares.after (keeps_expect keyword) fun o => ?_
  refine Declares.after (keeps_isAt .lparen) fun several => ?_
  split
  · refine Declares.after keeps_offset fun lparen => Declares.after keeps_next fun _ => ?_
    refine (declares_manyWhile (fun pre => by mvcgen) (fun pre => Declares.after keeps_current fun i =>
      declares_spec pre i.lead) r.fuel).bind fun specs => ?_
    refine Declares.after (keeps_expect .rparen) fun rparen => Declares.after keeps_expectSemi fun _ => ?_
    exact declares_pure _ rfl
  · refine (declares_spec pre none).bind fun s => declares_pure _ ?_
    simp [GenDecl.declared]

theorem declares_funcDecl : Declares all pre r.funcDecl fun d => pre ++ d.declared := by
  unfold funcDecl
  refine Declares.after keeps_current fun i => Declares.after (keeps_expect .kFunc) fun o => ?_
  refine Declares.after (keeps_isAt .lparen) fun method => ?_
  extract_lets rest
  have declares_rest (receiver : Option FieldList) : Declares all pre (rest receiver) fun d => pre ++ d.declared := by
    refine (declares_ident ends).bind fun name => ?_
    refine declares_of_gives (r := r) (fun I keep => by mvcgen) ?_
    repeat' first
      | exact gives_pure (by simp [Decl.declared])
      | refine Gives.after fun _ => ?_
      | split
  split
  · refine Declares.after (keeps_parameters true) fun receiver => ?_
    exact Declares.after (by mvcgen) declares_rest
  · exact Declares.after (by mvcgen) declares_rest

theorem declares_decl : Declares all pre r.decl fun d => pre ++ d.declared := by
  unfold decl
  refine Declares.after keeps_current fun i => ?_
  split
  · exact (declares_genDecl ends _).bind fun d => declares_pure _ rfl
  · exact (declares_genDecl ends _).bind fun d => declares_pure _ rfl
  · exact (declares_genDecl ends _).bind fun d => declares_pure _ rfl
  · exact (declares_genDecl ends _).bind fun d => declares_pure _ rfl
  · exact declares_funcDecl ends
  · refine Declares.after (keeps_faultExpected _ _) fun _ => Declares.after (keeps_advance _) fun _ => ?_
    exact Declares.after keeps_offset fun o => declares_pure _ (List.append_nil _)

theorem declares_declsFrom (last : Token) (fuel : Nat) :
    Declares all pre (r.declsFrom last fuel) fun ds => pre ++ ds.flatMap Decl.declared := by
  induction fuel generalizing pre last with
  | zero => exact declares_pure [] (by simp)
  | succ fuel ih =>
    have rest (i : Item) : Declares all pre (do
        let d ← r.decl
        return d :: (← r.declsFrom i.token fuel)) fun ds => pre ++ ds.flatMap Decl.declared := by
      refine (declares_decl ends).bind fun d => (ih i.token).bind fun ds => declares_pure _ ?_
      rw [List.flatMap_cons, List.append_assoc]
    unfold declsFrom
    refine Declares.after keeps_current fun i => ?_
    dsimp only
    split
    · exact declares_pure [] (by simp)
    · split
      · exact Declares.after (keeps_fault _ _) fun _ => rest i
      · exact rest i

theorem declares_file (comments : List CommentGroup) : Declares all [] (r.file comments) File.declared := by
  have stop : Keeps (declared all []) stopIfFaulty := by
    unfold stopIfFaulty
    refine Keeps.bind (by mvcgen) fun s => ?_
    split
    · exact fun _ _ => trivial
    · mvcgen
  have one (pre : List Ident) : Declares all pre (return Decl.gen (← r.genDecl .kImport)) fun d => pre ++ d.declared :=
    (declares_genDecl ends .kImport).bind fun d => declares_pure _ rfl
  have imports : Declares all [] (manyWhile (isAt .kImport) (return Decl.gen (← r.genDecl .kImport)) r.fuel) _ :=
    declares_manyWhile (fun _ => keeps_isAt .kImport) one r.fuel
  unfold file
  refine Declares.after stop fun _ => Declares.after keeps_current fun i => ?_
  refine Declares.after (keeps_expect .kPackage) fun o => ?_
  refine Declares.after keeps_ident fun name => Declares.after keeps_expectSemi fun _ => Declares.after stop fun _ => ?_
  refine imports.bind fun imports => (declares_declsFrom ends .kImport r.fuel).bind fun decls => declares_pure _ ?_
  rw [File.declared, List.flatMap_append, List.nil_append]

end Rules

end Grammar

/-! ## Files -/

/-- A file that was read is the result of a run over its items without faults. -/
theorem File.exists_run_of_parse {file : SourceFile} {src : Text} {f : File} (read : File.parse file src = .ok f) :
    let items := (Item.ofLexemes (fun o => (file.place o).line) (lex file.name src).1).1
    ∃ fuel depth faults comments s',
      ((Grammar.Rules.ofDepth fuel depth).file comments).run { file, items, faults } = .ok (f, s') ∧ s'.faults = [] := by
  intro items
  unfold File.parse at read
  split at read
  · next g attempted =>
    cases read
    unfold File.attempt at attempted
    split at attempted
    · next g fs flat =>
      split at attempted
      · cases attempted
      · obtain ⟨found, rfl⟩ := Prod.mk.inj attempted
        obtain rfl := Option.some.inj found
        unfold File.attemptFlat attemptRule at flat
        dsimp only at flat
        split at flat
        · cases flat
        · next tree s' run =>
          obtain ⟨found, none⟩ := Prod.mk.inj flat
          rw [Option.some.inj found] at run
          rw [SyntaxFault.sort_eq_nil, List.reverse_eq_nil_iff] at none
          exact ⟨_, _, _, _, s', run, none⟩
    · cases attempted
  · cases read

/-- Items that are names are words of their text. -/
theorem filterMap_ident?_sublist (ls : List Lexeme) :
    (ls.filterMap Lexeme.ident?).Sublist ((ls.filter (·.token.isWord)).map fun l => ⟨l.offset, l.lit⟩) := by
  induction ls with
  | nil => exact .slnil
  | cons l ls ih =>
    by_cases ident : l.token = .ident
    · rw [List.filterMap_cons_some (by rw [Lexeme.ident?, if_pos ident]), List.filter_cons_of_pos (by rw [ident]; rfl)]
      exact ih.cons_cons _
    · rw [List.filterMap_cons_none (by rw [Lexeme.ident?, if_neg ident])]
      exact ih.trans (((List.sublist_cons_self l ls).filter _).map _)

/-- **The names that a file declares** are spelled, stand in its text, and lie side by side. -/
theorem File.declared_of_parse {file : SourceFile} {src : Text} {f : File} (read : File.parse file src = .ok f) :
    f.declared.Pairwise (fun a b => a.offset + a.name.length ≤ b.offset) ∧
      ∀ n ∈ f.declared, n.name ≠ [] ∧ n.name <+: src.drop n.offset := by
  obtain ⟨among, is, e, split, token⟩ := Item.ofLexemes_lex (fun o => (file.place o).line) file.name src
  obtain ⟨fuel, depth, faults, comments, s', run, none⟩ := File.exists_run_of_parse read
  have keep (I : Grammar.Invariant) : Grammar.Rules.Keep I (Grammar.Rules.ofDepth fuel depth) := Grammar.Rules.keeps_ofDepth _ _
  generalize (Item.ofLexemes (fun o => (file.place o).line) (lex file.name src).1).1 = items at among split run
  have ends : ∀ i ∈ items.getLast?, i.token ≠ .ident := by simp [split, token]
  have some_item : items ≠ [] := by simp [split]
  obtain ⟨-, passed⟩ := Grammar.Rules.declares_file ends comments _
    ⟨some_item, fun _ => ⟨[], rfl, .slnil⟩⟩ f s' run
  obtain ⟨done, rfl, sublist⟩ := passed none
  have words : f.declared.Sublist (((lex file.name src).1.filter (·.token.isWord)).map fun l => ⟨l.offset, l.lit⟩) := by
    have names := among.filterMap Lexeme.ident?
    rw [List.filterMap_map, List.filterMap_map] at names
    exact ((sublist.trans ((List.sublist_append_left _ _).filterMap _)).trans names).trans (filterMap_ident?_sublist _)
  obtain ⟨apart, stand⟩ := words_apart file.name src
  refine ⟨List.Pairwise.sublist words (List.pairwise_map.2 apart), fun n hn => ?_⟩
  obtain ⟨l, hl, rfl⟩ := List.mem_map.1 (words.subset hn)
  obtain ⟨mem, word⟩ := List.mem_filter.1 hl
  exact stand l mem word

end DocAccessors.Source
