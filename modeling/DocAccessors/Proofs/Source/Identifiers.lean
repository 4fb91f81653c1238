import DocAccessors.Proofs.Source.Declared
import DocAccessors.Proofs.Source.Endings
import DocAccessors.Proofs.Source.Shape
import DocAccessors.Proofs.Source.Spelling
import DocAccessors.Proofs.Source.WholeTokens

/-!
# Names are identifiers

What a file declares has names that are identifiers, and so have the parameters of its types.

* `isIdentifier_of_mem_lex`: an identifier token is spelled as an identifier;
* `Yields P p`: from items whose identifiers are spelled as such, the rule `p` reads something with the property `P`;
* `Expr.heads`: the name that an expression starts with, which may turn out to be that of a type parameter;
* `File.isSpelled_of_parse`: the names in the declarations of a file that was read.
-/

set_option mvcgen.warning false

namespace DocAccessors.Source

open DocAccessors.Text (Glyph glyphs)
open Reader (Reaches)

/-! ## Identifier tokens -/

/-- The run of letters and digits at a letter is a word. -/
theorem isWord_between {start : Reader} {c : Char} (found : start.peek = some c) (first : Text.isIdentStart c = true)
    (spelled : ∀ g ∈ start.rest, Spelled g) : isWord (Reader.between start (start.skipWhile Text.isIdentPart)) = true := by
  obtain ⟨g, gs, rest⟩ := List.exists_cons_of_ne_nil (ne_nil_of_peek found)
  obtain rfl : g.char = c := by simpa [Reader.peek, rest] using found
  have part : Text.isIdentPart g.char = true := by simp [Text.isIdentPart, first]
  obtain ⟨passed, path, offset⟩ := (Reader.reaches_skipWhile Text.isIdentPart start).path
  have run : passed = start.rest.takeWhile fun g => Text.isIdentPart g.char := by
    rw [Reader.rest_skipWhile] at path
    exact List.append_cancel_right (path.symm.trans List.takeWhile_append_dropWhile.symm)
  have inside : passed = g :: gs.takeWhile fun g => Text.isIdentPart g.char := by
    rw [run, rest, List.takeWhile_cons, if_pos part]
  have parts : ∀ g ∈ passed, Text.isIdentPart g.char = true := by
    rw [run]
    exact fun g hg => List.mem_takeWhile_imp (p := fun g : Glyph => Text.isIdentPart g.char) hg
  have plain : Text.isIdentPart Text.replacement = false := by decide +kernel
  have bytes : ∀ g ∈ passed, g.bytes = Text.ofChar g.char := by
    refine fun g hg => spelled g (by rw [path]; exact List.mem_append_left _ hg) fun same => ?_
    have part := parts g hg
    rw [same, plain] at part
    cases part
  unfold isWord Text.chars
  rw [Reader.between_eq path offset, Text.glyphs_ofGlyphs bytes, inside, List.map_cons]
  rw [inside] at parts
  simp only [first, Bool.true_and, List.all_map, List.all_eq_true]
  exact fun g hg => parts g (List.mem_cons_of_mem _ hg)

/-- An identifier token is spelled as an identifier, and what follows it is spelled. -/
theorem readLexeme_spelled (file : Text) (size : Nat) {s : LexState} (spelled : ∀ g ∈ s.reader.rest, Spelled g) :
    ((readLexeme file size s).1.token = .ident → isIdentifier (readLexeme file size s).1.lit = true) ∧
      ∀ g ∈ (readLexeme file size s).2.reader.rest, Spelled g := by
  have blank : Reaches s.reader s.begin := Reader.reaches_skipWhile _ s.reader
  cases pending : s.pending with
  | some o =>
    rw [readLexeme_pending pending]
    exact ⟨nofun, spelled⟩
  | none =>
    by_cases ended : s.begin.rest = []
    · rw [readLexeme_end pending ended]
      split <;> exact ⟨nofun, blank.subset spelled⟩
    · obtain ⟨c, found, read, on⟩ := readLexeme_found file size pending ended
      obtain ⟨r, reaches, -, reader⟩ := on.path
      have behind := blank.trans ((Reader.reaches_next s.begin).trans reaches)
      refine ⟨fun ident => ?_, by rw [reader]; exact behind.subset spelled⟩
      have word : (lexemeAt file size s.begin s.breakEnds c).1.token.isWord = true := by
        rw [← read, ident]
        rfl
      obtain ⟨first, lit, -⟩ := lexemeAt_word word
      have token : (lexemeAt file size s.begin s.breakEnds c).1.token =
          Token.ofWord (lexemeAt file size s.begin s.breakEnds c).1.lit := by
        unfold lexemeAt
        rw [if_pos first]
        rfl
      rw [read] at ident ⊢
      rw [ident] at token
      refine isIdentifier_iff.2 ⟨?_, token.symm⟩
      rw [lit]
      exact isWord_between found first (blank.subset spelled)

theorem Lexes.spelled {file : Text} {size : Nat} {s s' : LexState} {ls : List Lexeme} (h : Lexes file size s ls s')
    (spelled : ∀ g ∈ s.reader.rest, Spelled g) :
    (∀ l ∈ ls, l.token = .ident → isIdentifier l.lit = true) ∧ ∀ g ∈ s'.reader.rest, Spelled g := by
  induction h with
  | nil => exact ⟨by simp, spelled⟩
  | cons more rest ih =>
    obtain ⟨first, spelled'⟩ := readLexeme_spelled file size spelled
    obtain ⟨all, last⟩ := ih spelled'
    exact ⟨List.forall_mem_cons.2 ⟨first, all⟩, last⟩

/-- **An identifier token is spelled as an identifier.** -/
theorem isIdentifier_of_mem_lex {file src : Text} {l : Lexeme} (hl : l ∈ (lex file src).1) (ident : l.token = .ident) :
    isIdentifier l.lit = true := by
  obtain ⟨ls, s, lexemes, eof, found⟩ := lexFrom_spec file src.length (left_ofText src)
  rw [lex_eq, found] at hl
  rcases List.mem_append.1 hl with hl | hl
  · exact (lexemes.spelled (spelled_start src)).1 l hl ident
  · rw [List.mem_singleton.1 hl, eof] at ident
    cases ident

/-! ## Names in declarations -/

def Ident.IsSpelled (i : Ident) : Prop := isIdentifier i.name = true

/-- The names that a specification declares, and those of type parameters, are identifiers. -/
def Spec.IsSpelled : Spec → Prop
  | .importSpec .. => True
  | .valueSpec _ names _ _ _ => ∀ n ∈ names, n.IsSpelled
  | .typeSpec _ name typeParams _ _ _ => name.IsSpelled ∧ ∀ l ∈ typeParams, ∀ f ∈ l.fields, ∀ n ∈ f.names, n.IsSpelled

def GenDecl.IsSpelled : GenDecl → Prop
  | .mk _ _ _ _ specs _ => ∀ s ∈ specs, s.IsSpelled

def Decl.IsSpelled : Decl → Prop
  | .bad _ _ => True
  | .gen d => d.IsSpelled
  | .func _ _ _ name _ _ _ _ => name.IsSpelled

structure File.IsSpelled (f : File) : Prop where
  name : f.name.IsSpelled
  decls : ∀ d ∈ f.decls, d.IsSpelled

/-- The name that an expression starts with, as far as it can be that of a type parameter, has the property. -/
def Expr.heads (P : Ident → Prop) : Expr → Prop
  | .ident i => P i
  | .binary x _ _ _ => x.heads P
  | .call f _ _ _ _ => f.heads P
  | _ => True

namespace Grammar

/-! ## Rules -/

/-- The identifiers among the items are spelled as such. -/
def spelled : Invariant where
  Holds s := ∀ i ∈ s.items, i.token = .ident → isIdentifier i.lit = true
  next := by
    refine triple_iff_run.2 fun s h a s' run => ?_
    rw [run_next] at run
    cases run
    split
    · next items => exact fun i hi => h i (by rw [items]; exact List.mem_cons_of_mem _ hi)
    · exact h
  fault o m := by
    refine triple_iff_run.2 fun s h a s' run => ?_
    rcases run_fault o m s with stops | ⟨stays, -⟩ | ⟨f, adds⟩
    · rw [stops] at run
      cases run
    · rw [stays] at run
      cases run
      exact h
    · rw [adds] at run
      cases run
      exact h
  level _ _ h := h
  inRhs _ _ h := h
  sync _ _ _ h := h

/-- From items whose identifiers are spelled as such, the rule reads something with the property, unless reading stops. -/
def Yields (P : α → Prop) (p : Parse α) : Prop :=
  ∀ s, spelled.Holds s → ∀ a s', p.run s = .ok (a, s') → P a ∧ spelled.Holds s'

variable {P : α → Prop} {Q : β → Prop} {p : Parse α} {f : α → Parse β}

theorem yields_pure {a : α} (h : P a) : Yields P (pure a) := by
  intro s holds b s' run
  cases run
  exact ⟨h, holds⟩

theorem Yields.bind (hp : Yields P p) (hf : ∀ a, P a → Yields Q (f a)) : Yields Q (p >>= f) := by
  intro s holds b s'' run
  obtain ⟨a, s', first, second⟩ := run_bind_eq_ok.1 run
  obtain ⟨property, holds'⟩ := hp s holds a s' first
  exact hf a property s' holds' b s'' second

/-- What is read from any items. -/
theorem Gives.yields (gives : Gives P p) (keeps : Keeps spelled p) : Yields P p := fun s holds a s' run =>
  ⟨gives s a s' run, triple_iff_run.1 keeps s holds a s' run⟩

theorem Yields.after (keeps : Keeps spelled p) (hf : ∀ a, Yields Q (f a)) : Yields Q (p >>= f) :=
  Yields.bind (P := fun _ => True) (Gives.yields (fun _ _ _ _ => trivial) keeps) fun a _ => hf a

theorem yields_ident : Yields Ident.IsSpelled ident := by
  have blank : isIdentifier (text "_") = true := by decide +kernel
  intro s holds a s' run
  refine ⟨?_, triple_iff_run.1 keeps_ident s holds a s' run⟩
  obtain ⟨i, _, here, run⟩ := run_bind_eq_ok.1 run
  rw [run_current] at here
  cases here
  split at run
  · next isIdent =>
    obtain ⟨_, _, -, run⟩ := run_bind_eq_ok.1 run
    cases run
    have isIdent := beq_iff_eq.1 isIdent
    refine holds _ ?_ isIdent
    cases items : s.items with
    | nil =>
      rw [items] at isIdent
      cases isIdent
    | cons j js => simp
  · obtain ⟨_, _, -, run⟩ := run_bind_eq_ok.1 run
    cases run
    exact blank

theorem yields_manyWhile {cond : Parse Bool} (hc : Keeps spelled cond) (hp : Yields P p) (fuel : Nat) :
    Yields (fun as => ∀ a ∈ as, P a) (manyWhile cond p fuel) := by
  induction fuel with
  | zero => exact yields_pure (by simp)
  | succ fuel ih =>
    refine Yields.after hc fun goesOn => ?_
    split
    · exact hp.bind fun a ha => ih.bind fun as has => yields_pure (List.forall_mem_cons.2 ⟨ha, has⟩)
    · exact yields_pure (by simp)

theorem yields_names (fuel : Nat) :
    Yields (fun as => ∀ a ∈ as, a.IsSpelled) (manyWhile (isAt .comma) (do next; ident) fuel) :=
  yields_manyWhile (keeps_isAt .comma) (Yields.after keeps_next fun _ => yields_ident) fuel

theorem Gives.nested (hp : Gives P p) : Gives P (nested p) := by
  unfold Grammar.nested withLevel
  exact Gives.after fun _ => Gives.after fun _ => hp.bind fun a ha => Gives.after fun _ => gives_pure ha

namespace Rules

/-- The name that is split off an expression is the one that it starts with. -/
theorem heads_of_splitTypeParam {R : Ident → Prop} {force : Bool} {name : Ident} {t : Option Expr} : {x : Expr} →
    splitTypeParam force x = some (name, t) → x.heads R → R name
  | .binary x o op y, h, heads => by
    unfold splitTypeParam at h
    split at h
    · split at h
      · split at h
        · cases h
          exact heads
        · cases h
      · cases h
    · split at h
      · next found =>
        cases h
        exact heads_of_splitTypeParam found heads
      · cases h
    · cases h
  | .call .., h, heads => by
    unfold splitTypeParam at h
    split at h
    · split at h
      · cases h
        exact heads
      · cases h
    · cases h
  | .ident _, h, heads => by
    cases h
    exact heads

variable {r : Rules}

theorem gives_binaryRest {R : Ident → Prop} {x : Expr} (hx : x.heads R) (prec fuel : Nat) :
    Gives (Expr.heads R) (r.binaryRest prec x fuel) := by
  induction fuel generalizing x with
  | zero => exact gives_pure hx
  | succ fuel ih =>
    unfold binaryRest
    refine Gives.after fun op => ?_
    split
    · exact gives_pure hx
    · exact Gives.after fun o => Gives.after fun y => ih (x := .binary x o op y) hx

theorem gives_indexOrSlice {R : Ident → Prop} (x : Expr) : Gives (Expr.heads R) (r.indexOrSlice x) := by
  unfold indexOrSlice
  repeat' first
    | exact gives_pure trivial
    | refine Gives.after fun _ => ?_
    | split

theorem gives_typeAssertion {R : Ident → Prop} (x : Expr) : Gives (Expr.heads R) (r.typeAssertion x) := by
  unfold typeAssertion
  repeat' first
    | exact gives_pure trivial
    | refine Gives.after fun _ => ?_
    | split

/-- What stands between braces behind an expression is a literal. -/
class ReadsLiterals (r : Rules) : Prop where
  gives : ∀ {R : Ident → Prop} (t : Option Expr), Gives (Expr.heads R) (r.literalValue t)

instance readsLiterals_ofDepth (fuel depth : Nat) : ReadsLiterals (ofDepth fuel depth) where
  gives t := by
    cases depth with
    | zero => exact fun _ _ _ run => by cases run
    | succ depth =>
      change Gives _ ((ofDepth fuel depth).literalValueRule t)
      unfold literalValueRule
      exact Gives.after fun _ => Gives.after fun _ => Gives.after fun _ => gives_pure trivial

theorem gives_primaryRest [literals : ReadsLiterals r] {R : Ident → Prop} {x : Expr} (hx : x.heads R) (fuel : Nat) :
    Gives (Expr.heads R) (r.primaryRest x fuel) := by
  induction fuel generalizing x with
  | zero => exact gives_pure hx
  | succ fuel ih =>
    unfold primaryRest
    refine Gives.after fun t => ?_
    split
    · refine Gives.after fun _ => Gives.after fun t => ?_
      split
      · exact Gives.after fun i => ih (x := .selector x i) trivial
      · exact (gives_typeAssertion x).bind fun y hy => ih hy
      · refine Gives.after fun o => Gives.after fun _ => ?_
        split
        · exact Gives.after fun _ => ih (x := .selector x _) trivial
        · exact ih (x := .selector x _) trivial
    · exact (gives_indexOrSlice x).bind fun y hy => ih hy
    · refine Gives.bind (P := Expr.heads R) ?_ fun y hy => ih hy
      unfold callOrConversion
      exact Gives.after fun _ => Gives.after fun _ => Gives.after fun _ => gives_pure hx
    · refine Gives.after fun s => ?_
      split
      · split
        · exact Gives.after fun _ => (literals.gives _).bind fun y hy => ih hy
        · exact (literals.gives _).bind fun y hy => ih hy
      · exact gives_pure hx
    · exact gives_pure hx

/-! ## Type parameters -/

def Param.IsSpelled (p : Param) : Prop := ∀ n ∈ p.name, n.IsSpelled

section

variable [Keep spelled r]

omit [Keep spelled r] in
theorem gives_arrayOrInstance (i : Ident) : Gives (fun p => ∀ n ∈ p.1, n = i) (r.arrayOrInstance i) := by
  unfold arrayOrInstance
  repeat' first
    | exact gives_pure (by simp)
    | refine Gives.after fun _ => ?_
    | split

theorem yields_paramDecl {name : Option Ident} (hn : ∀ n ∈ name, n.IsSpelled) (unions : Bool) :
    Yields Param.IsSpelled (r.paramDecl name unions) := by
  unfold paramDecl
  extract_lets finish entry
  have none_named {t : Option Expr} : Param.IsSpelled ⟨none, t⟩ := by simp [Param.IsSpelled]
  have finishes {p : Param} (hp : p.IsSpelled) : Yields Param.IsSpelled (finish p) := by
    dsimp only [finish]
    split
    · refine Yields.after (keeps_isAt _) fun _ => ?_
      split
      · exact Yields.after (keeps_embeddedElem _) fun _ => yields_pure hp
      · exact yields_pure hp
    · exact yields_pure hp
  clear_value finish
  refine Yields.after (keeps_isAt _) fun tilde => ?_
  split
  · exact Yields.after (keeps_embeddedElem _) fun t => yields_pure none_named
  refine Yields.after (keeps_isAt _) fun isName => ?_
  split
  · -- what follows a name depends on the token behind it
    have entries {i : Ident} (hi : i.IsSpelled) : Yields Param.IsSpelled (entry i) := by
      have named {t : Option Expr} : Param.IsSpelled ⟨some i, t⟩ := by simpa [Param.IsSpelled]
      have kept : Yields (fun p => ∀ n ∈ p.1, n = i) (r.arrayOrInstance i) :=
        (gives_arrayOrInstance i).yields (keeps_arrayOrInstance i)
      refine Yields.after keeps_token fun t => ?_
      split
      · exact Yields.after keeps_type fun _ => finishes named
      · split
        · exact kept.bind fun p hp => finishes fun n hn => hp n hn ▸ hi
        · exact Yields.after keeps_dotsType fun _ => yields_pure named
        · exact Yields.after (keeps_qualifiedName _) fun _ => finishes none_named
        · split
          · exact Yields.after (keeps_embeddedElem _) fun _ => yields_pure named
          · exact yields_pure named
        · split
          · exact Yields.after (keeps_embeddedElem _) fun _ => yields_pure none_named
          · exact yields_pure named
        · exact yields_pure named
    split
    · exact (yields_pure (hn _ rfl)).bind fun i hi => entries hi
    · exact yields_ident.bind fun i hi => entries hi
  · refine Yields.after keeps_token fun t => ?_
    split
    · exact Yields.after keeps_type fun _ => finishes none_named
    · split
      · exact Yields.after keeps_dotsType fun _ => yields_pure none_named
      · refine Yields.after keeps_offset fun _ => Yields.after (keeps_faultExpected _ _) fun _ => ?_
        exact Yields.after (keeps_advance _) fun _ => yields_pure none_named

theorem yields_params (unions : Bool) (closing : Token) {name : Option Ident} (hn : ∀ n ∈ name, n.IsSpelled)
    (type : Option Expr) (fuel : Nat) :
    Yields (fun ps => ∀ p ∈ ps, p.IsSpelled) (r.params unions closing name type fuel) := by
  induction fuel generalizing name type with
  | zero => exact yields_pure (by simp)
  | succ fuel ih =>
    rw [params]
    refine Yields.after (keeps_isAt _) fun _ => Yields.after (keeps_isAt _) fun _ => ?_
    split
    · exact yields_pure (by simp)
    extract_lets rest
    have rests {p : Param} (hp : p.IsSpelled) : Yields (fun ps => ∀ p ∈ ps, p.IsSpelled) (rest p) := by
      dsimp only [rest]
      have first : ∀ q ∈ (if (p.name.isNone && p.type.isNone) = true then [] else [p]), q.IsSpelled := by
        intro q hq
        split at hq
        · cases hq
        · exact List.mem_singleton.1 hq ▸ hp
      refine Yields.after (keeps_atComma _ _) fun more => ?_
      split
      · refine Yields.after keeps_next fun _ => (ih (by simp) none).bind fun ps hps => yields_pure ?_
        exact fun q hq => (List.mem_append.1 hq).elim (first q) (hps q)
      · exact yields_pure first
    have named {t : Option Expr} : Param.IsSpelled ⟨name, t⟩ := hn
    split
    · split
      · exact Yields.after (keeps_embeddedElem _) fun t => (yields_pure named).bind fun p hp => rests hp
      · exact (yields_pure trivial).bind (P := fun _ => True) fun t _ => (yields_pure named).bind fun p hp => rests hp
    · exact (yields_paramDecl hn unions).bind fun p hp => rests hp

omit [Keep spelled r] in
theorem spelled_distribute (stop : Nat) {ps : List Param} (hps : ∀ p ∈ ps, p.IsSpelled) :
    ∀ q ∈ (distribute stop ps).1, q.name.IsSpelled := by
  have blank (o : Nat) : Ident.IsSpelled ⟨o, text "_"⟩ := by
    have isIdentifier_blank : isIdentifier (text "_") = true := by decide +kernel
    exact isIdentifier_blank
  induction ps with
  | nil => simp [distribute]
  | cons p ps ih =>
    obtain ⟨first, rest⟩ := List.forall_mem_cons.1 hps
    have later := ih rest
    have named : (p.name.getD ⟨0, text "_"⟩).IsSpelled := by
      cases name : p.name with
      | none => exact blank 0
      | some n => exact first n name
    unfold distribute
    dsimp only
    split
    · next n hn => exact List.forall_mem_cons.2 ⟨first _ hn, later⟩
    · exact List.forall_mem_cons.2 ⟨blank _, later⟩
    · split
      · exact List.forall_mem_cons.2 ⟨named, later⟩
      · exact List.forall_mem_cons.2 ⟨named, later⟩

omit [Keep spelled r] in
theorem spelled_groupParams {names : List Ident} (hn : ∀ n ∈ names, n.IsSpelled) {qs : List TypedParam}
    (hqs : ∀ q ∈ qs, q.name.IsSpelled) : ∀ f ∈ groupParams names qs, ∀ n ∈ f.names, n.IsSpelled := by
  induction qs generalizing names with
  | nil => simp [groupParams]
  | cons q qs ih =>
    obtain ⟨first, rest⟩ := List.forall_mem_cons.1 hqs
    have all : ∀ n ∈ names ++ [q.name], n.IsSpelled := by
      intro n hn'
      rcases List.mem_append.1 hn' with hn' | hn'
      · exact hn n hn'
      · exact List.mem_singleton.1 hn' ▸ first
    unfold groupParams
    split
    · exact ih all rest
    · exact List.forall_mem_cons.2 ⟨all, ih (by simp) rest⟩

theorem yields_paramList {name : Option Ident} (hn : ∀ n ∈ name, n.IsSpelled) (type : Option Expr) (closing : Token)
    (dotsOk : Bool) : Yields (fun fs => ∀ f ∈ fs, ∀ n ∈ f.names, n.IsSpelled) (r.paramList name type closing dotsOk) := by
  unfold paramList
  extract_lets typeParams check rest
  have steady (types : List Expr) : Keeps spelled (check types) := by
    dsimp only [check]
    split <;> mvcgen
  clear_value check
  have rests (start : Nat) : Yields (fun fs => ∀ f ∈ fs, ∀ n ∈ f.names, n.IsSpelled) (rest start) := by
    refine (yields_params _ _ hn type r.fuel).bind fun ps hps => ?_
    split
    · exact yields_pure (by simp)
    refine Yields.after keeps_offset fun stop => ?_
    split
    · extract_lets types unnamed
      have lone (u : PUnit) : Yields (fun fs => ∀ f ∈ fs, ∀ n ∈ f.names, n.IsSpelled) (unnamed u) := by
        refine Yields.after (steady _) fun _ => yields_pure ?_
        simp [Field.names]
      split
      · split
        · exact Yields.after (keeps_fault _ _) fun u => lone u
        · exact Yields.after (keeps_fault _ _) fun u => lone u
      · exact lone ()
    · have spelled := spelled_distribute stop hps
      generalize distribute stop ps = given at spelled
      obtain ⟨tps, later, bad⟩ := given
      dsimp only
      have all : Yields (fun fs => ∀ f ∈ fs, ∀ n ∈ f.names, n.IsSpelled) (do
          check (tps.map (·.type))
          return groupParams [] tps) :=
        Yields.after (steady _) fun _ => yields_pure (spelled_groupParams (by simp) spelled)
      split
      · split
        · split <;> exact Yields.after (keeps_fault _ _) fun _ => all
        · exact all
      · exact all
  split
  · exact (yields_pure trivial).bind (P := fun _ => True) fun start _ => rests start
  · exact (yields_pure trivial).bind (P := fun _ => True) fun start _ => rests start
  · exact Yields.after keeps_offset fun start => rests start

/-! ## Declarations -/

theorem yields_valueSpec (keyword : Token) (doc : Option CommentGroup) : Yields Spec.IsSpelled (r.valueSpec keyword doc) := by
  unfold valueSpec
  refine yields_ident.bind fun name hn => (yields_names r.fuel).bind fun more hm => ?_
  have all : ∀ n ∈ name :: more, n.IsSpelled := List.forall_mem_cons.2 ⟨hn, hm⟩
  refine Gives.yields ?_ ?_
  · dsimp only
    repeat' first
      | exact gives_pure all
      | refine Gives.after fun _ => ?_
      | split
  · mvcgen <;> exact fun _ _ => inferInstance

theorem yields_typeSpec [ReadsLiterals r] (doc : Option CommentGroup) : Yields Spec.IsSpelled (r.typeSpec doc) := by
  unfold typeSpec
  refine yields_ident.bind fun name hn => ?_
  extract_lets assign? rest
  have rests {l : Option FieldList} (hl : ∀ l' ∈ l, ∀ f ∈ l'.fields, ∀ n ∈ f.names, n.IsSpelled) (assign : Option Nat)
    (t : Expr) :
      Yields Spec.IsSpelled (pure (l, assign, t) >>= rest) := by
    rw [pure_bind]
    exact Yields.after keeps_expectSemi fun _ => yields_pure ⟨hn, hl⟩
  have assigns : Keeps spelled assign? := by
    dsimp only [assign?]
    mvcgen
  clear_value assign? rest
  have array (lbrack : Nat) (length : Option Expr) :
      Yields Spec.IsSpelled (r.arrayType lbrack length >>= fun t => pure (none, none, t) >>= rest) :=
    Yields.after (keeps_arrayType _ _) fun t => rests (by simp) none t
  refine Yields.after (keeps_isAt _) fun bracket => ?_
  split
  · refine Yields.after keeps_offset fun lbrack => Yields.after keeps_next fun _ => Yields.after (keeps_isAt _) fun isName => ?_
    split
    · refine yields_ident.bind fun i hi => Yields.after (keeps_isAt _) fun again => ?_
      extract_lets split
      -- the name of a first parameter is the one that was read
      have splits {x : Expr} (hx : x.heads Ident.IsSpelled) : Yields Spec.IsSpelled (split x) := by
        refine Yields.after (keeps_isAt _) fun comma => Yields.after (keeps_isAt _) fun lone => ?_
        split
        · next pname ptype found =>
          have named := heads_of_splitTypeParam found hx
          split
          · refine (yields_paramList (by simpa using named) ptype .rbrack false).bind fun fields hf => ?_
            refine Yields.after (keeps_expect _) fun rbrack => Yields.after assigns fun assign => ?_
            exact Yields.after keeps_type fun t => rests (by simpa [FieldList.fields] using hf) assign t
          · exact array _ _
        · exact array _ _
      clear_value split
      have start : Expr.heads Ident.IsSpelled (.ident i) := hi
      split
      · exact (yields_pure start).bind fun x hx => splits hx
      · refine Yields.bind (Gives.yields (Gives.nested ?_) (keeps_nested ?_)) fun x hx => splits hx
        · unfold primary
          exact ((gives_pure start).bind fun x hx => gives_primaryRest hx _).bind fun x hx => gives_binaryRest hx _ _
        · exact (keeps_primary _).bind fun x => keeps_binaryRest 1 x _
    · exact array _ _
  · exact Yields.after assigns fun assign => Yields.after keeps_type fun t => rests (by simp) assign t

theorem yields_genDecl [ReadsLiterals r] (keyword : Token) : Yields GenDecl.IsSpelled (r.genDecl keyword) := by
  unfold genDecl
  extract_lets spec
  have specs (doc : Option CommentGroup) : Yields Spec.IsSpelled (spec doc) := by
    dsimp only [spec]
    split
    · refine Gives.yields ?_ (keeps_importSpec doc)
      unfold importSpec
      repeat' first
        | exact gives_pure trivial
        | refine Gives.after fun _ => ?_
        | split
    · exact yields_typeSpec doc
    · exact yields_valueSpec _ doc
  clear_value spec
  refine Yields.after keeps_current fun i => Yields.after (keeps_expect _) fun o => Yields.after (keeps_isAt _) fun several => ?_
  split
  · refine Yields.after keeps_offset fun lparen => Yields.after keeps_next fun _ => ?_
    refine (yields_manyWhile (by mvcgen) (Yields.after keeps_current fun i => specs i.lead) r.fuel).bind fun ss hss => ?_
    refine Yields.after (keeps_expect _) fun rparen => Yields.after keeps_expectSemi fun _ => yields_pure hss
  · exact (specs none).bind fun s hs => yields_pure (List.forall_mem_singleton.2 hs)

theorem yields_funcDecl : Yields Decl.IsSpelled r.funcDecl := by
  unfold funcDecl
  refine Yields.after keeps_current fun i => ?_
  extract_lets doc
  refine Yields.after (keeps_expect _) fun o => Yields.after (keeps_isAt _) fun _ => ?_
  extract_lets rest
  have rests (receiver : Option FieldList) : Yields Decl.IsSpelled (rest receiver) := by
    dsimp only [rest]
    refine yields_ident.bind fun name hn => Gives.yields ?_ ?_
    · repeat' first
        | exact gives_pure hn
        | refine Gives.after fun _ => ?_
        | split
    · mvcgen
  clear_value rest
  split
  · exact Yields.after (keeps_parameters _) fun ps => (yields_pure trivial).bind (P := fun _ => True) fun _ _ => rests _
  · exact (yields_pure trivial).bind (P := fun _ => True) fun _ _ => rests _

theorem yields_decl [ReadsLiterals r] : Yields Decl.IsSpelled r.decl := by
  unfold decl
  refine Yields.after keeps_current fun i => ?_
  split
  · exact (yields_genDecl _).bind fun g hg => yields_pure hg
  · exact (yields_genDecl _).bind fun g hg => yields_pure hg
  · exact (yields_genDecl _).bind fun g hg => yields_pure hg
  · exact (yields_genDecl _).bind fun g hg => yields_pure hg
  · exact yields_funcDecl
  · refine Yields.after (keeps_faultExpected _ _) fun _ => Yields.after (keeps_advance _) fun _ => ?_
    exact Yields.after keeps_offset fun _ => yields_pure trivial

theorem yields_declsFrom [ReadsLiterals r] (last : Token) (fuel : Nat) :
    Yields (fun ds => ∀ d ∈ ds, d.IsSpelled) (r.declsFrom last fuel) := by
  induction fuel generalizing last with
  | zero => exact yields_pure (by simp)
  | succ fuel ih =>
    have rest (i : Item) : Yields (fun ds => ∀ d ∈ ds, d.IsSpelled) (do
        let d ← r.decl
        return d :: (← r.declsFrom i.token fuel)) :=
      yields_decl.bind fun d hd => (ih i.token).bind fun ds hds => yields_pure (List.forall_mem_cons.2 ⟨hd, hds⟩)
    unfold declsFrom
    refine Yields.after keeps_current fun i => ?_
    dsimp only
    split
    · exact yields_pure (by simp)
    · split
      · exact Yields.after (keeps_fault _ _) fun _ => rest i
      · exact rest i

theorem yields_file [ReadsLiterals r] (comments : List CommentGroup) : Yields File.IsSpelled (r.file comments) := by
  have stop : Keeps spelled stopIfFaulty := by
    unfold stopIfFaulty
    refine Keeps.bind (by mvcgen) fun s => ?_
    split
    · exact fun _ _ => trivial
    · mvcgen
  unfold file
  refine Yields.after stop fun _ => Yields.after keeps_current fun i => Yields.after (keeps_expect _) fun o => ?_
  refine yields_ident.bind fun name hn => Yields.after keeps_expectSemi fun _ => Yields.after stop fun _ => ?_
  have imports : Yields Decl.IsSpelled (return Decl.gen (← r.genDecl .kImport)) :=
    (yields_genDecl _).bind fun g hg => yields_pure hg
  refine (yields_manyWhile (keeps_isAt _) imports r.fuel).bind fun imports first => ?_
  refine (yields_declsFrom _ _).bind fun decls rest => yields_pure ⟨hn, ?_⟩
  exact fun d hd => (List.mem_append.1 hd).elim (first d) (rest d)

end

end Rules

end Grammar

/-- **The names in the declarations of a file that was read are identifiers.** -/
theorem File.isSpelled_of_parse {file : SourceFile} {src : Text} {f : File} (read : File.parse file src = .ok f) :
    f.IsSpelled := by
  obtain ⟨among, -⟩ := Item.ofLexemes_lex (fun o => (file.place o).line) file.name src
  obtain ⟨fuel, depth, faults, comments, s', run, -⟩ := File.exists_run_of_parse read
  have keep : Grammar.Rules.Keep Grammar.spelled (Grammar.Rules.ofDepth fuel depth) := Grammar.Rules.keeps_ofDepth _ _
  refine (Grammar.Rules.yields_file comments _ (fun i hi ident => ?_) f s' run).1
  -- an item is a lexeme of the text
  obtain ⟨l, hl, same⟩ := List.mem_map.1 (among.subset (List.mem_map_of_mem hi))
  have token : l.token = i.token := congrArg Lexeme.token same
  have lit : l.lit = i.lit := congrArg Lexeme.lit same
  exact lit ▸ isIdentifier_of_mem_lex hl (token.trans ident)

end DocAccessors.Source
