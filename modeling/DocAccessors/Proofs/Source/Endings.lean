import DocAccessors.Proofs.Source.Accounted

/-!
# How expressions end

An expression ends with a token after which a line break is a semicolon, so that the semicolon behind it is never part of
it.

* `Ends P p`: what the rule `p` reads with the property `P` ends with such a token;
* `MayEnd p`: the rule `p` reads nothing, or what it reads ends with such a token;
* `Rules.ends_ofDepth`: the rules for expressions and types of every depth.
-/

set_option mvcgen.warning false

namespace DocAccessors.Source.Grammar

/-- A rule keeps whatever the steps of reading keep. -/
def Steady (p : Parse α) : Prop := ∀ I, Keeps I p

theorem Steady.bind {p : Parse α} {f : α → Parse β} (hp : Steady p) (hf : ∀ a, Steady (f a)) : Steady (p >>= f) :=
  fun I => (hp I).bind fun a => hf a I

theorem steady_pure (a : α) : Steady (pure a) := fun _ => triple_iff_run.2 fun _ h _ _ run => by cases run; exact h

/-! ## What is left to read -/

/-- What is left to read was left before. -/
def shrinks (all : List Item) : Invariant where
  Holds s := s.items <:+ all
  next := by
    refine triple_iff_run.2 fun s h a t run => ?_
    rw [run_next] at run
    cases run
    split
    · next items => exact (items ▸ List.suffix_cons _ _).trans h
    · exact h
  fault o m := by
    refine triple_iff_run.2 fun s h a t run => ?_
    rcases run_fault o m s with stops | ⟨stays, -⟩ | ⟨f, adds⟩
    · rw [stops] at run
      cases run
    · rw [stays] at run
      cases run
      exact h
    · rw [adds] at run
      cases run
      exact h
  level _ _ h := h
  inRhs _ _ h := h
  sync _ _ _ h := h

section

variable {p : Parse α} {s t : State} {a : α} (steady : Steady p) (run : p.run s = .ok (a, t))
include steady run

theorem Steady.suffix : t.items <:+ s.items :=
  triple_iff_run.1 (steady (shrinks s.items)) s (List.suffix_refl _) _ _ run

theorem Steady.clean (clean : t.faults = []) : s.faults = [] := by
  by_contra found
  exact triple_iff_run.1 (steady faulty) s found _ _ run clean

end

/-- The end of file is the last item. -/
def State.Closed (s : State) : Prop := ∀ i ∈ s.items.getLast?, i.token = .eof

theorem State.Closed.of_suffix {s t : State} (h : s.Closed) (suffix : t.items <:+ s.items) : t.Closed := by
  intro i last
  obtain ⟨before, split⟩ := suffix
  refine h i ?_
  rw [← split, List.getLast?_append, Option.mem_def.1 last]
  rfl

theorem run_current (s : State) :
    current.run s = .ok (s.items.head?.getD { offset := s.file.size, token := .eof, lit := [] }, s) := rfl

/-- Where another token than the end of file stands, there is an item, and there is one behind it. -/
theorem State.Closed.exists_items {s : State} (h : s.Closed)
    (more : (s.items.head?.getD { offset := s.file.size, token := .eof, lit := [] }).token ≠ .eof) :
    ∃ i j rest, s.items = i :: j :: rest := by
  unfold State.Closed at h
  match s.items, h, more with
  | [], _, more => exact absurd rfl more
  | [i], h, more => exact absurd (h i rfl) more
  | i :: j :: rest, _, _ => exact ⟨i, j, rest, rfl⟩

/-- A token that is passed without faults was there. -/
theorem expect_spec {t : Token} {s u : State} {o : Nat} (run : (expect t).run s = .ok (o, u)) (clean : u.faults = [])
    (closed : s.Closed) (inner : t ≠ .eof) :
    ∃ i j rest, s.items = i :: j :: rest ∧ i.token = t ∧ u.items = j :: rest := by
  obtain ⟨_, _, here, run⟩ := run_bind_eq_ok.1 run
  rw [run_current] at here
  cases here
  by_cases same : (s.items.head?.getD { offset := s.file.size, token := .eof, lit := [] }).token = t
  · obtain ⟨i, j, rest, items⟩ := closed.exists_items (same ▸ inner)
    refine ⟨i, j, rest, items, by simpa [items] using same, ?_⟩
    dsimp only at run
    rw [if_neg (by simpa using same)] at run
    obtain ⟨_, _, passed, run⟩ := run_bind_eq_ok.1 run
    rw [run_next] at passed
    cases passed
    cases run
    simp [items]
  · dsimp only at run
    rw [if_pos (by simpa using same)] at run
    obtain ⟨_, s₁, reported, run⟩ := run_bind_eq_ok.1 run
    obtain ⟨_, _, passed, run⟩ := run_bind_eq_ok.1 run
    obtain ⟨_, _, -, reported⟩ := run_bind_eq_ok.1 reported
    cases run
    have found := triple_iff_run.1 (fault_found _ _) _ trivial _ _ reported
    exact absurd (Steady.clean (fun _ => keeps_next) passed clean) found

/-! ## Endings -/

/-- The last item that was passed on the way from one state to another can end a statement. -/
def Passed (s t : State) : Prop := ∃ i, i.token.endsStatement = true ∧ i :: t.items <:+ s.items

/-- What the rule reads ends with a token that can end a statement, unless there is a fault. -/
structure Ends (p : Parse α) : Prop where
  steady : Steady p
  passed : ∀ {s a t}, s.Closed → p.run s = .ok (a, t) → t.faults = [] → Passed s t

/-- The rule reads nothing, or what it reads ends with a token that can end a statement, unless there is a fault. -/
structure MayEnd (p : Parse α) : Prop where
  steady : Steady p
  passed : ∀ {s a t}, s.Closed → p.run s = .ok (a, t) → t.faults = [] → t.items = s.items ∨ Passed s t

/-- What the rule finds ends with a token that can end a statement, and where it finds nothing it reads nothing. -/
structure EndsFound (p : Parse (Option α)) : Prop extends MayEnd p where
  found : ∀ {s a t}, s.Closed → p.run s = .ok (some a, t) → t.faults = [] → Passed s t

/-- The rule reports a fault. -/
structure Faulty (p : Parse α) : Prop where
  steady : Steady p
  faults : ∀ {s a t}, p.run s = .ok (a, t) → t.faults ≠ []

/-- The rule reads something, unless there is a fault. -/
structure Eats (p : Parse α) : Prop where
  passes : ∀ {s a t}, s.Closed → p.run s = .ok (a, t) → t.faults = [] → t.items.length < s.items.length

section

variable {p : Parse α} {f : α → Parse β}

theorem Ends.eats (h : Ends p) : Eats p := by
  refine ⟨fun closed run clean => ?_⟩
  obtain ⟨i, -, passed⟩ := h.passed closed run clean
  exact passed.length_le

theorem Eats.first (hp : Eats p) (hf : ∀ a, Steady (f a)) : Eats (p >>= f) := by
  refine ⟨fun closed run clean => ?_⟩
  obtain ⟨a, m, first, second⟩ := run_bind_eq_ok.1 run
  have less := hp.passes closed first ((hf a).clean second clean)
  have no_more := ((hf a).suffix second).length_le
  omega

theorem Eats.second (steady : Steady p) (hf : ∀ a, Eats (f a)) : Eats (p >>= f) := by
  refine ⟨fun closed run clean => ?_⟩
  obtain ⟨a, m, first, second⟩ := run_bind_eq_ok.1 run
  have suffix := steady.suffix first
  exact Nat.lt_of_lt_of_le ((hf a).passes (closed.of_suffix suffix) second clean) suffix.length_le

theorem Ends.mayEnd (h : Ends p) : MayEnd p := ⟨h.steady, fun closed run clean => .inr (h.passed closed run clean)⟩

theorem Ends.endsFound {p : Parse (Option α)} (h : Ends p) :
    EndsFound p :=
  ⟨h.mayEnd, fun closed run clean => h.passed closed run clean⟩

theorem mayEnd_pure (a : α) : MayEnd (pure a) := by
  refine ⟨steady_pure a, fun _ run _ => ?_⟩
  cases run
  exact .inl rfl

theorem endsFound_none : EndsFound (pure (none : Option α)) :=
  ⟨mayEnd_pure _, fun _ run _ => by cases run⟩

/-- Whatever is read first, something that ends is read behind it. -/
theorem Ends.after (steady : Steady p) (hf : ∀ a, Ends (f a)) : Ends (p >>= f) := by
  refine ⟨steady.bind fun a => (hf a).steady, fun closed run clean => ?_⟩
  obtain ⟨a, t, first, second⟩ := run_bind_eq_ok.1 run
  have suffix := steady.suffix first
  obtain ⟨i, ends, passed⟩ := (hf a).passed (closed.of_suffix suffix) second clean
  exact ⟨i, ends, passed.trans suffix⟩

theorem Ends.bind (hp : Ends p) (hf : ∀ a, MayEnd (f a)) : Ends (p >>= f) := by
  refine ⟨hp.steady.bind fun a => (hf a).steady, fun closed run clean => ?_⟩
  obtain ⟨a, t, first, second⟩ := run_bind_eq_ok.1 run
  have suffix := hp.steady.suffix first
  obtain ⟨i, ends, passed⟩ := hp.passed closed first ((hf a).steady.clean second clean)
  rcases (hf a).passed (closed.of_suffix suffix) second clean with same | ⟨j, ends', passed'⟩
  · exact ⟨i, ends, same ▸ passed⟩
  · exact ⟨j, ends', passed'.trans suffix⟩

theorem MayEnd.bind (hp : MayEnd p) (hf : ∀ a, MayEnd (f a)) : MayEnd (p >>= f) := by
  refine ⟨hp.steady.bind fun a => (hf a).steady, fun closed run clean => ?_⟩
  obtain ⟨a, t, first, second⟩ := run_bind_eq_ok.1 run
  have suffix := hp.steady.suffix first
  rcases (hf a).passed (closed.of_suffix suffix) second clean with same | ⟨j, ends', passed'⟩
  · rcases hp.passed closed first ((hf a).steady.clean second clean) with same' | ⟨i, ends, passed⟩
    · exact .inl (same.trans same')
    · exact .inr ⟨i, ends, same ▸ passed⟩
  · exact .inr ⟨j, ends', passed'.trans suffix⟩

theorem EndsFound.bind {p : Parse (Option α)} {f : Option α → Parse β} (hp : EndsFound p) (some : ∀ a, MayEnd (f (some a)))
    (none : Ends (f none)) : Ends (p >>= f) := by
  have steady : ∀ a, Steady (f a)
    | .none => none.steady
    | .some a => (some a).steady
  refine ⟨hp.steady.bind steady, fun closed run clean => ?_⟩
  obtain ⟨a, t, first, second⟩ := run_bind_eq_ok.1 run
  have suffix := hp.steady.suffix first
  cases a with
  | none =>
    obtain ⟨i, ends, passed⟩ := none.passed (closed.of_suffix suffix) second clean
    exact ⟨i, ends, passed.trans suffix⟩
  | some a =>
    obtain ⟨i, ends, passed⟩ := hp.found closed first ((steady _).clean second clean)
    rcases (some a).passed (closed.of_suffix suffix) second clean with same | ⟨j, ends', passed'⟩
    · exact ⟨i, ends, same ▸ passed⟩
    · exact ⟨j, ends', passed'.trans suffix⟩

theorem EndsFound.after {f : α → Parse (Option β)} (hp : MayEnd p) (hf : ∀ a, EndsFound (f a)) : EndsFound (p >>= f) := by
  refine ⟨hp.bind fun a => (hf a).toMayEnd, fun closed run clean => ?_⟩
  obtain ⟨a, t, first, second⟩ := run_bind_eq_ok.1 run
  have suffix := hp.steady.suffix first
  obtain ⟨i, ends, passed⟩ := (hf a).found (closed.of_suffix suffix) second clean
  exact ⟨i, ends, passed.trans suffix⟩

/-- Behind a fault, nothing is read without one. -/
theorem Faulty.first {p : Parse α} {f : α → Parse β} (hp : Faulty p) (hf : ∀ a, Steady (f a)) : Faulty (p >>= f) := by
  refine ⟨hp.steady.bind hf, fun run clean => ?_⟩
  obtain ⟨a, t, reported, rest⟩ := run_bind_eq_ok.1 run
  exact hp.faults reported ((hf a).clean rest clean)

theorem Faulty.after {p : Parse α} {f : α → Parse β} (hp : Steady p) (hf : ∀ a, Faulty (f a)) : Faulty (p >>= f) := by
  refine ⟨hp.bind fun a => (hf a).steady, fun run => ?_⟩
  obtain ⟨a, t, -, rest⟩ := run_bind_eq_ok.1 run
  exact (hf a).faults rest

theorem faulty_fault (o : Nat) (m : Text) : Faulty (fault o m) :=
  ⟨fun _ => keeps_fault o m, fun run => triple_iff_run.1 (fault_found o m) _ trivial _ _ run⟩

theorem faulty_faultExpected (o : Nat) (m : Text) : Faulty (faultExpected o m) :=
  .after (fun _ => keeps_current) fun _ => faulty_fault _ _

theorem Faulty.ends {p : Parse α} (h : Faulty p) : Ends p := ⟨h.steady, fun _ run clean => absurd clean (h.faults run)⟩

theorem ends_fault {o : Nat} {m : Text} {f : Unit → Parse β} (steady : Steady (f ())) : Ends (fault o m >>= f) :=
  ((faulty_fault o m).first fun _ => steady).ends

theorem ends_faultExpected {o : Nat} {m : Text} {f : Unit → Parse β} (steady : Steady (f ())) :
    Ends (faultExpected o m >>= f) := ((faulty_faultExpected o m).first fun _ => steady).ends

end

/-! ## Steps -/

theorem mayEnd_isAt (x : Token) : MayEnd (isAt x) := by
  refine ⟨fun _ => keeps_isAt x, fun _ run _ => ?_⟩
  cases run
  exact .inl rfl

theorem mayEnd_get : MayEnd get := by
  refine ⟨fun _ => triple_iff_run.2 fun s h _ _ run => ?_, fun _ run _ => ?_⟩
  · cases run
    exact h
  · cases run
    exact .inl rfl

theorem mayEnd_fault (o : Nat) (m : Text) : MayEnd (fault o m) := by
  refine ⟨fun _ => keeps_fault o m, fun {s a u} _ run _ => ?_⟩
  rcases run_fault o m s with stops | ⟨stays, -⟩ | ⟨f, adds⟩
  · rw [stops] at run
    cases run
  · rw [stays] at run
    cases run
    exact .inl rfl
  · rw [adds] at run
    cases run
    exact .inl rfl

theorem mayEnd_faultExpected (o : Nat) (m : Text) : MayEnd (faultExpected o m) := by
  refine MayEnd.bind ⟨fun _ => keeps_current, fun _ run _ => ?_⟩ fun i => mayEnd_fault _ _
  cases run
  exact .inl rfl

theorem mayEnd_token : MayEnd token := by
  refine ⟨fun _ => keeps_token, fun _ run _ => ?_⟩
  cases run
  exact .inl rfl

theorem eats_expect {t : Token} (inner : t ≠ .eof) : Eats (expect t) := by
  refine ⟨fun closed run clean => ?_⟩
  obtain ⟨i, j, rest, items, -, left⟩ := expect_spec run clean closed inner
  simp [items, left]

theorem ends_expect {t : Token} (h : t.endsStatement = true) : Ends (expect t) := by
  refine ⟨fun _ => keeps_expect t, fun closed run clean => ?_⟩
  obtain ⟨i, j, rest, items, token, left⟩ := expect_spec run clean closed (by rintro rfl; cases h)
  exact ⟨i, token ▸ h, by rw [items, left]⟩

/-- An item that is there and can end a statement is passed. -/
theorem passed_next {s u : State} {a : Unit} (closed : s.Closed) (run : next.run s = .ok (a, u))
    (ends : (s.items.head?.getD { offset := s.file.size, token := .eof, lit := [] }).token.endsStatement = true) :
    Passed s u := by
  obtain ⟨i, j, rest, items⟩ := closed.exists_items fun eof => by rw [eof] at ends; cases ends
  rw [run_next] at run
  cases run
  exact ⟨i, by simpa [items] using ends, by simp [items]⟩

theorem ends_expect? {t : Token} (h : t.endsStatement = true) : Ends (expect? t) := by
  refine ⟨fun _ => keeps_expect? t, fun {s a u} closed run clean => ?_⟩
  have same : ∃ o, (expect t).run s = .ok (o, u) := by
    obtain ⟨i, s₁, here, run⟩ := run_bind_eq_ok.1 run
    refine ⟨i.offset, run_bind_eq_ok.2 ⟨i, s₁, here, ?_⟩⟩
    dsimp only at run ⊢
    split at run
    · next other =>
      obtain ⟨_, s₂, reported, run⟩ := run_bind_eq_ok.1 run
      obtain ⟨_, s₃, passed, run⟩ := run_bind_eq_ok.1 run
      cases run
      rw [if_pos other]
      exact run_bind_eq_ok.2 ⟨_, s₂, reported, run_bind_eq_ok.2 ⟨_, u, passed, rfl⟩⟩
    · next other =>
      obtain ⟨_, s₃, passed, run⟩ := run_bind_eq_ok.1 run
      cases run
      rw [if_neg other]
      exact run_bind_eq_ok.2 ⟨_, u, passed, rfl⟩
  obtain ⟨o, run⟩ := same
  exact (ends_expect h).passed closed run clean

/-- What is read from an item on ends, or the item itself can end a statement and is passed. -/
theorem Ends.current {f : Item → Parse α}
    (h : ∀ i, Ends (f i) ∨ i.token.endsStatement = true ∧ ∃ g : Unit → Parse α, f i = (next >>= g) ∧ ∀ a, MayEnd (g a)) :
    Ends (current >>= f) := by
  have steady (i : Item) : Steady (f i) := by
    rcases h i with ends | ⟨-, g, eq, mayEnd⟩
    · exact ends.steady
    · exact eq ▸ Steady.bind (fun _ => keeps_next) fun a => (mayEnd a).steady
  refine ⟨Steady.bind (fun _ => keeps_current) steady, fun {s a u} closed run clean => ?_⟩
  obtain ⟨i, _, here, run⟩ := run_bind_eq_ok.1 run
  rw [run_current] at here
  cases here
  rcases h _ with ends | ⟨ends, g, eq, mayEnd⟩
  · exact ends.passed closed run clean
  · rw [eq] at run
    obtain ⟨_, t, passed, run⟩ := run_bind_eq_ok.1 run
    obtain ⟨i, ends, items⟩ := passed_next closed passed ends
    have suffix := Steady.suffix (fun _ => keeps_next) passed
    rcases (mayEnd _).passed (closed.of_suffix suffix) run clean with same | ⟨j, ends', passed'⟩
    · exact ⟨i, ends, same ▸ items⟩
    · exact ⟨j, ends', passed'.trans suffix⟩

theorem ends_ident : Ends ident := by
  refine ⟨fun _ => keeps_ident, fun closed run clean => ?_⟩
  obtain ⟨i, _, here, run⟩ := run_bind_eq_ok.1 run
  rw [run_current] at here
  cases here
  split at run
  · next name =>
    obtain ⟨_, _, passed, run⟩ := run_bind_eq_ok.1 run
    cases run
    exact passed_next closed passed (by rw [eq_of_beq name]; rfl)
  · obtain ⟨_, _, passed, run⟩ := run_bind_eq_ok.1 run
    cases run
    exact (ends_expect rfl).passed closed passed clean

theorem ends_expectClosing {t : Token} (h : t.endsStatement = true) (inside : Text) : Ends (expectClosing t inside) := by
  unfold expectClosing
  refine .after (fun _ => keeps_current) fun i => ?_
  dsimp only
  split
  · exact ends_fault fun I => by mvcgen
  · exact ends_expect h

theorem run_withLevel_eq_ok {f : Int → Int} {p : Parse α} {s u : State} {a : α} :
    (withLevel f p).run s = .ok (a, u) ↔
      ∃ t, p.run { s with level := f s.level } = .ok (a, t) ∧ u = { t with level := s.level } := by
  constructor
  · intro run
    obtain ⟨old, _, first, run⟩ := run_bind_eq_ok.1 run
    cases first
    obtain ⟨_, _, set, run⟩ := run_bind_eq_ok.1 run
    cases set
    obtain ⟨b, t, inner, run⟩ := run_bind_eq_ok.1 run
    obtain ⟨_, _, restored, run⟩ := run_bind_eq_ok.1 run
    cases restored
    cases run
    exact ⟨t, inner, rfl⟩
  · rintro ⟨t, inner, rfl⟩
    exact run_bind_eq_ok.2 ⟨s, s, rfl, run_bind_eq_ok.2 ⟨(), _, rfl, run_bind_eq_ok.2 ⟨a, t, inner,
      run_bind_eq_ok.2 ⟨(), _, rfl, rfl⟩⟩⟩⟩

theorem run_withRhs_eq_ok {rhs : Bool} {p : Parse α} {s u : State} {a : α} :
    (withRhs rhs p).run s = .ok (a, u) ↔ ∃ t, p.run { s with inRhs := rhs } = .ok (a, t) ∧ u = { t with inRhs := s.inRhs } := by
  constructor
  · intro run
    obtain ⟨old, _, first, run⟩ := run_bind_eq_ok.1 run
    cases first
    obtain ⟨_, _, set, run⟩ := run_bind_eq_ok.1 run
    cases set
    obtain ⟨b, t, inner, run⟩ := run_bind_eq_ok.1 run
    obtain ⟨_, _, restored, run⟩ := run_bind_eq_ok.1 run
    cases restored
    cases run
    exact ⟨t, inner, rfl⟩
  · rintro ⟨t, inner, rfl⟩
    exact run_bind_eq_ok.2 ⟨s, s, rfl, run_bind_eq_ok.2 ⟨(), _, rfl, run_bind_eq_ok.2 ⟨a, t, inner,
      run_bind_eq_ok.2 ⟨(), _, rfl, rfl⟩⟩⟩⟩

theorem Ends.nested {p : Parse α} (h : Ends p) : Ends (nested p) := by
  refine ⟨fun I => keeps_nested (h.steady I), fun {s a u} closed run clean => ?_⟩
  obtain ⟨t, inner, rfl⟩ := run_withLevel_eq_ok.1 run
  obtain ⟨i, ends, passed⟩ := h.passed (s := { s with level := s.level + 1 }) (t := t) closed inner clean
  exact ⟨i, ends, passed⟩

/-- The rules for expressions and types end with a token that can end a statement. -/
class Rules.End (r : Rules) : Prop where
  keep : ∀ I, Keep I r
  binary : ∀ prec, Ends (r.binary prec)
  unary : Ends r.unary
  type? : EndsFound r.type?
  literalValue : ∀ type, Ends (r.literalValue type)

namespace Rules

variable {r : Rules} [End r]

instance {I : Invariant} : Keep I r := End.keep I

/-! ## Types -/

theorem ends_type : Ends r.type := by
  unfold type
  refine End.type?.bind (fun t => mayEnd_pure t) ?_
  exact .after (fun _ => keeps_offset) fun start => ends_faultExpected fun I => by mvcgen

omit [End r] in
theorem ends_typeName : Ends (typeName none) := by
  unfold typeName
  refine ends_ident.bind fun id => (mayEnd_isAt _).bind fun b => ?_
  split
  · exact (Ends.after (fun _ => keeps_next) fun _ => ends_ident.bind fun _ => mayEnd_pure _).mayEnd
  · exact mayEnd_pure _

theorem ends_typeInstance (t : Expr) : Ends (r.typeInstance t) := by
  unfold typeInstance
  refine .after (fun _ => keeps_expect _) fun opening => ?_
  refine .after (fun _ => keeps_nested keeps_typeArguments) fun args => ?_
  refine (ends_expectClosing rfl _).bind fun closing => ?_
  split
  · refine (ends_faultExpected ?_).mayEnd
    exact steady_pure _
  · exact mayEnd_pure _

theorem ends_arrayType (lbrack : Nat) (length : Option Expr) : Ends (r.arrayType lbrack length) := by
  unfold arrayType
  extract_lets rest
  have ends_rest (length : Option Expr) : Ends (rest length) := by
    refine .after (fun _ => keeps_isAt _) fun comma => ?_
    extract_lets element
    have ends_element (u : Unit) : Ends (element u) :=
      .after (fun _ => keeps_expect _) fun _ => ends_type.bind fun _ => mayEnd_pure _
    split
    · exact .after (fun _ => keeps_offset) fun _ => .after (fun _ => keeps_fault _ _) fun _ =>
        .after (fun _ => keeps_next) ends_element
    · exact ends_element ()
  clear_value rest
  split
  · exact .after (steady_pure _) ends_rest
  · exact .after (fun _ => keeps_nested (by mvcgen)) ends_rest

theorem ends_structType : Ends r.structType := by
  unfold structType
  refine .after (fun _ => keeps_expect _) fun o => ?_
  refine .after (fun _ => keeps_expect _) fun lbrace => ?_
  refine .after (fun _ => keeps_manyWhile keeps_fieldDecl (keeps_isAtAny _) _) fun fields => ?_
  exact (ends_expect rfl).bind fun rbrace => mayEnd_pure _

theorem ends_pointerType : Ends r.pointerType := by
  unfold pointerType
  exact .after (fun _ => keeps_expect _) fun star => ends_type.bind fun t => mayEnd_pure _

theorem ends_parameters (dotsOk : Bool) : Ends (r.parameters dotsOk) := by
  unfold parameters
  refine .after (fun _ => keeps_expect _) fun opening => ?_
  refine .after (fun _ => keeps_isAt _) fun none => ?_
  extract_lets rest
  have ends_rest (fields : List Field) : Ends (rest fields) := (ends_expect rfl).bind fun _ => mayEnd_pure _
  split
  · exact ends_rest _
  · exact .after (fun _ => keeps_paramList _ _ _ _) ends_rest

theorem mayEnd_result : MayEnd r.result := by
  unfold result
  refine (mayEnd_isAt _).bind fun parenthesized => ?_
  split
  · exact ((ends_parameters false).bind fun _ => mayEnd_pure _).mayEnd
  · refine End.type?.toMayEnd.bind fun t => ?_
    split <;> exact mayEnd_pure _

theorem ends_funcType : Ends r.funcType := by
  unfold funcType
  refine .after (fun _ => keeps_expect _) fun o => ?_
  refine .after (fun _ => keeps_typeParameters) fun typeParams => ?_
  extract_lets rest
  have ends_rest (u : Unit) : Ends (rest u) :=
    (ends_parameters true).bind fun _ => mayEnd_result.bind fun _ => mayEnd_pure _
  split
  · exact .after (fun _ => keeps_fault _ _) ends_rest
  · exact ends_rest ()

theorem ends_interfaceType : Ends r.interfaceType := by
  unfold interfaceType
  refine .after (fun _ => keeps_expect _) fun o => ?_
  refine .after (fun _ => keeps_expect _) fun lbrace => ?_
  refine .after (fun _ => keeps_interfaceElems _) fun elems => ?_
  exact (ends_expect rfl).bind fun rbrace => mayEnd_pure _

theorem ends_mapType : Ends r.mapType := by
  unfold mapType
  refine .after (fun _ => keeps_expect _) fun o => ?_
  refine .after (fun _ => keeps_expect _) fun _ => ?_
  refine .after (fun _ => keeps_type) fun key => ?_
  refine .after (fun _ => keeps_expect _) fun _ => ?_
  exact ends_type.bind fun value => mayEnd_pure _

theorem ends_chanType : Ends r.chanType := by
  unfold chanType
  have typed (build : Expr → Expr) : Ends (do return build (← r.type)) := ends_type.bind fun t => mayEnd_pure _
  refine .after (fun _ => keeps_offset) fun o => ?_
  refine .after (fun _ => keeps_isAt _) fun chan => ?_
  split
  · refine .after (fun _ => keeps_next) fun _ => ?_
    refine .after (fun _ => keeps_isAt _) fun sends => ?_
    split
    · exact .after (fun _ => keeps_offset) fun _ => .after (fun _ => keeps_next) fun _ => typed _
    · exact typed _
  · exact .after (fun _ => keeps_expect _) fun _ => .after (fun _ => keeps_expect _) fun _ => typed _

theorem ends_typeRule : EndsFound r.typeRule := by
  have found {p : Parse Expr} (h : Ends p) : EndsFound (do return some (← p)) := (h.bind fun _ => mayEnd_pure _).endsFound
  unfold typeRule
  refine .after mayEnd_token fun t => ?_
  split
  · refine (ends_typeName.bind fun t => (mayEnd_isAt _).bind fun b => ?_).endsFound
    dsimp only
    split
    · exact ((ends_typeInstance t).bind fun _ => mayEnd_pure _).mayEnd
    · exact mayEnd_pure _
  · exact (Ends.after (fun _ => keeps_expect _) fun lbrack => (ends_arrayType lbrack none).bind fun _ => mayEnd_pure _).endsFound
  · exact found ends_structType
  · exact found ends_pointerType
  · exact found ends_funcType
  · exact found ends_interfaceType
  · exact found ends_mapType
  · exact found ends_chanType
  · exact found ends_chanType
  · refine (Ends.after (fun _ => keeps_offset) fun lparen => ?_).endsFound
    refine .after (fun _ => keeps_next) fun _ => ?_
    refine .after (fun _ => keeps_type) fun t => ?_
    exact (ends_expect rfl).bind fun rparen => mayEnd_pure _
  · exact endsFound_none

/-! ## Expressions -/

theorem ends_block : Ends r.block := by
  unfold block
  refine .after (fun _ => keeps_expect _) fun lbrace => ?_
  refine .after (fun _ => keeps_stmtList) fun stmts => ?_
  exact (ends_expect? rfl).bind fun rbrace => mayEnd_pure _

theorem ends_funcTypeOrLit : Ends r.funcTypeOrLit := by
  unfold funcTypeOrLit
  refine ends_funcType.bind fun t => ?_
  refine (mayEnd_isAt _).bind fun b => ?_
  split
  · refine (ends_block.nested.bind fun b => ?_).mayEnd
    split <;> exact mayEnd_pure _
  · exact mayEnd_pure _

theorem ends_operand : Ends r.operand := by
  unfold operand
  refine .current fun i => ?_
  split
  · exact .inl (ends_ident.bind fun _ => mayEnd_pure _)
  case h_7 =>
    refine .inl (.after (fun _ => keeps_next) fun _ => ?_)
    refine .after (fun _ => keeps_nested keeps_rhs) fun x => ?_
    exact (ends_expect rfl).bind fun rparen => mayEnd_pure _
  case h_8 => exact .inl ends_funcTypeOrLit
  case h_9 =>
    refine .inl (End.type?.bind (fun t => mayEnd_pure t) ?_)
    exact ends_faultExpected fun I => by mvcgen
  all_goals
    next literal =>
    exact .inr ⟨by rw [literal]; rfl, _, rfl, fun _ => mayEnd_pure _⟩

theorem ends_typeAssertion (x : Expr) : Ends (r.typeAssertion x) := by
  unfold typeAssertion
  refine .after (fun _ => keeps_expect _) fun lparen => ?_
  refine .after (fun _ => keeps_isAt _) fun b => ?_
  extract_lets rest
  have ends_rest (t : Option Expr) : Ends (rest t) := (ends_expect rfl).bind fun _ => mayEnd_pure _
  split
  · exact .after (fun _ => keeps_next) fun _ => ends_rest none
  · exact .after (fun _ => keeps_type) fun t => ends_rest _

theorem ends_indexOrSlice (x : Expr) : Ends (r.indexOrSlice x) := by
  unfold indexOrSlice
  refine .after (fun _ => keeps_expect _) fun lbrack => ?_
  refine .after (fun _ => keeps_isAt _) fun empty => ?_
  split
  · exact .after (fun _ => keeps_offset) fun _ => ends_faultExpected fun I => by mvcgen
  · refine .after (fun _ => keeps_nested ?_) fun (first, bounds, args) => ?_
    · have more := fun I => keeps_manyWhile (I := I) (p := do
        next
        if ← isAtAny [.rbrack, .eof] then return none else return some (← r.type)) (by mvcgen) (keeps_isAt .comma) r.fuel
      exact by mvcgen [more]
    · refine (ends_expect rfl).bind fun rbrack => ?_
      dsimp only
      split
      · exact mayEnd_pure _
      · split
        · refine (mayEnd_fault _ _).bind fun _ => ?_
          split
          · exact (mayEnd_fault _ _).bind fun _ => mayEnd_pure _
          · exact mayEnd_pure _
        · split
          · exact (mayEnd_fault _ _).bind fun _ => mayEnd_pure _
          · exact mayEnd_pure _
      · exact mayEnd_pure _

theorem ends_callOrConversion (f : Expr) : Ends (r.callOrConversion f) := by
  unfold callOrConversion
  refine .after (fun _ => keeps_expect _) fun lparen => ?_
  refine .after (fun _ => keeps_nested (keeps_callArgs _)) fun (args, dots) => ?_
  exact (ends_expectClosing rfl _).bind fun rparen => mayEnd_pure _

theorem ends_literalValueRule (type : Option Expr) : Ends (r.literalValueRule type) := by
  unfold literalValueRule
  refine .after (fun _ => keeps_expect _) fun lbrace => ?_
  refine .after (fun _ => keeps_nested (keeps_listUntil keeps_element _ _ _)) fun elements => ?_
  exact (ends_expectClosing rfl _).bind fun rparen => mayEnd_pure _

theorem mayEnd_primaryRest (x : Expr) (fuel : Nat) : MayEnd (r.primaryRest x fuel) := by
  induction fuel generalizing x with
  | zero => exact mayEnd_pure x
  | succ fuel ih =>
    unfold primaryRest
    refine mayEnd_token.bind fun t => ?_
    split
    · refine (Ends.after (fun _ => keeps_next) fun _ => .after (fun _ => keeps_token) fun t => ?_).mayEnd
      split
      · exact ends_ident.bind fun _ => ih _
      · exact (ends_typeAssertion x).bind ih
      · exact .after (fun _ => keeps_offset) fun o => ends_faultExpected fun I => by mvcgen
    · exact ((ends_indexOrSlice x).bind ih).mayEnd
    · exact ((ends_callOrConversion x).bind ih).mayEnd
    · refine mayEnd_get.bind fun s => ?_
      have literal : MayEnd (r.literalValue (some x) >>= fun y => r.primaryRest y fuel) :=
        ((End.literalValue _).bind ih).mayEnd
      split
      · dsimp only
        split
        · exact (mayEnd_fault _ _).bind fun _ => literal
        · exact literal
      · exact mayEnd_pure x
    · exact mayEnd_pure _

theorem ends_primary : Ends (r.primary none) := by
  unfold primary
  exact ends_operand.bind fun x => mayEnd_primaryRest x r.fuel

theorem mayEnd_pushArrow (arrow : Nat) (x : Expr) : MayEnd (pushArrow arrow x) := by
  induction arrow, x using pushArrow.induct with
  | case1 arrow o a dir value _ ih | case2 arrow o a dir value _ ih =>
    unfold pushArrow
    extract_lets rest
    have mayEnd_rest (u : Unit) : MayEnd (rest u) := by
      unfold rest
      split
      · split
        · exact ih.bind fun _ => mayEnd_pure _
        · exact (mayEnd_faultExpected _ _).bind fun _ => mayEnd_pure _
      · exact mayEnd_pure _
    clear_value rest
    have fault_first := (mayEnd_faultExpected (a.getD 0) (text "'chan'")).bind mayEnd_rest
    have no_fault := mayEnd_rest ()
    split <;> assumption
  | case3 x arrow other =>
    unfold pushArrow
    split
    · exact absurd rfl (other _ _ _ _)
    · exact mayEnd_pure _

theorem ends_unaryRule : Ends r.unaryRule := by
  unfold unaryRule
  refine .after (fun _ => keeps_current) fun i => ?_
  split
  case h_7 => 
    refine .after (fun _ => keeps_next) fun _ => End.unary.bind fun x => ?_
    split
    · exact mayEnd_pushArrow _ _
    · exact mayEnd_pure _
  case h_9 => exact ends_primary
  all_goals exact .after (fun _ => keeps_next) fun _ => End.unary.bind fun _ => mayEnd_pure _

theorem mayEnd_binaryRest (prec : Nat) (x : Expr) (fuel : Nat) : MayEnd (r.binaryRest prec x fuel) := by
  induction fuel generalizing x with
  | zero => exact mayEnd_pure x
  | succ fuel ih =>
    unfold binaryRest operator
    refine (mayEnd_token.bind fun t => mayEnd_get.bind fun s => mayEnd_pure _).bind fun op => ?_
    split
    · exact mayEnd_pure x
    · refine (Ends.after (fun _ => keeps_expect op) fun o => ?_).mayEnd
      exact (End.binary _).bind fun y => ih _

theorem ends_expr : Ends r.expr := End.binary 1

theorem ends_binaryRule (prec : Nat) : Ends (r.binaryRule prec) := by
  unfold binaryRule
  exact End.unary.bind fun x => mayEnd_binaryRest prec x r.fuel

/-! ## Closing the circle -/

omit [End r] in
theorem ends_giveUp : Ends (giveUp : Parse α) := by
  refine ⟨fun _ => keeps_giveUp, fun _ run _ => ?_⟩
  obtain ⟨_, _, here, run⟩ := run_bind_eq_ok.1 run
  cases run

/-- **Expressions and types of every depth end with a token that can end a statement.** -/
theorem ends_ofDepth (fuel depth : Nat) : End (ofDepth fuel depth) := by
  induction depth with
  | zero =>
    exact ⟨fun _ => keeps_ofDepth _ _, fun _ => ends_giveUp, ends_giveUp, ends_giveUp.endsFound, fun _ => ends_giveUp⟩
  | succ depth ih =>
    exact ⟨fun _ => keeps_ofDepth _ _, ends_binaryRule, ends_unaryRule, ends_typeRule, ends_literalValueRule⟩

end Rules

end DocAccessors.Source.Grammar
