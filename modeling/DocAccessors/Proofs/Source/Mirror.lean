import DocAccessors.Proofs.Source.Endings

/-!
# Reading the same tokens in two places

An expression is read on its own, with nothing but the end behind it, and where it stands in a file. The tokens are the
same, but not their offsets, the comments around them, and what follows.

* `Seam`: what follows the expression on its own and in the file;
* `Beside E ys ys' s s'`: the states `s` and `s'` are before the same tokens of the expression;
* `Mirrors E room eaten k v p q`: whatever the rule `p` reads on its own without faults, the rule `q` reads in the file;
* `Mirrors.bind` and its variants put rules together.
-/

set_option mvcgen.warning false

namespace DocAccessors.Source.Grammar

/-- Items that the rules treat alike, the second one without faults. -/
structure Item.Alike (i j : Item) : Prop where
  token : i.token = j.token
  lit : i.lit = j.lit
  clean : j.faults = []

/-- What follows an expression: on its own, the semicolon of its last line and the end; in a file, a delimiter and the
rest of the file. -/
structure Seam where
  semi : Item
  eof : Item
  follow : Item
  beyond : List Item
  semi_token : semi.token = .semicolon
  eof_token : eof.token = .eof
  follow_token : follow.token ∈ [.comma, .rparen, .semicolon]
  follow_clean : follow.faults = []

/-- What the rules ask a level of nesting. -/
def openness (level : Int) : Option Int := if 0 ≤ level then none else some level

theorem nonneg_of_openness {l l' : Int} (h : openness l = openness l') : 0 ≤ l ↔ 0 ≤ l' := by
  unfold openness at h
  split at h <;> split at h <;> simp_all

/-- The switches that the rules set, as far as the rules ask for them. -/
def State.switches (s : State) : Option Int × Bool := (openness s.level, s.inRhs)

/-- The switches of one state are those of another. -/
structure State.SameSwitches (s t : State) : Prop where
  level : s.level = t.level
  inRhs : s.inRhs = t.inRhs

theorem State.SameSwitches.refl (s : State) : s.SameSwitches s := ⟨rfl, rfl⟩

theorem State.SameSwitches.trans {s t u : State} (h : s.SameSwitches t) (h' : t.SameSwitches u) : s.SameSwitches u :=
  ⟨h.level.trans h'.level, h.inRhs.trans h'.inRhs⟩

/-- The first state is before the tokens `ys` of the expression on its own, the second one before the same tokens in the
file. -/
structure Beside (E : Seam) (ys ys' : List Item) (s s' : State) : Prop where
  items : s.items = ys ++ [E.semi, E.eof]
  items' : s'.items = ys' ++ E.follow :: E.beyond
  alike : List.Forall₂ Item.Alike ys ys'
  clean : s.faults = []
  clean' : s'.faults = []
  switches : s.switches = s'.switches

/-- On its own, `a` was read of the tokens `ys` on the way from the state `s` to `t`. In the file, the rule `q` reads the same
as far as the view `v` tells, and passes the same tokens, at least `eaten` of them. -/
def Follows (E : Seam) (eaten : Nat) (v : α → γ) (ys : List Item) (s s' : State) (a : α) (t : State) (q : Parse α) : Prop :=
  ∃ b t' zs zs', q.run s' = .ok (b, t') ∧ v a = v b ∧ Beside E zs zs' t t' ∧ zs.length + eaten ≤ ys.length ∧
    t.SameSwitches s ∧ t'.SameSwitches s'

/-- Whatever the rule `p` reads of less than `k` tokens on its own without faults, the rule `q` reads in the file, with the
same result as far as the view `v` tells. At least `room` tokens of the expression are left, and at least `eaten` are passed. -/
structure Mirrors (E : Seam) (room eaten k : Nat) (v : α → γ) (p q : Parse α) : Prop where
  steady : Steady p
  follows : ∀ {s s' a t ys ys'}, Beside E ys ys' s s' → ys.length < k → p.run s = .ok (a, t) → t.faults = [] →
    2 + room ≤ t.items.length → Follows E eaten v ys s s' a t q

/-- Before another token than a given one, the rule passes a token, and so it does in the file. -/
def PassesUnless (E : Seam) (x : Token) (k : Nat) (v : α → γ) (p q : Parse α) : Prop :=
  ∀ {s s' a t ys ys'}, Beside E ys ys' s s' → ys.length < k → (∀ i ∈ ys.head?, i.token ≠ x) → p.run s = .ok (a, t) →
    t.faults = [] → 3 ≤ t.items.length → Follows E 1 v ys s s' a t q

section

variable {E : Seam} {room eaten k : Nat}

theorem Beside.length {ys ys' : List Item} {s s' : State} (h : Beside E ys ys' s s') : s.items.length = ys.length + 2 := by
  rw [h.items, List.length_append]
  rfl

theorem Beside.closed {ys ys' : List Item} {s s' : State} (h : Beside E ys ys' s s') : s.Closed := by
  intro i last
  rw [h.items] at last
  simp only [List.getLast?_append, List.getLast?_cons_cons, List.getLast?_singleton, Option.some_or, Option.mem_def,
    Option.some.injEq] at last
  exact last ▸ E.eof_token

/-! ## Putting rules together -/

variable {v : α → γ} {p q : Parse α} {w : β → δ} {f g : α → Parse β}

theorem mirrors_pure {a b : α} (h : v a = v b) : Mirrors E room 0 k v (pure a) (pure b) := by
  refine ⟨steady_pure a, fun {s s' _ _ ys ys'} beside _ run _ _ => ?_⟩
  cases run
  exact ⟨b, s', ys, ys', rfl, h, beside, Nat.le_refl _, .refl s, .refl s'⟩

theorem Follows.bind {e d n : Nat} {ys : List Item} {s s' m t : State} {a : α} {c : β} (h : Follows E e v ys s s' a m q)
    (hg : ∀ {b m' zs zs'}, v a = v b → Beside E zs zs' m m' → zs.length + e ≤ ys.length →
      Follows E d w zs m m' c t (g b)) (enough : n ≤ e + d) : Follows E n w ys s s' c t (q >>= g) := by
  obtain ⟨b, m', zs, zs', first, alike, beside, left, same, same'⟩ := h
  obtain ⟨d, t', ws, ws', second, alike', beside', left', same₂, same₂'⟩ := hg alike beside left
  exact ⟨d, t', ws, ws', run_bind_eq_ok.2 ⟨b, m', first, second⟩, alike', beside', by omega, same₂.trans same,
    same₂'.trans same'⟩

theorem Mirrors.weaken {e : Nat} (h : Mirrors E room eaten k v p q) (less : e ≤ eaten) : Mirrors E room e k v p q := by
  refine ⟨h.steady, fun beside short run clean length => ?_⟩
  obtain ⟨b, t', zs, zs', run', alike, beside', left, same⟩ := h.follows beside short run clean length
  exact ⟨b, t', zs, zs', run', alike, beside', by omega, same⟩

theorem Mirrors.mono {j : Nat} (h : Mirrors E room eaten k v p q) (le : j ≤ k) : Mirrors E room eaten j v p q :=
  ⟨h.steady, fun beside short => h.follows beside (by omega)⟩

/-- What looks alike looks alike from further away. -/
theorem Mirrors.coarsen {u : α → ε} (h : Mirrors E room eaten k v p q) (coarser : ∀ a b, v a = v b → u a = u b) :
    Mirrors E room eaten k u p q := by
  refine ⟨h.steady, fun beside short run clean length => ?_⟩
  obtain ⟨b, t', zs, zs', run', alike, rest⟩ := h.follows beside short run clean length
  exact ⟨b, t', zs, zs', run', coarser _ _ alike, rest⟩

/-- What is read is not looked at. -/
theorem Mirrors.forget (h : Mirrors E room eaten k v p q) : Mirrors E room eaten k (fun _ => ()) p q :=
  h.coarsen fun _ _ _ => rfl

/-- Where tokens are left, a rule may leave none. -/
theorem Mirrors.inner (h : Mirrors E 0 eaten k v p q) : Mirrors E room eaten k v p q :=
  ⟨h.steady, fun beside short run clean length => h.follows beside short run clean (by omega)⟩

/-- The first rule passes a token. -/
theorem Mirrors.eat {e : Nat} (hp : Mirrors E room e k v p q)
    (hf : ∀ a b, v a = v b → Mirrors E room eaten k w (f a) (g b)) :
    Mirrors E room (e + eaten) k w (p >>= f) (q >>= g) := by
  have steady (a : α) : Steady (f a) := (hf a a rfl).steady
  refine ⟨hp.steady.bind steady, fun beside short run clean length => ?_⟩
  obtain ⟨a, m, first, second⟩ := run_bind_eq_ok.1 run
  have shorter := ((steady a).suffix second).length_le
  refine (hp.follows beside short first ((steady a).clean second clean) (by omega)).bind (fun alike beside' left => ?_)
    (Nat.le_refl _)
  exact (hf a _ alike).follows beside' (by omega) second clean length

theorem Mirrors.bind {e : Nat} (hp : Mirrors E room e k v p q)
    (hf : ∀ a b, v a = v b → Mirrors E room eaten k w (f a) (g b)) :
    Mirrors E room eaten k w (p >>= f) (q >>= g) := (hp.eat hf).weaken (Nat.le_add_left _ _)

/-- It is the first rule that passes a token. -/
theorem Mirrors.first (hp : Mirrors E room eaten k v p q) (hf : ∀ a b, v a = v b → Mirrors E room 0 k w (f a) (g b)) :
    Mirrors E room eaten k w (p >>= f) (q >>= g) := hp.eat hf

/-- What is read is the same. -/
theorem Mirrors.same {p q : Parse α} {f g : α → Parse β} {e : Nat} (hp : Mirrors E room e k id p q)
    (hf : ∀ a, Mirrors E room eaten k w (f a) (g a)) : Mirrors E room eaten k w (p >>= f) (q >>= g) :=
  hp.bind fun a b (eq : a = b) => eq ▸ hf a

/-- Both rules find something, or none does. -/
theorem Mirrors.options {p q : Parse (Option α)} {f g : Option α → Parse β} {e : Nat}
    (hp : Mirrors E room e k (Option.map v) p q)
    (some : ∀ a b, v a = v b → Mirrors E room eaten k w (f (some a)) (g (some b)))
    (none : Mirrors E room eaten k w (f none) (g none)) : Mirrors E room eaten k w (p >>= f) (q >>= g) :=
  hp.bind fun
    | .none, .none, _ => none
    | .some a, .some b, same => some a b (Option.some.inj same)

/-- Behind a rule that passes a token, there are fewer tokens. -/
theorem Mirrors.less (hp : Mirrors E room 1 (k + 1) v p q)
    (hf : ∀ a b, v a = v b → Mirrors E room 0 k w (f a) (g b)) :
    Mirrors E room 1 (k + 1) w (p >>= f) (q >>= g) := by
  have steady (a : α) : Steady (f a) := (hf a a rfl).steady
  refine ⟨hp.steady.bind steady, fun beside short run clean length => ?_⟩
  obtain ⟨a, m, first, second⟩ := run_bind_eq_ok.1 run
  have shorter := ((steady a).suffix second).length_le
  refine (hp.follows beside short first ((steady a).clean second clean) (by omega)).bind (fun alike beside' left => ?_)
    (Nat.le_add_right 1 0)
  exact (hf a _ alike).follows beside' (by omega) second clean length

/-- What reads something passes a token. -/
theorem Mirrors.eats (h : Mirrors E room 0 k v p q) (eats : Eats p) : Mirrors E room 1 k v p q := by
  refine ⟨h.steady, fun beside short run clean length => ?_⟩
  obtain ⟨b, t', zs, zs', run', alike, beside', left, same⟩ := h.follows beside short run clean length
  have shorter := eats.passes beside.closed run clean
  rw [beside.length, beside'.length] at shorter
  exact ⟨b, t', zs, zs', run', alike, beside', by omega, same⟩

/-- Before a rule that reads something, tokens are left. -/
theorem Mirrors.before {e : Nat} (hp : Mirrors E 1 e k v p q) (eats : ∀ a, Eats (f a))
    (hf : ∀ a b, v a = v b → Mirrors E 0 eaten k w (f a) (g b)) :
    Mirrors E 0 eaten k w (p >>= f) (q >>= g) := by
  suffices all : Mirrors E 0 (e + eaten) k w (p >>= f) (q >>= g) from all.weaken (Nat.le_add_left _ _)
  have steady (a : α) : Steady (f a) := (hf a a rfl).steady
  refine ⟨hp.steady.bind steady, fun beside short run clean length => ?_⟩
  obtain ⟨a, m, first, second⟩ := run_bind_eq_ok.1 run
  have shorter := (eats a).passes (beside.closed.of_suffix (hp.steady.suffix first)) second clean
  refine (hp.follows beside short first ((steady a).clean second clean) (by omega)).bind (fun alike beside' left => ?_)
    (Nat.le_refl _)
  exact (hf a _ alike).follows beside' (by omega) second clean length

/-- A rule that looks at what is before a rule that reads something. -/
theorem Mirrors.looks {e : Nat} (stays : ∀ s, ∃ a, p.run s = .ok (a, s)) (eats : Eats (p >>= f)) (hp : Mirrors E 1 e k v p q)
    (hf : ∀ a b, v a = v b → Mirrors E 0 eaten k w (f a) (g b)) :
    Mirrors E 0 eaten k w (p >>= f) (q >>= g) := by
  have steady (a : α) : Steady (f a) := (hf a a rfl).steady
  refine ⟨hp.steady.bind steady, fun {s s' c t ys ys'} beside short run clean length => ?_⟩
  have shorter := eats.passes beside.closed run clean
  obtain ⟨a, m, first, second⟩ := run_bind_eq_ok.1 run
  obtain ⟨_, here⟩ := stays s
  cases first.symm.trans here
  refine ((hp.weaken (Nat.zero_le e)).follows beside short first ((steady a).clean second clean) (by omega)).bind
    (fun alike beside' left => ?_) (Nat.le_add_left _ _)
  exact (hf a _ alike).follows beside' (by omega) second clean length

/-- Where something was found, tokens were passed. -/
theorem Mirrors.found {p q : Parse (Option α)} {f g : Option α → Parse β}
    (hp : Mirrors E room 0 (k + 1) (Option.map v) p q) (ends : EndsFound p)
    (some : ∀ a b, v a = v b → Mirrors E room 0 k w (f (some a)) (g (some b)))
    (none : Mirrors E room 0 (k + 1) w (f none) (g none)) :
    Mirrors E room 0 (k + 1) w (p >>= f) (q >>= g) := by
  have steady : ∀ a, Steady (f a)
    | .none => none.steady
    | .some a => (some a a rfl).steady
  refine ⟨hp.steady.bind steady, fun beside short run clean length => ?_⟩
  obtain ⟨a, m, first, second⟩ := run_bind_eq_ok.1 run
  have shorter := ((steady a).suffix second).length_le
  refine (hp.follows beside short first ((steady a).clean second clean) (by omega)).bind (d := 0)
    (fun {b _ _ _} alike beside' left => ?_) (Nat.le_refl 0)
  cases a with
  | none =>
    obtain rfl : b = .none := by simpa [eq_comm] using alike
    exact none.follows beside' (by omega) second clean length
  | some a =>
    obtain ⟨b, rfl⟩ : ∃ b', b = .some b' := Option.isSome_iff_exists.1 (by cases b <;> simp at alike ⊢)
    obtain ⟨i, -, passed⟩ := ends.found beside.closed first ((steady _).clean second clean)
    have less := passed.length_le
    rw [List.length_cons, beside.length, beside'.length] at less
    exact (some a b (by simpa using alike)).follows beside' (by omega) second clean length

/-! ## Faults -/

theorem Faulty.mirrors {p q : Parse α} (h : Faulty p) : Mirrors E room eaten k v p q :=
  ⟨h.steady, fun _ _ run clean _ => absurd clean (h.faults run)⟩

theorem mirrors_fault {o : Nat} {m : Text} {f : Unit → Parse β} {q : Parse β} (steady : Steady (f ())) :
    Mirrors E room eaten k w (fault o m >>= f) q := ((faulty_fault o m).first fun _ => steady).mirrors

theorem mirrors_faultExpected {o : Nat} {m : Text} {f : Unit → Parse β} {q : Parse β} (steady : Steady (f ())) :
    Mirrors E room eaten k w (faultExpected o m >>= f) q := ((faulty_faultExpected o m).first fun _ => steady).mirrors

end

/-! ## Steps -/

section

variable {E : Seam} {room eaten k : Nat} {v : α → γ}

/-- Where a token of the expression is left, the current items are alike. -/
theorem Beside.head {ys ys' : List Item} {s s' : State} (h : Beside E ys ys' s s') (more : 2 < s.items.length) :
    ∃ i j zs zs', ys = i :: zs ∧ ys' = j :: zs' ∧ Item.Alike i j ∧ current.run s = .ok (i, s) ∧
      current.run s' = .ok (j, s') := by
  have length := h.length
  have alike := h.alike
  cases alike with
  | nil =>
    rw [List.length_nil] at length
    omega
  | @cons i j zs zs' same _ =>
    exact ⟨i, j, zs, zs', rfl, rfl, same, by rw [run_current, h.items]; rfl, by rw [run_current, h.items']; rfl⟩

theorem mirrors_current : Mirrors E 1 0 k (fun i => (i.token, i.lit)) current current := by
  refine ⟨fun _ => keeps_current, fun {s s' _ _ ys ys'} beside _ run _ length => ?_⟩
  rw [run_current] at run
  cases run
  obtain ⟨i, j, zs, zs', -, -, alike, here, here'⟩ := beside.head (by omega)
  rw [run_current] at here
  rw [(Prod.mk.inj (Except.ok.inj here)).1]
  exact ⟨j, s', ys, ys', here', Prod.ext alike.token alike.lit, beside, Nat.le_refl _, .refl s, .refl s'⟩

/-- A rule that reads something starts with a token of the expression. -/
theorem Mirrors.current {f g : Item → Parse α} (eats : Eats (current >>= f))
    (hf : ∀ i j, i.token = j.token → i.lit = j.lit → Mirrors E room eaten k v (f i) (g j)) :
    Mirrors E room eaten k v (current >>= f) (current >>= g) := by
  have steady (i : Item) : Steady (f i) := (hf i i rfl rfl).steady
  refine ⟨Steady.bind (fun _ => keeps_current) steady, fun beside short run clean length => ?_⟩
  have more := eats.passes beside.closed run clean
  obtain ⟨i, j, zs, zs', rfl, rfl, alike, here, here'⟩ := beside.head (by omega)
  obtain ⟨_, _, here₂, run⟩ := run_bind_eq_ok.1 run
  cases here.symm.trans here₂
  obtain ⟨b, t', zs, zs', run', rest⟩ := (hf i j alike.token alike.lit).follows beside short run clean length
  exact ⟨b, t', zs, zs', run_bind_eq_ok.2 ⟨j, _, here', run'⟩, rest⟩

/-- A rule that asks for the current item and passes it, unless it is a given token. -/
theorem mirrors_currentUnless {f g : Item → Parse α} {x : Token}
    (stay : ∀ i j, i.token = j.token → j.token = x → Mirrors E 1 0 k v (f i) (g j))
    (pass : ∀ i j, i.token = j.token → i.lit = j.lit → j.token ≠ x → Mirrors E 1 1 k v (f i) (g j)) :
    Mirrors E 1 0 k v (current >>= f) (current >>= g) ∧ PassesUnless E x k v (current >>= f) (current >>= g) := by
  refine ⟨mirrors_current.bind fun i j same => ?_, fun beside short other run clean length => ?_⟩
  · obtain ⟨token, lit⟩ := Prod.mk.inj same
    by_cases here : j.token = x
    · exact stay i j token here
    · exact (pass i j token lit here).weaken (Nat.zero_le 1)
  · obtain ⟨m, _, here, run⟩ := run_bind_eq_ok.1 run
    have steady (i : Item) : Steady (f i) := by
      by_cases at_x : i.token = x
      · exact (stay i i rfl at_x).steady
      · exact (pass i i rfl rfl at_x).steady
    cases here
    have suffix := ((steady _).suffix run).length_le
    obtain ⟨i, j, zs, zs', rfl, rfl, alike, here, here'⟩ := beside.head (by omega)
    rw [run_current] at here
    rw [(Prod.mk.inj (Except.ok.inj here)).1] at run
    have notHere : j.token ≠ x := alike.token ▸ other i rfl
    obtain ⟨b, t', zs, zs', run', rest⟩ := (pass i j alike.token alike.lit notHere).follows beside short run clean length
    exact ⟨b, t', zs, zs', run_bind_eq_ok.2 ⟨j, _, here', run'⟩, rest⟩

theorem mirrors_token : Mirrors E 1 0 k id token token :=
  mirrors_current.bind fun _ _ same => mirrors_pure (Prod.mk.inj same).1

theorem mirrors_offset : Mirrors E room 0 k (fun _ => ()) offset offset := by
  refine ⟨fun _ => keeps_offset, fun {s s' _ _ ys ys'} beside _ run _ _ => ?_⟩
  cases run
  exact ⟨_, s', ys, ys', rfl, rfl, beside, Nat.le_refl _, .refl s, .refl s'⟩

theorem mirrors_get : Mirrors E room 0 k State.switches get get := by
  refine ⟨fun _ => triple_iff_run.2 fun s h _ _ run => ?_, fun {s s' _ _ ys ys'} beside _ run _ _ => ?_⟩
  · cases run
    exact h
  · cases run
    exact ⟨s', s', ys, ys', rfl, beside.switches, beside, Nat.le_refl _, .refl s, .refl s'⟩

theorem run_token (s : State) : token.run s =
    .ok ((s.items.head?.getD { offset := s.file.size, token := .eof, lit := [] }).token, s) := rfl

/-- What may follow an expression. -/
def followers : List Token := [.comma, .rparen, .semicolon]

/-- A rule that asks for the current token where no token of the expression may be left. -/
theorem Mirrors.token {f g : Token → Parse α} (hf : ∀ t, Mirrors E 0 eaten k v (f t) (g t))
    (stop : ∀ t ∈ followers, Mirrors E 0 eaten k v (f .semicolon) (g t)) :
    Mirrors E 0 eaten k v (token >>= f) (token >>= g) := by
  refine ⟨Steady.bind (fun _ => keeps_token) fun t => (hf t).steady, fun {s s' _ _ ys ys'} beside short run clean length => ?_⟩
  obtain ⟨_, _, here, run⟩ := run_bind_eq_ok.1 run
  rw [run_token] at here
  cases here
  have alike := beside.alike
  cases alike with
  | nil =>
    rw [beside.items] at run
    simp only [List.nil_append, List.head?_cons, Option.getD_some, E.semi_token] at run
    obtain ⟨b, t', zs, zs', run', rest⟩ := (stop E.follow.token E.follow_token).follows beside short run clean length
    refine ⟨b, t', zs, zs', run_bind_eq_ok.2 ⟨_, s', run_token s', ?_⟩, rest⟩
    simpa [beside.items'] using run'
  | @cons i j zs zs' same _ =>
    rw [beside.items] at run
    simp only [List.cons_append, List.head?_cons, Option.getD_some, same.token] at run
    obtain ⟨b, t', zs, zs', run', rest⟩ := (hf j.token).follows beside short run clean length
    refine ⟨b, t', zs, zs', run_bind_eq_ok.2 ⟨_, s', run_token s', ?_⟩, rest⟩
    simpa [beside.items'] using run'

/-- A token that cannot follow an expression is asked for. -/
theorem mirrors_isAt {x : Token} (other : x ∉ followers) : Mirrors E room 0 k id (isAt x) (isAt x) := by
  refine Mirrors.inner (.token (fun t => mirrors_pure rfl) fun t ht => mirrors_pure ?_)
  have semicolon : Token.semicolon ∈ followers := by decide
  simp only [id, beq_eq_beq]
  exact ⟨fun same => absurd (same ▸ semicolon) other, fun same => absurd (same ▸ ht) other⟩

theorem mirrors_isAt_inner (x : Token) : Mirrors E 1 0 k id (isAt x) (isAt x) :=
  mirrors_token.bind fun _ _ same => mirrors_pure (congrArg (· == x) same)

theorem mirrors_isAtAny (xs : List Token) : Mirrors E 1 0 k id (isAtAny xs) (isAtAny xs) :=
  mirrors_token.bind fun _ _ same => mirrors_pure (congrArg xs.contains same)

theorem mirrors_next : Mirrors E room 1 k (fun _ => ()) next next := by
  refine ⟨fun _ => keeps_next, fun {s s' _ _ ys ys'} beside _ run clean length => ?_⟩
  rw [run_next] at run
  cases run
  have alike := beside.alike
  cases alike with
  | nil =>
    rw [beside.items] at length
    simp only [List.nil_append, List.length_cons, List.length_nil] at length
    omega
  | @cons i j zs zs' _ rest =>
    obtain ⟨i', is, ahead⟩ := List.exists_cons_of_ne_nil (l := zs ++ [E.semi, E.eof]) (by simp)
    obtain ⟨j', js, ahead', clean'⟩ : ∃ j' js, zs' ++ E.follow :: E.beyond = j' :: js ∧ j'.faults = [] := by
      cases rest with
      | nil => exact ⟨_, _, rfl, E.follow_clean⟩
      | cons same _ => exact ⟨_, _, rfl, same.clean⟩
    have items : s.items = i :: i' :: is := by rw [beside.items, List.cons_append, ahead]
    have items' : s'.items = j :: j' :: js := by rw [beside.items', List.cons_append, ahead']
    refine ⟨(), _, zs, zs', run_next s', rfl, ?_, Nat.le_refl _, ?_, ?_⟩
    · simp only [items] at clean ⊢
      simp only [items']
      exact ⟨ahead.symm, ahead'.symm, rest, clean, by simp [clean', placed, beside.clean'], beside.switches⟩
    · rw [items]
      exact ⟨rfl, rfl⟩
    · rw [items']
      exact ⟨rfl, rfl⟩

/-- Whether a line break stands for an item depends on what the rules see of it. -/
theorem isLineBreak_congr {i j : Item} (token : i.token = j.token) (lit : i.lit = j.lit) :
    Item.isLineBreak i = Item.isLineBreak j := by
  rw [Item.isLineBreak, Item.isLineBreak, token, lit]

theorem mirrors_expect {t : Token} (inner : t ≠ .eof) : Mirrors E room 1 k (fun _ => ()) (expect t) (expect t) := by
  refine (Mirrors.current (eats_expect inner) fun i j token _ => ?_).eats (eats_expect inner)
  dsimp only
  rw [token]
  split
  · exact mirrors_faultExpected fun I => by mvcgen
  · exact mirrors_next.weaken (Nat.zero_le _) |>.bind fun _ _ _ => mirrors_pure rfl

theorem mirrors_ident : Mirrors E room 1 k (fun _ => ()) ident ident := by
  refine (Mirrors.current ends_ident.eats fun i j token _ => ?_).eats ends_ident.eats
  rw [token]
  split
  · exact mirrors_next.bind fun _ _ _ => mirrors_pure rfl
  · exact (mirrors_expect (by decide)).bind fun _ _ _ => mirrors_pure rfl

theorem mirrors_expectClosing {t : Token} (ends : t.endsStatement = true) (inside : Text) :
    Mirrors E room 1 k (fun _ => ()) (expectClosing t inside) (expectClosing t inside) := by
  refine (Mirrors.current (ends_expectClosing ends inside).eats fun i j token lit => ?_).eats
    (ends_expectClosing ends inside).eats
  dsimp only
  rw [token, isLineBreak_congr token lit]
  split
  · exact mirrors_fault fun I => by mvcgen
  · exact (mirrors_expect (by rintro rfl; cases ends)).weaken (Nat.zero_le _)

theorem mirrors_expect? {t : Token} (ends : t.endsStatement = true) :
    Mirrors E room 1 k Option.isSome (expect? t) (expect? t) := by
  refine (Mirrors.current (ends_expect? ends).eats fun i j token lit => ?_).eats (ends_expect? ends).eats
  dsimp only
  rw [token]
  split
  · exact mirrors_faultExpected fun I => by mvcgen
  · refine mirrors_next.bind fun _ _ _ => mirrors_pure ?_
    split <;> rfl

theorem mirrors_atComma (inside : Text) (closing : Token) :
    Mirrors E 1 0 k id (atComma inside closing) (atComma inside closing) := by
  refine mirrors_current.bind fun i j same => ?_
  obtain ⟨token, lit⟩ := Prod.mk.inj same
  dsimp only
  rw [token]
  split
  · exact mirrors_pure rfl
  · split
    · exact mirrors_fault (steady_pure _)
    · exact mirrors_pure rfl

theorem mirrors_expectSemi : Mirrors E 1 0 k (fun _ => ()) expectSemi expectSemi := by
  refine mirrors_current.bind fun i j same => ?_
  obtain ⟨token, lit⟩ := Prod.mk.inj same
  dsimp only
  rw [token, lit]
  have passed {c c' : Parse (Option CommentGroup)} (h : Mirrors E 1 0 k (fun _ => ()) c c') :
      Mirrors E 1 0 k (fun _ => ()) (next >>= fun _ => c) (next >>= fun _ => c') := mirrors_next.bind fun _ _ _ => h
  split
  · exact mirrors_pure rfl
  · exact mirrors_pure rfl
  case h_5 => exact mirrors_faultExpected fun I => by mvcgen
  all_goals
    split
    · exact mirrors_faultExpected fun I => by mvcgen
    · split
      · exact passed (mirrors_current.bind fun _ _ _ => mirrors_pure rfl)
      · exact passed (mirrors_pure rfl)

/-! ## Switches and lists -/

theorem Mirrors.withLevel {p q : Parse α} (h : Mirrors E room eaten k v p q) (f : Int → Int)
    (same : ∀ l l', openness l = openness l' → openness (f l) = openness (f l')) :
    Mirrors E room eaten k v (withLevel f p) (withLevel f q) := by
  refine ⟨fun I => keeps_withLevel (h.steady I) f, fun {s s' a u ys ys'} beside short run clean length => ?_⟩
  obtain ⟨t, inner, rfl⟩ := run_withLevel_eq_ok.1 run
  have level := same _ _ (Prod.mk.inj beside.switches).1
  have inRhs := (Prod.mk.inj beside.switches).2
  have beside_inner : Beside E ys ys' { s with level := f s.level } { s' with level := f s'.level } :=
    ⟨beside.items, beside.items', beside.alike, beside.clean, beside.clean', Prod.ext level inRhs⟩
  obtain ⟨b, t', zs, zs', run', alike, after, left, kept, kept'⟩ := h.follows beside_inner short inner clean length
  refine ⟨b, { t' with level := s'.level }, zs, zs', run_withLevel_eq_ok.2 ⟨t', run', rfl⟩, alike, ?_, left,
    ⟨rfl, kept.inRhs⟩, ⟨rfl, kept'.inRhs⟩⟩
  exact ⟨after.items, after.items', after.alike, after.clean, after.clean',
    Prod.ext (Prod.mk.inj beside.switches).1 (Prod.mk.inj after.switches).2⟩

theorem Mirrors.nested {p q : Parse α} (h : Mirrors E room eaten k v p q) :
    Mirrors E room eaten k v (nested p) (nested q) := by
  refine h.withLevel _ fun l l' same => ?_
  unfold openness at same ⊢
  split at same <;> split at same
  · rw [if_pos (by omega), if_pos (by omega)]
  · cases same
  · cases same
  · rw [Option.some.inj same]

theorem Mirrors.withRhs {p q : Parse α} (h : Mirrors E room eaten k v p q) (rhs : Bool) :
    Mirrors E room eaten k v (withRhs rhs p) (withRhs rhs q) := by
  refine ⟨fun I => keeps_withRhs (h.steady I) rhs, fun {s s' a u ys ys'} beside short run clean length => ?_⟩
  obtain ⟨t, inner, rfl⟩ := run_withRhs_eq_ok.1 run
  have level := (Prod.mk.inj beside.switches).1
  have beside_inner : Beside E ys ys' { s with inRhs := rhs } { s' with inRhs := rhs } :=
    ⟨beside.items, beside.items', beside.alike, beside.clean, beside.clean', Prod.ext level rfl⟩
  obtain ⟨b, t', zs, zs', run', alike, after, left, kept, kept'⟩ := h.follows beside_inner short inner clean length
  refine ⟨b, { t' with inRhs := s'.inRhs }, zs, zs', run_withRhs_eq_ok.2 ⟨t', run', rfl⟩, alike, ?_, left,
    ⟨kept.level, rfl⟩, ⟨kept'.level, rfl⟩⟩
  exact ⟨after.items, after.items', after.alike, after.clean, after.clean',
    Prod.ext (Prod.mk.inj after.switches).1 (Prod.mk.inj beside.switches).2⟩

/-- Where no token is left, nothing need be said of a rule that leaves one. -/
theorem mirrors_zero {p q : Parse α} (steady : Steady p) : Mirrors E room eaten 0 v p q :=
  ⟨steady, fun _ short => absurd short (Nat.not_lt_zero _)⟩

/-- A list, if every element passes a token where the condition holds. -/
theorem Mirrors.manyWhile {cond cond' : Parse Bool} {p q : Parse α} (hc : Mirrors E 1 0 k id cond cond') (steady : Steady p)
    (hp : ∀ {s m m' a t ys ys'}, cond.run s = .ok (true, m) → Beside E ys ys' m m' → ys.length < k → p.run m = .ok (a, t) →
      t.faults = [] → 3 ≤ t.items.length → Follows E 1 v ys m m' a t q)
    {n n' : Nat} (enough : k ≤ n) (enough' : k ≤ n') :
    Mirrors E 1 0 k (List.map v) (manyWhile cond p n) (manyWhile cond' q n') := by
  induction k generalizing n n' with
  | zero => exact mirrors_zero fun I => keeps_manyWhile (steady I) (hc.steady I) n
  | succ k ih =>
    obtain ⟨n, rfl⟩ := Nat.exists_eq_succ_of_ne_zero (Nat.ne_zero_of_lt enough)
    obtain ⟨n', rfl⟩ := Nat.exists_eq_succ_of_ne_zero (Nat.ne_zero_of_lt enough')
    have rest := ih (hc.mono (Nat.le_succ k)) (fun goesOn beside short => hp goesOn beside (Nat.lt_succ_of_lt short))
      (Nat.le_of_succ_le_succ enough) (Nat.le_of_succ_le_succ enough')
    have steady_rest := rest.steady
    refine ⟨fun I => keeps_manyWhile (steady I) (hc.steady I) _, fun {s s' as t ys ys'} beside short run clean length => ?_⟩
    unfold Grammar.manyWhile at run ⊢
    obtain ⟨goesOn, m, first, run⟩ := run_bind_eq_ok.1 run
    cases goesOn with
    | false =>
      cases run
      refine (hc.follows beside short first clean length).bind (d := 0) (fun {b m' zs zs'} same beside₁ left => ?_)
        (Nat.zero_le _)
      obtain rfl : false = b := same
      exact (mirrors_pure (k := k + 1) rfl).follows beside₁ (by omega) rfl clean length
    | true =>
      obtain ⟨a, u, second, third⟩ := run_bind_eq_ok.1 run
      obtain ⟨as', _, fourth, done⟩ := run_bind_eq_ok.1 third
      cases done
      have clean_u := steady_rest.clean fourth clean
      have length_u := (steady_rest.suffix fourth).length_le
      have length_m := (steady.suffix second).length_le
      refine (hc.follows beside short first (steady.clean second clean_u) (by omega)).bind (d := 0)
        (fun {b m' zs zs'} same beside₁ left => ?_) (Nat.zero_le _)
      obtain rfl : true = b := same
      refine (hp first beside₁ (by omega) second clean_u (by omega)).bind (d := 0)
        (fun {b u' ws ws'} alike beside₂ left' => ?_) (Nat.zero_le _)
      refine (rest.follows beside₂ (by omega) fourth clean length).bind (d := 0)
        (fun {bs t' vs vs'} alikes beside₃ left'' => ?_) (Nat.zero_le _)
      exact (mirrors_pure (k := k + 1) (by simp [alike, alikes])).follows beside₃ (by omega) rfl clean length

/-- A list, if every element passes a token. -/
theorem mirrors_manyWhile {cond cond' : Parse Bool} {p q : Parse α} (hc : Mirrors E 1 0 k id cond cond')
    (hp : Mirrors E 1 1 k v p q) {n n' : Nat} (enough : k ≤ n) (enough' : k ≤ n') :
    Mirrors E 1 0 k (List.map v) (manyWhile cond p n) (manyWhile cond' q n') :=
  hc.manyWhile hp.steady (fun _ beside short run clean length => hp.follows beside short run clean length) enough enough'

/-- A list with commas. -/
theorem mirrors_listUntil {inside : Text} {closing : Token} {p q : Parse α} (hp : Mirrors E 1 0 k v p q) {n n' : Nat}
    (enough : k ≤ n) (enough' : k ≤ n') :
    Mirrors E 1 0 k (List.map v) (listUntil inside closing p n) (listUntil inside closing q n') := by
  induction k generalizing n n' with
  | zero => exact mirrors_zero fun I => keeps_listUntil (hp.steady I) inside closing n
  | succ k ih =>
    obtain ⟨n, rfl⟩ := Nat.exists_eq_succ_of_ne_zero (Nat.ne_zero_of_lt enough)
    obtain ⟨n', rfl⟩ := Nat.exists_eq_succ_of_ne_zero (Nat.ne_zero_of_lt enough')
    unfold listUntil
    refine (mirrors_isAt_inner closing).bind ?_
    rintro atEnd _ (rfl : atEnd = _)
    refine (mirrors_isAt_inner .eof).bind ?_
    rintro atEof _ (rfl : atEof = _)
    split
    · exact mirrors_pure rfl
    · refine hp.bind fun a b alike => ?_
      refine (mirrors_atComma inside closing).bind ?_
      rintro goesOn _ (rfl : goesOn = _)
      split
      · refine (mirrors_next.less fun _ _ _ => ?_).weaken (Nat.zero_le 1)
        refine (ih (hp.mono (Nat.le_succ k)) (by omega) (by omega)).bind fun as bs alikes => ?_
        exact mirrors_pure (by simp [alike, alikes])
      · exact mirrors_pure (by simp [alike])

end

end DocAccessors.Source.Grammar
