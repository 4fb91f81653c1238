import DocAccessors.Source.Grammar.Statements

/-!
# Shapes of trees

The rules of the grammar ask little of the trees that were read before. The shape of an expression or a statement is all
that they ask for.
-/

namespace DocAccessors.Source

open Grammar.Rules (isTypeElem opensLiteral isParen splitTypeParam dots?)

/-- What the rules ask of an expression. -/
inductive Shape where
  | bad | name
  /-- A selector or an index. -/
  | path
  /-- A type that a composite literal can have. -/
  | data
  /-- A function or interface type. -/
  | signature
  | chan (dir : ChanDir) (value : Shape)
  | paren (x : Shape)
  /-- A call; of a name with one argument, whether that can only be a constraint. -/
  | call (constraint : Option Bool)
  /-- The guard of a type switch. -/
  | guard
  /-- The type of a variadic parameter. -/
  | dots
  | unary (op : Token)
  | binary (op : Token) (x y : Shape)
  | other
  deriving DecidableEq

/-- For a call of a name with one argument, whether that can only be a constraint. -/
def constraint? : Expr → List Expr → Option Nat → Option Bool
  | .ident _, [x], none => some (isTypeElem x)
  | _, _, _ => none

/-- The shape of an expression. -/
def Expr.shape : Expr → Shape
  | .bad .. => .bad
  | .ident _ => .name
  | .selector .. | .index .. => .path
  | .arrayType .. | .structType .. | .mapType .. => .data
  | .funcType .. | .interfaceType .. => .signature
  | .chanType _ _ dir value => .chan dir value.shape
  | .paren _ x _ => .paren x.shape
  | .call f _ args dots _ => .call (constraint? f args dots)
  | .assert _ _ type _ => if type.isNone then .guard else .other
  | .ellipsis _ element => if element.isSome then .dots else .other
  | .unary _ op _ => .unary op
  | .binary x _ op y => .binary op x.shape y.shape
  | .literal .. | .funcLit .. | .composite .. | .slice .. | .star .. | .keyValue .. => .other

/-- What the rules ask of a statement. -/
inductive StmtShape where
  | expr (x : Shape)
  /-- An assignment to a number of expressions. -/
  | assign (count : Nat) (op : Token) (values : List Shape)
  | labeled | block | other

/-- The shape of a statement. -/
def Stmt.shape : Stmt → StmtShape
  | .expr x => .expr x.shape
  | .assign lhs _ op rhs => .assign lhs.length op (rhs.map Expr.shape)
  | .labeled .. => .labeled
  | .block .. => .block
  | _ => .other

namespace Shape

def isTypeElem : Shape → Bool
  | data | signature | chan .. => true
  | paren x => x.isTypeElem
  | unary op => op == .tilde
  | binary _ x y => x.isTypeElem || y.isTypeElem
  | _ => false

def unparen : Shape → Shape
  | paren x => x.unparen
  | x => x

def isParen : Shape → Bool
  | paren _ => true
  | _ => false

def opensLiteral (x : Shape) (level : Int) : Bool :=
  match x.unparen with
  | bad | name | path => 0 ≤ level
  | data => true
  | _ => false

/-- Whether an expression can be split into a name and a constraint; with that, whether there is a constraint. -/
def split (force : Bool) : Shape → Option Bool
  | name => some false
  | binary .mul name y => if force || y.isTypeElem then some true else none
  | binary .or x y => if split (force || y.isTypeElem) x = some true then some true else none
  | call (some constraint) => if force || constraint then some true else none
  | _ => none

end Shape

variable {x y : Expr}

theorem isTypeElem_eq (x : Expr) : isTypeElem x = x.shape.isTypeElem := by
  fun_induction isTypeElem x with
  | case7 x o op y ih ih' =>
    rw [ih, ih']
    rfl
  | case9 _ x _ ih => exact ih
  | case10 x =>
    cases x with
    | assert _ _ type _ => cases type <;> rfl
    | ellipsis _ element => cases element <;> rfl
    | _ => first | rfl | grind
  | _ => rfl

theorem shape_unparen (x : Expr) : x.unparen.shape = x.shape.unparen := by
  fun_induction Expr.unparen x with
  | case1 _ x _ ih => exact ih
  | case2 x other =>
    cases x with
    | paren => exact absurd rfl (other _ _ _)
    | assert _ _ type _ => cases type <;> rfl
    | ellipsis _ element => cases element <;> rfl
    | _ => rfl

theorem opensLiteral_eq (x : Expr) (level : Int) : opensLiteral x level = x.shape.opensLiteral level := by
  unfold opensLiteral Shape.opensLiteral
  rw [← shape_unparen]
  cases x.unparen with
  | assert _ _ type _ => cases type <;> rfl
  | ellipsis _ element => cases element <;> rfl
  | _ => rfl

theorem isParen_eq (x : Expr) : isParen x = x.shape.isParen := by
  cases x with
  | assert _ _ type _ => cases type <;> rfl
  | ellipsis _ element => cases element <;> rfl
  | _ => rfl

/-- Whether an expression is the type of a variadic parameter. -/
def Expr.isVariadic (x : Expr) : Bool := (dots? x).isSome

theorem Expr.isVariadic_eq (x : Expr) : x.isVariadic = (x.shape == .dots) := by
  cases x with
  | assert _ _ type _ => cases type <;> rfl
  | ellipsis _ element => cases element <;> rfl
  | _ => rfl

theorem Expr.isVariadic_congr (h : x.shape = y.shape) : x.isVariadic = y.isVariadic := by
  rw [isVariadic_eq, isVariadic_eq, h]

/-- What a shape says of the expressions that have it. -/
def Shape.Describes : Shape → Expr → Prop
  | .name, x => ∃ id, x = .ident id
  | .bad, x => ∃ start stop, x = .bad start stop
  | .call _, x => ∃ f l args dots r, x = .call f l args dots r
  | .unary op, x => ∃ o y, x = .unary o op y
  | .guard, x => ∃ y l r, x = .assert y l none r
  | .chan dir v, x => ∃ o a value, x = .chanType o a dir value ∧ value.shape = v
  | _, _ => True

theorem Expr.shape_describes (x : Expr) : x.shape.Describes x := by
  cases x with
  | ident id => exact ⟨id, rfl⟩
  | bad start stop => exact ⟨start, stop, rfl⟩
  | call f l args dots r => exact ⟨f, l, args, dots, r, rfl⟩
  | unary o op y => exact ⟨o, y, rfl⟩
  | chanType o a dir value => exact ⟨o, a, value, rfl, rfl⟩
  | assert y l type r =>
    cases type with
    | none => exact ⟨y, l, r, rfl⟩
    | some _ => trivial
  | ellipsis _ element => cases element <;> trivial
  | _ => trivial

theorem Expr.exists_ident (h : x.shape = .name) : ∃ id, x = .ident id := by
  simpa only [h, Shape.Describes] using x.shape_describes

/-- Of two expressions that look alike, both are names or none is. -/
theorem Expr.ident_cases (same : x.shape = y.shape) :
    (∃ id id', x = .ident id ∧ y = .ident id') ∨ (∀ id, x ≠ .ident id) ∧ ∀ id, y ≠ .ident id := by
  by_cases named : x.shape = .name
  · obtain ⟨id, rfl⟩ := exists_ident named
    obtain ⟨id', rfl⟩ := exists_ident (same ▸ named)
    exact .inl ⟨id, id', rfl, rfl⟩
  · refine .inr ⟨?_, ?_⟩ <;> rintro id rfl
    · exact named rfl
    · exact named same

theorem Expr.exists_call {c : Option Bool} (h : x.shape = .call c) : ∃ f l args dots r, x = .call f l args dots r := by
  simpa only [h, Shape.Describes] using x.shape_describes

theorem Expr.exists_bad (h : x.shape = .bad) : ∃ start stop, x = .bad start stop := by
  simpa only [h, Shape.Describes] using x.shape_describes

theorem Expr.exists_unary {op : Token} (h : x.shape = .unary op) : ∃ o y, x = .unary o op y := by
  simpa only [h, Shape.Describes] using x.shape_describes

theorem Expr.exists_guard (h : x.shape = .guard) : ∃ y l r, x = .assert y l none r := by
  simpa only [h, Shape.Describes] using x.shape_describes

theorem Stmt.exists_expr {s : Stmt} {v : Shape} (h : s.shape = .expr v) : ∃ y, s = .expr y ∧ y.shape = v := by
  cases s with
  | expr y =>
    cases h
    exact ⟨y, rfl, rfl⟩
  | _ => cases h

theorem Stmt.exists_assign {s : Stmt} {n : Nat} {op : Token} {vs : List Shape} (h : s.shape = .assign n op vs) :
    ∃ lhs o rhs, s = .assign lhs o op rhs ∧ lhs.length = n ∧ rhs.map Expr.shape = vs := by
  cases s with
  | assign lhs o op rhs =>
    cases h
    exact ⟨lhs, o, rhs, rfl, rfl, rfl⟩
  | _ => cases h

/-- Of two statements that look alike, both have labels or none has. -/
theorem Stmt.labeled_cases {s t : Stmt} (same : s.shape = t.shape) :
    (∃ l c b l' c' b', s = .labeled l c b ∧ t = .labeled l' c' b') ∨
      (∀ l c b, s ≠ .labeled l c b) ∧ ∀ l c b, t ≠ .labeled l c b := by
  have labels {s : Stmt} (h : s.shape = .labeled) : ∃ l c b, s = .labeled l c b := by
    cases s with
    | labeled l c b => exact ⟨l, c, b, rfl⟩
    | _ => cases h
  by_cases labeled : s.shape = .labeled
  · obtain ⟨l, c, b, rfl⟩ := labels labeled
    obtain ⟨l', c', b', rfl⟩ := labels (same ▸ labeled)
    exact .inl ⟨l, c, b, l', c', b', rfl, rfl⟩
  · refine .inr ⟨?_, ?_⟩ <;> rintro l c b rfl
    · exact labeled rfl
    · exact labeled same

/-- The first expressions of lists that look alike look alike. -/
theorem shape_head {xs ys : List Expr} (sames : xs.map Expr.shape = ys.map Expr.shape) :
    (xs.head?.getD default).shape = (ys.head?.getD default).shape := by
  match xs, ys, sames with
  | [], [], _ => rfl
  | _ :: _, _ :: _, sames => exact (List.cons.inj sames).1

theorem Expr.exists_chan {dir : ChanDir} {v : Shape} (h : x.shape = .chan dir v) :
    ∃ o a value, x = .chanType o a dir value ∧ value.shape = v := by
  simpa only [h, Shape.Describes] using x.shape_describes

/-- Of two expressions that look alike, both are channel types or none is. -/
theorem Expr.chan_cases (same : x.shape = y.shape) :
    (∃ o a o' a' dir v v', x = .chanType o a dir v ∧ y = .chanType o' a' dir v' ∧ v.shape = v'.shape) ∨
      (∀ o a d v, x ≠ .chanType o a d v) ∧ ∀ o a d v, y ≠ .chanType o a d v := by
  by_cases chan : ∃ dir v, x.shape = .chan dir v
  · obtain ⟨dir, w, shape⟩ := chan
    obtain ⟨o, a, v, rfl, rfl⟩ := exists_chan shape
    obtain ⟨o', a', v', rfl, alike⟩ := exists_chan (same ▸ shape)
    exact .inl ⟨o, a, o', a', dir, v, v', rfl, rfl, alike.symm⟩
  · refine .inr ⟨?_, ?_⟩ <;> rintro o a d v rfl
    · exact chan ⟨d, v.shape, by rw [Expr.shape]⟩
    · exact chan ⟨d, v.shape, by rw [same, Expr.shape]⟩

/-- Of two statements that look alike, both are blocks or none is. -/
theorem Stmt.block_cases {s t : Stmt} (same : s.shape = t.shape) :
    (∃ l ss r l' ss' r', s = .block l ss r ∧ t = .block l' ss' r') ∨
      (∀ l ss r, s ≠ .block l ss r) ∧ ∀ l ss r, t ≠ .block l ss r := by
  have blocks {s : Stmt} (h : s.shape = .block) : ∃ l ss r, s = .block l ss r := by
    cases s with
    | block l ss r => exact ⟨l, ss, r, rfl⟩
    | _ => cases h
  by_cases block : s.shape = .block
  · obtain ⟨l, ss, r, rfl⟩ := blocks block
    obtain ⟨l', ss', r', rfl⟩ := blocks (same ▸ block)
    exact .inl ⟨l, ss, r, l', ss', r', rfl, rfl⟩
  · refine .inr ⟨?_, ?_⟩ <;> rintro l ss r rfl
    · exact block rfl
    · exact block same

/-- Calls look alike if what is called and the arguments do. -/
theorem constraint?_congr {f f' : Expr} {args args' : List Expr} {dots dots' : Option Nat} (same : f.shape = f'.shape)
    (sames : args.map Expr.shape = args'.map Expr.shape) (spread : dots.isSome = dots'.isSome) :
    constraint? f args dots = constraint? f' args' dots' := by
  have length : args.length = args'.length := by simpa using congrArg List.length sames
  rcases Expr.ident_cases same with ⟨id, id', rfl, rfl⟩ | ⟨other, other'⟩
  · match dots, dots', spread, args, args', length with
    | none, none, _, [x], [y], _ => simp_all [constraint?, isTypeElem_eq]
    | none, none, _, [], [], _ | none, none, _, _ :: _ :: _, _ :: _ :: _, _ => rfl
    | some _, some _, _, _, _, _ => simp [constraint?]
  · unfold constraint?
    split
    · exact absurd rfl (other _)
    · split
      · exact absurd rfl (other' _)
      · rfl

theorem split_product (force : Bool) (x : Expr) (o : Nat) (y : Expr) :
    (splitTypeParam force (.binary x o .mul y)).map (fun p => p.2.isSome) = (Expr.binary x o .mul y).shape.split force := by
  by_cases named : ∃ id, x = .ident id
  · obtain ⟨id, rfl⟩ := named
    by_cases constraint : force || isTypeElem y
    all_goals simp [splitTypeParam, Expr.shape, Shape.split, ← isTypeElem_eq, constraint]
  · have unnamed : x.shape ≠ .name := fun h => named (Expr.exists_ident h)
    have none : splitTypeParam force (.binary x o .mul y) = none := by
      unfold splitTypeParam
      dsimp only
      split
      · exact absurd ⟨_, rfl⟩ named
      · rfl
    simp [none, Expr.shape, Shape.split, unnamed]

theorem split_call (force : Bool) (f : Expr) (lparen : Nat) (args : List Expr) (dots : Option Nat) (rparen : Nat) :
    (splitTypeParam force (.call f lparen args dots rparen)).map (fun p => p.2.isSome) =
      (Expr.call f lparen args dots rparen).shape.split force := by
  rw [Expr.shape]
  unfold splitTypeParam
  split
  · split <;> simp_all [constraint?, Shape.split]
  · next other =>
    have none : constraint? f args dots = none := by
      unfold constraint?
      split
      · exact absurd rfl (other _ _ rfl rfl)
      · rfl
    rw [none]
    rfl

/-- **The shape decides how an expression is split.** -/
theorem split_eq (force : Bool) : (x : Expr) →
    (splitTypeParam force x).map (fun p => p.2.isSome) = x.shape.split force
  | .binary x o op y => by
    by_cases product : op = .mul
    · exact product ▸ split_product force x o y
    by_cases alternative : op = .or
    · subst alternative
      have ih := split_eq (force || isTypeElem y) x
      cases found : splitTypeParam (force || isTypeElem y) x with
      | none =>
        rw [found] at ih
        simp [splitTypeParam, found, Expr.shape, Shape.split, ← isTypeElem_eq, ← ih]
      | some p =>
        obtain ⟨name, type⟩ := p
        rw [found] at ih
        cases type <;> simp [splitTypeParam, found, Expr.shape, Shape.split, ← isTypeElem_eq, ← ih]
    · rw [Expr.shape, splitTypeParam.eq_def, Shape.split.eq_def]
      dsimp only
      split <;> simp_all
  | .call f lparen args dots rparen => split_call force f lparen args dots rparen
  | .assert _ _ type _ => by cases type <;> rfl
  | .ellipsis _ element => by cases element <;> rfl
  | .bad .. | .ident _ | .literal .. | .funcLit .. | .composite .. | .paren .. | .selector .. | .index .. | .slice .. | .star ..
  | .unary .. | .keyValue .. | .arrayType .. | .structType .. | .funcType .. | .interfaceType .. | .mapType .. | .chanType .. => rfl

/-- A constraint that is split off is no type of a variadic parameter. -/
theorem isVariadic_split {force : Bool} {x t : Expr} {name : Ident} (h : splitTypeParam force x = some (name, some t)) :
    t.isVariadic = false := by
  unfold splitTypeParam at h
  repeat' split at h
  all_goals cases h <;> rfl

end DocAccessors.Source
