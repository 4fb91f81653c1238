import DocAccessors.Proofs.Table.Lines

/-!
# Every directive is accounted for

What validation makes of the directives of a whole declaration, those of its members included.

* `Validation.Suits bs m x`: the directive `x` of the member `m` belongs to an attribute that is enabled; each other
  directive of a member leaves one error, at its name, and none changes a binding (`Validation.memberStep_spec`);
* `Validation.explained_ofDeclaration`: what validation finds is a fault, or about a deprecated name;
* `Validation.collects_ofDeclaration`, `Validation.errors_ofDeclaration`: the bindings and the errors of a declaration;
* `Validation.lines_accounted`: each line of a declaration is recorded in one binding, or left to an enum, or reported.
-/

namespace DocAccessors

namespace Validation

/-! ## Members -/

/-- The directive belongs to an attribute that is enabled, in its required form; on a constant, it may also be none of
those for constants of an enum. -/
def Suits (bs : List Binding) (m : Member) (x : Directive) : Prop :=
  (∃ a, x.attribute? = some a ∧ a.isMemberOn m.placement = true ∧ a.optional = false ∧
      ∃ b ∈ bs, b.attr.base = a.base) ∨
    (m.placement = .enumValue ∧ ∀ a, x.attribute? = some a → a.isMemberOn m.placement = false)

instance (bs : List Binding) (m : Member) (x : Directive) : Decidable (Suits bs m x) :=
  inferInstanceAs (Decidable ((∃ a ∈ x.attribute?, _ ∧ _ ∧ ∃ b ∈ bs, _) ∨ (_ ∧ ∀ a ∈ x.attribute?, _)))

/-- The attribute of a directive on a member is found, or is no attribute for such members; that is an error unless
the member is a constant. -/
theorem memberAttribute_spec (v : Validation) (m : Member) (x : Directive) :
    (v.memberAttribute m x).1.bindings = v.bindings ∧
    ((∃ a, x.attribute? = some a ∧ a.isMemberOn m.placement = true ∧ (v.memberAttribute m x).2 = some a ∧
        (v.memberAttribute m x).1.errors = v.errors) ∨
      ((∀ a, x.attribute? = some a → a.isMemberOn m.placement = false) ∧ (v.memberAttribute m x).2 = none ∧
        BlamesUnless (m.placement = .enumValue) v x (v.memberAttribute m x).1)) := by
  unfold memberAttribute
  by_cases const : m.placement = .enumValue
  · rw [if_pos const]
    refine ⟨rfl, ?_⟩
    rw [← Directive.attribute?]
    cases named : x.attribute? with
    | none => exact .inr ⟨by simp, rfl, .inl ⟨const, rfl⟩⟩
    | some a =>
      cases member : a.isMemberOn m.placement with
      | true => exact .inl ⟨a, rfl, member, by simp [Option.filter, member], rfl⟩
      | false => exact .inr ⟨by simp [member], by simp [Option.filter, member], .inl ⟨const, rfl⟩⟩
  · rw [if_neg const]
    obtain ⟨same, outcome⟩ := lookup_spec v x
    generalize v.lookup x = found at same outcome
    obtain ⟨w, o⟩ := found
    rcases outcome with ⟨unknown, rfl, blamed⟩ | ⟨a, named, rfl, errors⟩
    · exact ⟨same, .inr ⟨by simp [unknown], rfl, .inr ⟨const, blamed⟩⟩⟩
    · dsimp only at errors ⊢
      split
      · next member => exact ⟨same, .inl ⟨a, named, member, rfl, errors⟩⟩
      · next foreign =>
        rw [Bool.not_eq_true] at foreign
        refine ⟨same, .inr ⟨by simp [named, foreign], rfl, .inr ⟨const, ?_⟩⟩⟩
        exact (w.blames_report (isFault_misplaced x a m.placement).1 rfl).of_errors_eq errors

theorem memberStep_spec (decl : Declaration) (v : Validation) (m : Member) (x : Directive) :
    (v.memberStep decl m x).bindings = v.bindings ∧
      BlamesUnless (Suits v.bindings m x) v x (v.memberStep decl m x) := by
  have enabled : ∀ (w : Validation) (f : AttributeBase),
      (w.binding? f).isNone = true ↔ ¬ ∃ b ∈ w.bindings, b.attr.base = f := by
    intro w f
    rw [Option.isNone_iff_eq_none, binding?, List.find?_eq_none]
    simp
  obtain ⟨same, outcome⟩ := memberAttribute_spec v m x
  unfold memberStep
  generalize v.memberAttribute m x = found at same outcome
  obtain ⟨w, o⟩ := found
  rcases outcome with ⟨a, named, member, rfl, errors⟩ | ⟨foreign, rfl, blamed⟩
  · have suits : Suits v.bindings m x ↔ a.optional = false ∧ ∃ b ∈ v.bindings, b.attr.base = a.base := by
      simp [Suits, named, member]
    dsimp only at same errors ⊢
    split
    · next optional =>
      refine ⟨same, .inr ⟨by simp [suits, optional], ?_⟩⟩
      exact (w.blames_report (isFault_optionalOnMember x a decl).1 rfl).of_errors_eq errors
    · next required =>
      rw [Bool.not_eq_true] at required
      split
      · next absent =>
        rw [enabled, same] at absent
        refine ⟨same, .inr ⟨by simp [suits, absent], ?_⟩⟩
        exact (w.blames_report (isFault_notEnabled x a decl m).1 rfl).of_errors_eq errors
      · next present =>
        rw [enabled, same, not_not] at present
        exact ⟨same, .inl ⟨suits.2 ⟨required, present⟩, errors⟩⟩
  · have suits : Suits v.bindings m x ↔ m.placement = .enumValue := by
      constructor
      · rintro (⟨a, named, member, -⟩ | ⟨const, -⟩)
        · rw [foreign a named] at member
          cases member
        · exact const
      · exact fun const => .inr ⟨const, foreign⟩
    exact ⟨same, by rw [suits]; exact blamed⟩

/-- The places of the directives of members that do not suit. -/
def unsuited (bs : List Binding) (m : Member) (xs : List Directive) : List Span :=
  (xs.filter fun x => ¬ Suits bs m x).map Directive.nameSpan

theorem foldl_memberStep_spec (decl : Declaration) (m : Member) (xs : List Directive) (v : Validation) :
    (xs.foldl (memberStep decl m) v).bindings = v.bindings ∧
      (xs.foldl (memberStep decl m) v).errors.map Diagnostic.span =
        v.errors.map Diagnostic.span ++ unsuited v.bindings m xs := by
  induction xs generalizing v with
  | nil => simp [unsuited]
  | cons x xs ih =>
    obtain ⟨same, outcome⟩ := memberStep_spec decl v m x
    obtain ⟨all, errors⟩ := ih (v.memberStep decl m x)
    rw [List.foldl_cons, all, errors, outcome.spans, same, List.append_assoc, ← map_filter_singleton]
    refine ⟨rfl, ?_⟩
    rw [unsuited, unsuited, ← List.map_append, ← List.filter_append, List.singleton_append]

theorem foldl_members_spec (decl : Declaration) (ms : List Member) (v : Validation) :
    (ms.foldl (fun v m => m.directives.foldl (memberStep decl m) v) v).bindings = v.bindings ∧
      (ms.foldl (fun v m => m.directives.foldl (memberStep decl m) v) v).errors.map Diagnostic.span =
        v.errors.map Diagnostic.span ++ ms.flatMap fun m => unsuited v.bindings m m.directives := by
  induction ms generalizing v with
  | nil => simp
  | cons m ms ih =>
    obtain ⟨same, errors⟩ := foldl_memberStep_spec decl m m.directives v
    obtain ⟨all, more⟩ := ih (m.directives.foldl (memberStep decl m) v)
    rw [List.foldl_cons, all, more, errors, same, List.append_assoc, List.flatMap_cons]
    exact ⟨rfl, rfl⟩

/-! ## Faults and remarks -/

/-- Everything found so far is a fault or a remark. -/
def IsClear (v : Validation) : Prop := ∀ d ∈ v.found, d.IsFault ∨ d.IsRemark

/-- Everything found so far is a fault, or about a deprecated name. -/
def Explained (v : Validation) : Prop := ∀ d ∈ v.found, d.IsFault ∨ ∃ x a, d = deprecatedAttribute x a

theorem Explained.report {v : Validation} (hv : v.Explained) {d : Diagnostic}
    (hd : d.IsFault ∨ ∃ x a, d = deprecatedAttribute x a) : (v.report d).Explained := by
  intro e he
  rcases List.mem_append.1 he with he | he
  · exact hv e he
  · rw [List.mem_singleton.1 he]
    exact hd

theorem Explained.lookup {v : Validation} (hv : v.Explained) (d : Directive) : (v.lookup d).1.Explained := by
  unfold Validation.lookup
  split
  · exact hv.report (.inl (isFault_unknownAttribute d))
  · dsimp only
    split
    · exact hv.report (.inr ⟨d, _, rfl⟩)
    · exact hv

theorem Explained.placed {v v' : Validation} (hv : v.Explained) {decl : Declaration} {x : Directive} {a : Attribute}
    (placed : Placed decl v x a v') : v'.Explained := by
  cases placed with
  | deferred => exact hv
  | opened => exact hv
  | extended => exact hv
  | refused fault => exact hv.report (.inl fault)

theorem Explained.step {v : Validation} (hv : v.Explained) (decl : Declaration) (x : Directive) :
    (v.step decl x).Explained := by
  obtain ⟨-, ⟨-, nothing, -⟩ | ⟨a, -, found, -⟩⟩ := lookup_spec v x
  · rw [step_of_unknown nothing]
    exact hv.lookup x
  · rw [step_of_known found]
    exact (hv.lookup x).placed (place_spec decl _ x a)

theorem Explained.memberAttribute {v : Validation} (hv : v.Explained) (m : Member) (d : Directive) :
    (v.memberAttribute m d).1.Explained := by
  have looked := hv.lookup d
  unfold Validation.memberAttribute
  split
  · exact hv
  · split
    · next h => rwa [h] at looked
    · next h =>
      rw [h] at looked
      split
      · exact looked
      · exact looked.report (.inl (isFault_misplaced d _ _))

theorem Explained.memberStep {v : Validation} (hv : v.Explained) (decl : Declaration) (m : Member) (d : Directive) :
    (v.memberStep decl m d).Explained := by
  have looked := hv.memberAttribute m d
  unfold Validation.memberStep
  split
  · next h => rwa [h] at looked
  · next h =>
    rw [h] at looked
    split
    · exact looked.report (.inl (isFault_optionalOnMember d _ decl))
    · split
      · exact looked.report (.inl (isFault_notEnabled d _ decl m))
      · exact looked

/-- **Validation finds nothing but faults and deprecated names.** -/
theorem explained_ofDeclaration (decl : Declaration) : (ofDeclaration decl).Explained := by
  refine List.foldlRecOn decl.members _ ?_ fun v hv m _ => ?_
  · exact List.foldlRecOn decl.directives _ (by simp [Explained]) fun v hv d _ => hv.step decl d
  · exact List.foldlRecOn m.directives _ hv fun v hv d _ => hv.memberStep decl m d

/-- So it finds nothing but faults and remarks. -/
theorem isClear_ofDeclaration (decl : Declaration) : (ofDeclaration decl).IsClear := by
  intro d hd
  refine (explained_ofDeclaration decl d hd).imp_right ?_
  rintro ⟨x, a, rfl⟩
  exact isRemark_deprecatedAttribute x a

/-! ## Declarations -/

variable {decl : Declaration}

theorem bindings_ofDeclaration (decl : Declaration) :
    (ofDeclaration decl).bindings = (decl.directives.foldl (step decl) {}).bindings :=
  (foldl_members_spec decl decl.members _).1

theorem collects_ofDeclaration (decl : Declaration) : Collects decl decl.directives (ofDeclaration decl).bindings := by
  rw [bindings_ofDeclaration]
  exact collects_foldl decl decl.directives

theorem errors_ofDeclaration (decl : Declaration) :
    (ofDeclaration decl).errors.map Diagnostic.span =
      (decl.directives.filter fun x => ¬ Settled decl (ofDeclaration decl).bindings x).map Directive.nameSpan ++
        decl.members.flatMap fun m => unsuited (ofDeclaration decl).bindings m m.directives := by
  rw [bindings_ofDeclaration, ← errors_foldl]
  exact (foldl_members_spec decl decl.members _).2

theorem exists_of_mem_unsuited {bs : List Binding} {m : Member} {xs : List Directive} {s : Span}
    (hs : s ∈ unsuited bs m xs) : ∃ y ∈ xs, y.nameSpan = s := by
  obtain ⟨y, hy, place⟩ := List.mem_map.1 hs
  exact ⟨y, List.mem_of_mem_filter hy, place⟩

/-! ## The account -/

/-- One of the bindings has the line. -/
def Records (bs : List Binding) (x : Directive) : Prop := ∃ b ∈ bs, x ∈ b.directives

instance (bs : List Binding) (x : Directive) : Decidable (Records bs x) :=
  inferInstanceAs (Decidable (∃ b ∈ bs, _))

section Recorded

variable {ds : List Directive} {bs : List Binding} (h : Collects decl ds bs) {x : Directive}
include h

theorem Collects.records_iff (hx : x ∈ ds) : Records bs x ↔ Enabled bs x := by
  constructor
  · rintro ⟨b, hb, line⟩
    exact ⟨b, hb, ((h.mem_directives_iff hb).1 line).2⟩
  · rintro ⟨b, hb, named⟩
    exact ⟨b, hb, (h.mem_directives_iff hb).2 ⟨hx, named⟩⟩

/-- A line that is recorded is in one binding, as often as it was given. -/
theorem Collects.recorded (records : Records bs x) :
    ∃ b ∈ bs, b.directives.count x = ds.count x ∧ ∀ c ∈ bs, x ∈ c.directives → c = b := by
  obtain ⟨b, hb, line⟩ := records
  have named := ((h.mem_directives_iff hb).1 line).2
  refine ⟨b, hb, ?_, fun c hc other => ?_⟩
  · rw [h.lines b hb]
    exact List.count_filter (beq_iff_eq.2 named)
  · have named' := ((h.mem_directives_iff hc).1 other).2
    rw [named] at named'
    exact h.eq_of_base_eq hc hb (by rw [Option.some.inj named'])

theorem Collects.filter_unsettled :
    (ds.filter fun x => ¬ Settled decl bs x) = ds.filter fun x => ¬ (Records bs x ∨ Defers decl x) := by
  refine List.filter_congr fun x hx => decide_eq_decide.2 (not_congr ?_)
  rw [Settled, or_comm, h.records_iff hx]

end Recorded

/-- Among elements with a mark of their own, a mark stands once if its element is kept. -/
theorem count_map_filter [BEq β] [LawfulBEq β] {f : α → β} {as : List α} (apart : (as.map f).Nodup) {a : α}
    (ha : a ∈ as) (p : α → Prop) [DecidablePred p] :
    ((as.filter p).map f).count (f a) = if p a then 1 else 0 := by
  have kept : ((as.filter p).map f).Nodup := (List.filter_sublist.map f).nodup apart
  split
  · next h => exact List.count_eq_one_of_mem kept (List.mem_map_of_mem (List.mem_filter.2 ⟨ha, decide_eq_true h⟩))
  · next h =>
    refine List.count_eq_zero.2 fun mem => h ?_
    obtain ⟨c, hc, same⟩ := List.mem_map.1 mem
    rw [List.mem_filter, decide_eq_true_eq] at hc
    rw [← List.inj_on_of_nodup_map apart hc.1 ha same]
    exact hc.2

/-- **Each line of a declaration is accounted for.** A line is recorded in one binding, or left to an enum, or leaves
one error at its name; no line meets two of these fates. The places of the errors say so in order, whether or not lines
share a place; where all places differ, each line has its own count. There is one binding for each family, in the order
of the first lines, with all lines that name its attribute, in order. -/
theorem lines_accounted (decl : Declaration) :
    let v := ofDeclaration decl
    -- no line is both recorded and left to an enum
    (∀ x ∈ decl.directives, ¬ (Records v.bindings x ∧ Defers decl x)) ∧
    -- what is recorded is recorded once
    (∀ x, Records v.bindings x →
      ∃ b ∈ v.bindings, b.directives.count x = decl.directives.count x ∧
        ∀ c ∈ v.bindings, x ∈ c.directives → c = b) ∧
    -- each other line leaves one error, at its name; the rest of the errors are about members
    (∃ ofMembers, v.errors.map Diagnostic.span =
        (decl.directives.filter fun x => ¬ (Records v.bindings x ∨ Defers decl x)).map Directive.nameSpan ++ ofMembers ∧
      ∀ s ∈ ofMembers, ∃ m ∈ decl.members, ∃ y ∈ m.directives, y.nameSpan = s) ∧
    (((decl.directives ++ decl.members.flatMap Member.directives).map Directive.nameSpan).Nodup →
      ∀ x ∈ decl.directives,
        (v.errors.map Diagnostic.span).count x.nameSpan = if Records v.bindings x ∨ Defers decl x then 0 else 1) ∧
    -- the bindings
    (v.bindings.map fun b => b.attr.base).Nodup ∧
    (v.bindings.Pairwise fun b c => decl.directives.idxOf b.first < decl.directives.idxOf c.first) ∧
    ∀ b ∈ v.bindings,
      b.directives ≠ [] ∧ b.directives = decl.directives.filter fun x => x.attribute? == some b.attr := by
  intro v
  have h : Collects decl decl.directives v.bindings := collects_ofDeclaration decl
  have errors := errors_ofDeclaration decl
  rw [h.filter_unsettled] at errors
  have ofMembers : ∀ s ∈ decl.members.flatMap (fun m => unsuited v.bindings m m.directives),
      ∃ m ∈ decl.members, ∃ y ∈ m.directives, y.nameSpan = s := by
    intro s hs
    obtain ⟨m, hm, hs⟩ := List.mem_flatMap.1 hs
    exact ⟨m, hm, exists_of_mem_unsuited hs⟩
  refine ⟨fun x hx both => ?_, fun x => h.recorded, ⟨_, errors, ofMembers⟩, fun apart x hx => ?_, h.distinct,
    h.ordered, fun b hb => ⟨List.cons_ne_nil _ _, h.lines b hb⟩⟩
  · exact h.not_enabled_of_defers both.2 ((h.records_iff hx).1 both.1)
  · rw [List.map_append, List.nodup_append] at apart
    obtain ⟨own, -, others⟩ := apart
    -- the errors about members are at their directives, and so at other places
    have elsewhere : x.nameSpan ∉ decl.members.flatMap fun m => unsuited v.bindings m m.directives := by
      intro mem
      obtain ⟨m, hm, y, hy, same⟩ := ofMembers _ mem
      have line : y ∈ decl.members.flatMap Member.directives := List.mem_flatMap.2 ⟨m, hm, hy⟩
      exact others _ (List.mem_map_of_mem hx) _ (List.mem_map_of_mem line) same.symm
    rw [errors, List.count_append, List.count_eq_zero.2 elsewhere, count_map_filter own hx]
    exact ite_not _ _ _

end Validation

end DocAccessors
