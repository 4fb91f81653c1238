import DocAccessors.Proofs.Table.Layer

/-!
# Layers of options

Settings are made from layers of options, the built-in ones first and those nearest to an item last. Each option sets
its own field, so a field ends as the last option of its key says; an option that the level does not accept undoes all
of them.

* `Settings.value?`: a field of the settings as the option that would set it; `ext_value?` says that settings have
  nothing else;
* `lastOfKind?`: the last option of a key; `value?_foldl_apply`: what a list of options makes of a field;
* `resolve_append`, `resolve_perm`: layers can be taken up one after the other, and options with different keys in any
  order;
* `resolve_last_given`: all of this together.
-/

namespace DocAccessors

def lastOfKind? (k : OptionKind) (os : List ReadOption) : Option ReadOption := (os.filter fun o => o.kind == k).getLast?

namespace Settings

/-- The field of a key, as the option that would set it; unset fields have none. -/
def value? (s : Settings) : OptionKind → Option OptionValue
  | .vis => s.visibility.map .vis
  | .rename => s.customName.map .rename
  | .renameAll => s.renameCase.map .renameAll
  | .default => s.defaultExpr.map .default
  | .trim => some (.trim s.trim)

/-! ## Fields -/

theorem ext_value? {s s' : Settings} (h : ∀ k, s.value? k = s'.value? k) : s = s' := by
  obtain ⟨visibility, customName, renameCase, defaultExpr, trim⟩ := s
  obtain ⟨visibility', customName', renameCase', defaultExpr', trim'⟩ := s'
  have fields : visibility = visibility' ∧ customName = customName' ∧ renameCase = renameCase' ∧
      defaultExpr = defaultExpr' ∧ trim = trim' := by
    refine ⟨?_, ?_, ?_, ?_, ?_⟩
    · exact Option.map_injective (fun _ _ => OptionValue.vis.inj) (h .vis)
    · exact Option.map_injective (fun _ _ => OptionValue.rename.inj) (h .rename)
    · exact Option.map_injective (fun _ _ => OptionValue.renameAll.inj) (h .renameAll)
    · exact Option.map_injective (fun _ _ => OptionValue.default.inj) (h .default)
    · exact OptionValue.trim.inj (Option.some.inj (h .trim))
  obtain ⟨rfl, rfl, rfl, rfl, rfl⟩ := fields
  rfl

/-- An option sets the field of its own key and no other. -/
theorem value?_apply (s : Settings) (v : OptionValue) (k : OptionKind) :
    (s.apply v).value? k = if v.kind = k then some v else s.value? k := by
  cases v <;> cases k <;> rfl

/-- **The last option of a key wins.** -/
theorem value?_foldl_apply (os : List ReadOption) (s : Settings) (k : OptionKind) :
    (os.foldl (fun s o => s.apply o.value) s).value? k = ((lastOfKind? k os).map (·.value)).or (s.value? k) := by
  let own (v : OptionValue) : Option OptionValue := if v.kind = k then some v else none
  have one : ∀ s v, (apply s v).value? k = (own v).or (s.value? k) := fun s v => by
    rw [value?_apply]
    by_cases named : v.kind = k <;> simp [own, named]
  have last : lastGiven own os = (lastOfKind? k os).map (·.value) := by
    rw [lastGiven, lastOfKind?, ← List.getLast?_map, ← List.filterMap_eq_map, List.filterMap_filter]
    congr 2
    funext o
    by_cases named : o.value.kind = k <;> simp [own, ReadOption.kind, named]
  rw [foldl_apply_field own (fun s => s.value? k) one, last]

/-! ## Layers -/

variable {base : Settings} {p : Profile} {layers later : List (List ReadOption)}

/-- The diagnostic reports an option that is not accepted, at its key. -/
def ReportsInapplicable (o : ReadOption) (d : Diagnostic) : Prop :=
  d = { severity := .error
        code := .inapplicableOption
        message := text "option `" ++ o.kind.name ++ text "` is not applicable here"
        span := o.span }

theorem resolve_succeeds_iff : (base.resolve p layers).2 = none ↔ ∀ o ∈ layers.flatten, p.accepts o.kind = true := by
  by_cases accepted : ∀ o ∈ layers.flatten, p.accepts o.kind = true
  · exact iff_of_true (by rw [resolve_of_accepted accepted]) accepted
  · exact iff_of_false (by rw [resolve_of_rejected accepted]; exact Option.some_ne_none _) accepted

/-- **Layers can be taken up in one go when they can be taken up one after the other, with the same result.** -/
theorem resolve_append : ((base.resolve p (layers ++ later)).2 = none ↔
      (base.resolve p layers).2 = none ∧ ((base.resolve p layers).1.resolve p later).2 = none) ∧
    ((base.resolve p layers).2 = none → ((base.resolve p layers).1.resolve p later).2 = none →
      base.resolve p (layers ++ later) = (base.resolve p layers).1.resolve p later) := by
  have all : (∀ o ∈ (layers ++ later).flatten, p.accepts o.kind = true) ↔
      (∀ o ∈ layers.flatten, p.accepts o.kind = true) ∧ ∀ o ∈ later.flatten, p.accepts o.kind = true := by
    rw [List.flatten_append, List.forall_mem_append]
  simp only [resolve_succeeds_iff]
  refine ⟨all, fun first second => ?_⟩
  rw [resolve_of_accepted (all.2 ⟨first, second⟩), resolve_of_accepted first, resolve_of_accepted second,
    List.flatten_append, List.foldl_append]

/-- **Options with different keys can come in any order, and in any layers.** -/
theorem resolve_perm {layers' : List (List ReadOption)} (same : layers'.flatten.Perm layers.flatten)
    (distinct : (layers.flatten.map (·.kind)).Nodup) : (base.resolve p layers').1 = (base.resolve p layers).1 := by
  by_cases accepted : ∀ o ∈ layers.flatten, p.accepts o.kind = true
  · rw [resolve_of_accepted accepted, resolve_of_accepted fun o ho => accepted o (same.mem_iff.1 ho)]
    exact (Resolve.foldl_apply_perm same.symm distinct base).symm
  · rw [resolve_of_rejected accepted, resolve_of_rejected fun all => accepted fun o ho => all o (same.mem_iff.2 ho)]

/-- **The last option wins, field by field, or nothing is applied.** When all options are accepted, each field of the
result is what the last option of its key says, and what it was before if there is none. Otherwise the settings stay as
they are, and there is one report for each option that is not accepted, in order and at its key. So layers can be taken
up one after the other, and options whose keys are different can come in any order. -/
theorem resolve_last_given (base : Settings) (p : Profile) (layers : List (List ReadOption)) :
    ((∀ o ∈ layers.flatten, p.accepts o.kind = true) → (base.resolve p layers).2 = none ∧
      ∀ k, (base.resolve p layers).1.value? k = ((lastOfKind? k layers.flatten).map (·.value)).or (base.value? k)) ∧
    ((¬ ∀ o ∈ layers.flatten, p.accepts o.kind = true) → ∃ ds, base.resolve p layers = (base, some (.diagnosed ds)) ∧
      List.Forall₂ ReportsInapplicable (layers.flatten.filter fun o => !p.accepts o.kind) ds) ∧
    (∀ later, (base.resolve p layers).2 = none → ((base.resolve p layers).1.resolve p later).2 = none →
      base.resolve p (layers ++ later) = (base.resolve p layers).1.resolve p later) ∧
    (∀ layers', layers'.flatten.Perm layers.flatten → ensureUnique layers.flatten = none →
      (base.resolve p layers').1 = (base.resolve p layers).1) := by
  refine ⟨fun accepted => ?_, fun rejected => ⟨_, resolve_of_rejected rejected, ?_⟩, fun later => resolve_append.2,
    fun layers' same unique => resolve_perm same (ensureUnique_eq_none_iff.1 unique)⟩
  · rw [resolve_of_accepted accepted]
    exact ⟨rfl, value?_foldl_apply layers.flatten base⟩
  · rw [List.forall₂_map_right_iff, List.forall₂_same]
    exact fun o _ => rfl

end Settings

end DocAccessors
