import DocAccessors.Proofs.Directive.Recovery

/-!
# Option lists under fewer keys

Reading a list under a set of keys is reading it under all keys and leaving out the options of the others. Where a key
is not in the set, the reader goes on from another token than it would under all keys, but to the same comma.

* `Segment.known?`: the key of a segment that names an option;
* `readSegment_of_mem`, `readSegment_of_not_mem`, `readSegment_of_unknown`: what a set of keys does to a segment;
* `readOptions_restrict`: what it does to a list.
-/

namespace DocAccessors

open DocAccessors.Source (Lexeme tokensOf)

namespace OptionList

/-- The key of a segment, if it names an option, and that option. -/
def Segment.known? (s : Segment) : Option (Lexeme × OptionKind) :=
  match s.tokens with
  | [] => none
  | key :: _ =>
    if key.token != .ident && !key.token.isKeyword then none else (OptionKind.ofName? key.lit).map fun k => (key, k)

/-- The same outcome, apart from the keys that are listed in a message about an option that is not known. -/
inductive AgreeUpToKeys (keys keys' : KeySet) : Except Diagnostic ReadOption → Except Diagnostic ReadOption → Prop
  | same (r : Except Diagnostic ReadOption) : AgreeUpToKeys keys keys' r r
  | listed (at' : Span) (before : Text) :
    AgreeUpToKeys keys keys' (.error (.error .unknownOption at' (before ++ KeySet.render keys)))
      (.error (.error .unknownOption at' (before ++ KeySet.render keys')))

section

variable {src : Text} {base : Pos} {keys : KeySet} {s : Segment} {key : Lexeme} {k : OptionKind}

theorem known?_eq_some (h : s.known? = some (key, k)) :
    ∃ rest, s.tokens = key :: rest ∧ ¬(key.token != .ident && !key.token.isKeyword) = true ∧
      OptionKind.ofName? key.lit = some k := by
  unfold Segment.known? at h
  split at h
  · cases h
  · next first rest tokens =>
    split at h
    · cases h
    · next name =>
      obtain ⟨k', named, same⟩ := Option.map_eq_some_iff.1 h
      obtain ⟨rfl, rfl⟩ := Prod.mk.inj same
      exact ⟨rest, tokens, name, named⟩

/-- A segment whose key is in the set gives what it gives under all keys. -/
theorem readSegment_of_mem (known : s.known? = some (key, k)) (mem : k ∈ keys) :
    Input.readSegment ⟨src, base, keys⟩ s = Input.readSegment ⟨src, base, OptionKind.all⟩ s := by
  obtain ⟨rest, tokens, name, named⟩ := known?_eq_some known
  have key_eq : Input.key? ⟨src, base, keys⟩ key = some k := key?_eq_some.2 ⟨named, mem⟩
  have key_eq' : Input.key? ⟨src, base, OptionKind.all⟩ key = some k := key?_eq_some.2 ⟨named, mem_kinds k⟩
  unfold Input.readSegment
  rw [tokens]
  dsimp only
  rw [if_neg name, if_neg name, key_eq, key_eq']
  rfl

/-- A segment whose key is not in the set gives a problem at the key. -/
theorem readSegment_of_not_mem (known : s.known? = some (key, k)) (other : k ∉ keys) :
    Input.readSegment ⟨src, base, keys⟩ s = .error (Input.notInSet ⟨src, base, keys⟩ key) := by
  obtain ⟨rest, tokens, name, named⟩ := known?_eq_some known
  have key_eq : Input.key? ⟨src, base, keys⟩ key = none := by
    rw [Option.eq_none_iff_forall_ne_some]
    intro k' found
    obtain ⟨named', mem⟩ := key?_eq_some.1 found
    obtain rfl := Option.some.inj (named.symm.trans named')
    exact other mem
  unfold Input.readSegment
  rw [tokens]
  dsimp only
  rw [if_neg name, key_eq]

/-- The message about a name that is no option lists the keys, unless the option has been renamed. -/
theorem notInSet_agree (keys' : KeySet) :
    AgreeUpToKeys keys keys' (.error (Input.notInSet ⟨src, base, keys⟩ key)) (.error (Input.notInSet ⟨src, base, keys'⟩ key)) := by
  unfold Input.notInSet Input.unknownKey
  split
  · exact .same _
  · exact .listed _ _

/-- A segment without such a key gives the same under any set of keys. -/
theorem readSegment_of_unknown (unknown : s.known? = none) :
    AgreeUpToKeys keys OptionKind.all (Input.readSegment ⟨src, base, keys⟩ s)
      (Input.readSegment ⟨src, base, OptionKind.all⟩ s) := by
  unfold Segment.known? at unknown
  unfold Input.readSegment
  cases tokens : s.tokens with
  | nil => exact .same _
  | cons key rest =>
    rw [tokens] at unknown
    dsimp only at unknown ⊢
    split
    · exact .same _
    · next name =>
      rw [if_neg name, Option.map_eq_none_iff] at unknown
      have none (keys : KeySet) : Input.key? ⟨src, base, keys⟩ key = none := by simp [Input.key?, unknown]
      rw [none, none]
      exact notInSet_agree _

/-- A value belongs to the key that it was read for. -/
theorem kind_of_value {i : Input} {first : Lexeme} {rest : List Lexeme} {v : OptionValue}
    (h : i.value k first rest = .ok v) : v.kind = k := by
  unfold Input.value at h
  dsimp only at h
  split at h
  all_goals
    repeat' split at h
    all_goals
      cases h
      try rfl

/-- An option comes from a key of the set, an equals sign and a value that the key can take. -/
theorem option_of_readSegment {i : Input} {o : ReadOption} (h : i.readSegment s = .ok o) :
    ∃ key equals first rest, s.tokens = key :: equals :: first :: rest ∧
      (key.token = .ident ∨ key.token.isKeyword = true) ∧ OptionKind.ofName? key.lit = some o.kind ∧ o.kind ∈ i.keys ∧
      equals.token = .assign ∧ i.value o.kind first rest = .ok o.value ∧
      o.valueSpan = i.span first.offset (extent first rest) := by
  obtain ⟨key, equals, first, rest, k, v, tokens, name, named, mem, isEquals, value⟩ :=
    (exists_readSegment_iff i s).1 ⟨o, h⟩
  rw [Input.readSegment, tokens] at h
  dsimp only at h
  rw [if_neg (isName_iff.2 name), key?_eq_some.2 ⟨named, mem⟩] at h
  dsimp only at h
  rw [if_neg (by simp [isEquals]), Input.option, value] at h
  injection h with h
  subst h
  obtain rfl := kind_of_value value
  exact ⟨key, equals, first, rest, tokens, name, named, mem, isEquals, value, rfl⟩

theorem known?_of_readSegment {i : Input} {o : ReadOption} (h : i.readSegment s = .ok o) :
    ∃ key, s.known? = some (key, o.kind) ∧ o.kind ∈ i.keys := by
  obtain ⟨key, equals, first, rest, tokens, name, named, mem, -⟩ := option_of_readSegment h
  refine ⟨key, ?_, mem⟩
  unfold Segment.known?
  rw [tokens]
  dsimp only
  rw [if_neg (isName_iff.2 name), named]
  rfl

/-- The option of a segment is left out if its kind is not in the set, and kept as it is otherwise. -/
theorem toOption_readSegment (src : Text) (base : Pos) (keys : KeySet) (s : Segment) :
    (Input.readSegment ⟨src, base, keys⟩ s).toOption =
      (Input.readSegment ⟨src, base, OptionKind.all⟩ s).toOption.filter fun o => keys.contains o.kind := by
  have kept {keys : KeySet} {o : ReadOption} (found : (Input.readSegment ⟨src, base, keys⟩ s).toOption = some o) :
      ∃ key, s.known? = some (key, o.kind) ∧ o.kind ∈ keys := by
    cases read : Input.readSegment ⟨src, base, keys⟩ s with
    | ok o' =>
      obtain rfl : o' = o := by simpa [read, Except.toOption] using found
      exact known?_of_readSegment read
    | error d => simp [read, Except.toOption] at found
  ext o
  rw [Option.filter_eq_some_iff]
  constructor
  · intro found
    obtain ⟨key, known, mem⟩ := kept found
    rw [← readSegment_of_mem known mem]
    exact ⟨found, by simpa using mem⟩
  · rintro ⟨found, mem⟩
    obtain ⟨key, known, -⟩ := kept found
    rwa [readSegment_of_mem known (by simpa using mem)]

end

end OptionList

open OptionList

/-- **Fewer keys only leave options out.** The options of a list under a set of keys are those under all keys whose
kinds are in the set, in the same order and with the same values and spans. A list that cannot be read fails in the same
way. Otherwise there is a problem at each key that is not in the set, in place of what the segment gives under all keys,
and every other segment gives what it gives under all keys, but for the keys that a message lists. -/
theorem readOptions_restrict (src : Text) (base : Pos) (keys : KeySet) :
    let i : Input := ⟨src, base, keys⟩
    let all : Input := ⟨src, base, OptionKind.all⟩
    let ss := segments (tokensOf src)
    (readOptions src base keys).1 = (readOptions src base OptionKind.all).1.filter (fun o => keys.contains o.kind) ∧
      ((∃ l ∈ (Source.lex [] src).1, l.faults ≠ []) ∧ readOptions src base keys = readOptions src base OptionKind.all ∨
        (∀ l ∈ (Source.lex [] src).1, l.faults = []) ∧
          Failure.diagnosticsOf (readOptions src base keys).2 = i.problemsOf ss ∧
          Failure.diagnosticsOf (readOptions src base OptionKind.all).2 = all.problemsOf ss ∧
          ∀ s ∈ ss, match s.known? with
            | some (key, k) =>
              if k ∈ keys then i.readSegment s = all.readSegment s else i.readSegment s = .error (i.notInSet key)
            | none => AgreeUpToKeys keys OptionKind.all (i.readSegment s) (all.readSegment s)) := by
  intro i all ss
  by_cases faulty : ∃ l ∈ (Source.lex [] src).1, l.faults ≠ []
  · rw [readOptions_of_fault faulty, readOptions_of_fault faulty]
    exact ⟨rfl, .inl ⟨faulty, rfl⟩⟩
  · have clean : ∀ l ∈ (Source.lex [] src).1, l.faults = [] := by simpa using faulty
    have problems (keys : KeySet) := diagnosticsOf_readOptions clean base keys
    refine ⟨?_, .inr ⟨clean, problems keys, problems OptionKind.all, fun s _ => ?_⟩⟩
    · rw [readOptions_of_clean clean, readOptions_of_clean clean]
      dsimp only
      rw [Input.optionsOf, Input.optionsOf, List.filter_filterMap]
      exact congrArg (List.filterMap · _) (funext (toOption_readSegment src base keys))
    · split
      · next key k known =>
        split
        · next mem => exact readSegment_of_mem known mem
        · next other => exact readSegment_of_not_mem known other
      · next unknown => exact readSegment_of_unknown unknown

end DocAccessors
