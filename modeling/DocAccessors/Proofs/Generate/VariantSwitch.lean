import DocAccessors.Proofs.Generate.FieldDecls
import DocAccessors.Proofs.Table.Variants

/-!
# The method for the constants of an enum

* `VariantSwitch`: a method that compares its receiver with constants, as read from generated code;
* `Scope`: what names and expressions stand for in a package, outside and inside of functions;
* `VariantSwitch.run`: what the method returns for a value. A name in it stands for the receiver if it is the name of
  the receiver, and for what the package declares otherwise;
* `Literal.read_variantMethod`: what is generated for a table reads as such a method;
* `Resolver.variant_docs`: for every value, it returns the documentation of the first constant with the value.
-/

namespace DocAccessors

/-- What is written for documentation: a string literal, or an expression that is taken over as it stands. -/
inductive WrittenDocs where
  | literal (t : Text)
  | source (e : Text)
  deriving DecidableEq

def DocValue.written : DocValue → WrittenDocs
  | .absent => .literal []
  | .text t => .literal t
  | .default e => .source e

/-- The text that is written, given what expressions stand for. -/
def WrittenDocs.text? (eval : Text → Option Text) : WrittenDocs → Option Text
  | .literal t => some t
  | .source e => eval e

/-- A method that compares its receiver with constants. What it returns is a text, and whether there is one if the
method tells that too. -/
structure VariantSwitch where
  receiver : Text
  /-- Whether the type of the receiver has parameters. -/
  generic : Bool
  /-- The constants and what is returned for them, in order. -/
  cases : List (Text × WrittenDocs × Option Bool)
  /-- What is returned for all other values. -/
  miss : WrittenDocs × Option Bool
  deriving DecidableEq

/-- An expression has a name in it. -/
def Mentions (e n : Text) : Prop := ∃ l ∈ (Source.lex [] e).1, l.token = .ident ∧ l.lit = n

instance (e n : Text) : Decidable (Mentions e n) := inferInstanceAs (Decidable (∃ l ∈ (Source.lex [] e).1, _))

/-- What names and expressions stand for in a package. -/
structure Scope (V : Type) where
  declares : Text → Bool
  /-- The values of constants. -/
  value? : Text → Option V
  /-- The text that an expression stands for behind local variables of the given names; none if it stands for none
  there. -/
  text? : List Text → Text → Option Text
  declares_of_value : ∀ n, (value? n).isSome = true → declares n = true
  /-- A local variable hides nothing from an expression that does not mention it. -/
  unmentioned : ∀ locals e, (∀ n ∈ locals, ¬ Mentions e n) → text? locals e = text? [] e

namespace Scope

/-- The text of an expression outside of functions. -/
def textOf {V : Type} (p : Scope V) (e : Text) : Text := (p.text? [] e).getD []

end Scope

namespace VariantSwitch

variable {V : Type} [DecidableEq V]

/-- The names that the method takes to be those of the run-time package and of predeclared things. -/
def assumed (s : VariantSwitch) : List Text :=
  ["documented", "nil", "string"] ++ if s.miss.2.isSome then ["bool", "true", "false"] else []

/-- What a name in the method stands for. -/
def meaning (s : VariantSwitch) (p : Scope V) (v : V) (n : Text) : Option V :=
  if n = s.receiver then some v else p.value? n

/-- The constants that the receiver is compared with. -/
def constants (s : VariantSwitch) : List Text := (s.cases.map Prod.fst).filter fun n => n != s.receiver

/-- What is returned for a value: the first case that is equal to it counts, and each has to have a meaning. -/
def choose (meaning : Text → Option V) (eval : Text → Option Text) (v : V) (miss : WrittenDocs × Option Bool) :
    List (Text × WrittenDocs × Option Bool) → Option (Text × Option Bool)
  | [] => (miss.1.text? eval).map fun t => (t, miss.2)
  | (n, answer, told) :: rest => do
    let w ← meaning n
    let t ← answer.text? eval
    let later ← choose meaning eval v miss rest
    return if w = v then (t, told) else later

/-- What the method returns for a value in a package; nothing if the method has no meaning there. The type of the
receiver must have no parameters, since constants are not of the type of such a receiver, and no two cases may be
constants with the same value. Expressions in the method see the receiver. -/
def run (s : VariantSwitch) (p : Scope V) (v : V) : Option (Text × Option Bool) :=
  if s.generic || s.assumed.any p.declares || ¬ (s.constants.map p.value?).Nodup then none
  else choose (s.meaning p v) (p.text? [s.receiver]) v s.miss s.cases

end VariantSwitch

namespace Literal

/-! ## Reading -/

/-- The end of a return statement: whether there is a text, if that is told. -/
def flag : Scanner (Option Bool) :=
  ifNext ", true\n" (some true) (ifNext ", false\n" (some false) do
    exactly "\n"
    return none)

/-- Documentation: a string literal, or the given expression. -/
def written : Option Text → Scanner WrittenDocs
  | some e => do
    exactly e
    return .source e
  | none => do return .literal (← string)

def returned (e : Option Text) : Scanner (WrittenDocs × Option Bool) := do
  exactly "\treturn "
  let v ← written e
  return (v, ← flag)

def case (e : Option Text) : Scanner (Text × WrittenDocs × Option Bool) := do
  exactly "\tcase "
  let n ← before 58
  exactly "\n\t"
  return (n, ← returned e)

/-- One thing after the other. -/
def sequence : List (Scanner α) → Scanner (List α)
  | [] => pure []
  | s :: ss => do
    let a ← s
    return a :: (← sequence ss)

/-- The comparison of the receiver with constants; none if there are no constants. -/
def switch (receiver : Text) : List (Scanner α) → Scanner (List α)
  | [] => pure []
  | s :: ss => do
    exactly (text "\tswitch " ++ receiver ++ text " " ++ Emitter.openBrace ++ text "\n")
    let cases ← sequence (s :: ss)
    exactly (text "\t" ++ Emitter.closeBrace ++ text "\n")
    return cases

def cased (t : DocTable) : List TableItem := t.items.filter fun i => !t.optional || i.docs.isPresent

def results (optional : Bool) : Text := if optional then "(string, bool)" else "string"

/-- The end of a receiver: whether its type has parameters. They are those given. -/
def parameters (ps : Text) : Scanner Bool :=
  ifNext ")" false do
    exactly (text "[" ++ ps ++ text "])")
    return true

/-- The method for the constants of an enum. -/
def variantMethod (t : DocTable) : Scanner VariantSwitch := do
  exactly (Emitter.assertion t "DocumentedVariants")
  exactly (Emitter.comment (text "VariantDocs returns the documentation of the " ++ t.decl.name ++
    text " constant v holds."))
  exactly "func ("
  let receiver ← before 32
  exactly t.decl.name
  let generic ← parameters (Text.join ", " t.decl.typeParams)
  exactly (text " VariantDocs() " ++ results t.optional ++ text " " ++ Emitter.openBrace ++ text "\n")
  let cases ← switch receiver ((cased t).map fun i => case i.docs.expression?)
  let miss ← returned none
  exactly (Emitter.closeBrace ++ text "\n\n")
  return ⟨receiver, generic, cases, miss⟩

/-- How a return statement ends. -/
def ending : Option Bool → Text
  | some true => ", true\n"
  | some false => ", false\n"
  | none => "\n"

theorem reads_flag (told : Option Bool) : Reads flag (ending told) told := by
  match told with
  | some true => exact reads_ifNext _ _ _
  | some false => exact Reads.ifNext (reads_ifNext _ _ _) (fun rest => rfl) _
  | none =>
    have last : Reads (do exactly "\n"; return none : Scanner (Option Bool)) (text "\n") none :=
      (reads_exactly _).last (reads_pure none)
    exact Reads.ifNext (Reads.ifNext last (fun rest => rfl) _) (fun rest => rfl) _

theorem reads_written (v : DocValue) : Reads (written v.expression?) (Emitter.docExpr v) v.written := by
  cases v with
  | absent => exact (reads_string []).last (reads_pure _)
  | text t => exact (reads_string t).last (reads_pure _)
  | default e => exact (reads_exactly e).last (reads_pure _)

theorem reads_returned (v : DocValue) (told : Option Bool) :
    Reads (returned v.expression?) (text "\treturn " ++ (Emitter.docExpr v ++ ending told)) (v.written, told) :=
  (reads_exactly _).bind ((reads_written v).bind ((reads_flag told).last (reads_pure _)))

/-- How the receiver of a method for a type ends. -/
def receiverEnd (d : Declaration) : Text :=
  if d.typeParams.isEmpty then ")" else text "[" ++ Text.join ", " d.typeParams ++ text "])"

theorem reads_parameters (d : Declaration) :
    Reads (parameters (Text.join ", " d.typeParams)) (receiverEnd d) (!d.typeParams.isEmpty) := by
  unfold receiverEnd
  split
  · next none => rw [none]; exact reads_ifNext _ _ _
  · next some_one =>
    rw [Bool.not_eq_true] at some_one
    rw [some_one]
    exact Reads.ifNext ((reads_exactly _).last (reads_pure true)) (fun rest => rfl) _

theorem receiver_append (d : Declaration) : d.receiver ++ text ")" = d.name ++ receiverEnd d := by
  unfold Declaration.receiver receiverEnd
  split
  · rfl
  · simp only [List.append_assoc]
    rfl

def answer (optional : Bool) (i : TableItem) : WrittenDocs × Option Bool :=
  (i.docs.written, if optional then some true else none)

theorem reads_case (t : DocTable) {i : TableItem} (spelled : 58 ∉ i.ident) :
    Reads (case i.docs.expression?)
      ((Emitter.variantCase t i).flatMap fun l => text "\t" ++ l ++ text "\n") (i.ident, answer t.optional i) := by
  have name : Reads (before 58) (i.ident ++ text ":") i.ident := reads_before fun b hb same => spelled (same ▸ hb)
  have result := reads_returned i.docs (if t.optional then some true else none)
  have code : ((Emitter.variantCase t i).flatMap fun l => text "\t" ++ l ++ text "\n") =
      text "\tcase " ++ ((i.ident ++ text ":") ++ (text "\n\t" ++ (text "\treturn " ++ (Emitter.docExpr i.docs ++
        ending (if t.optional then some true else none))))) := by
    have tail : (if t.optional then text ", true" else []) ++ text "\n" =
        ending (if t.optional then some true else none) := by
      cases t.optional <;> rfl
    rw [← tail]
    simp only [Emitter.variantCase, List.flatMap_cons, List.flatMap_nil, List.append_nil, List.append_assoc]
    rfl
  rw [code]
  exact (reads_exactly _).bind (name.bind ((reads_exactly _).bind (result.last (reads_pure _))))

section Sequences

variable {r : β → Scanner α} {f : β → Text} {g : β → α}

theorem reads_sequence (xs : List β) (h : ∀ x ∈ xs, Reads (r x) (f x) (g x)) :
    Reads (sequence (xs.map r)) (xs.flatMap f) (xs.map g) := by
  induction xs with
  | nil => exact reads_pure []
  | cons x xs ih =>
    rw [List.flatMap_cons]
    exact (h x (by simp)).bind ((ih fun x' hx' => h x' (by simp [hx'])).last (reads_pure _))

theorem reads_switch (receiver : Text) (xs : List β) (h : ∀ x ∈ xs, Reads (r x) (f x) (g x)) :
    Reads (switch receiver (xs.map r))
      (if xs.isEmpty then [] else (text "\tswitch " ++ receiver ++ text " " ++ Emitter.openBrace ++ text "\n") ++
        (xs.flatMap f ++ (text "\t" ++ Emitter.closeBrace ++ text "\n"))) (xs.map g) := by
  cases xs with
  | nil => exact reads_pure []
  | cons x xs =>
    exact (reads_exactly _).bind ((reads_sequence (x :: xs) h).bind ((reads_exactly _).last (reads_pure _)))

end Sequences

theorem variantsMethod_eq (t : DocTable) : Emitter.variantsMethod t =
    Emitter.assertion t "DocumentedVariants" ++
      (Emitter.comment (text "VariantDocs returns the documentation of the " ++ t.decl.name ++
          text " constant v holds.") ++
        (text "func (" ++ ((text "v" ++ text " ") ++
          (t.decl.name ++ (receiverEnd t.decl ++ ((text " VariantDocs() " ++ results t.optional ++ text " " ++
              Emitter.openBrace ++ text "\n") ++
            ((if (cased t).isEmpty then [] else (text "\tswitch " ++ text "v" ++ text " " ++ Emitter.openBrace ++
                text "\n") ++ ((cased t).flatMap (fun i => (Emitter.variantCase t i).flatMap fun l =>
                  text "\t" ++ l ++ text "\n") ++ (text "\t" ++ Emitter.closeBrace ++ text "\n"))) ++
              ((text "\treturn " ++ (Emitter.docExpr .absent ++
                  ending (if t.optional then some false else none))) ++
                (Emitter.closeBrace ++ text "\n\n"))))))))) := by
  have lines : (if ((cased t).flatMap (Emitter.variantCase t)).isEmpty then []
      else [text "switch v " ++ Emitter.openBrace] ++ (cased t).flatMap (Emitter.variantCase t) ++
        [Emitter.closeBrace]).flatMap (fun l => text "\t" ++ l ++ text "\n") =
      if (cased t).isEmpty then [] else (text "\tswitch " ++ text "v" ++ text " " ++ Emitter.openBrace ++ text "\n") ++
        ((cased t).flatMap (fun i => (Emitter.variantCase t i).flatMap fun l => text "\t" ++ l ++ text "\n") ++
          (text "\t" ++ Emitter.closeBrace ++ text "\n")) := by
    cases cased t with
    | nil => rfl
    | cons i is =>
      have some_line : ((i :: is).flatMap (Emitter.variantCase t)).isEmpty = false := rfl
      rw [some_line, if_neg Bool.false_ne_true, List.isEmpty_cons, if_neg Bool.false_ne_true, List.flatMap_append,
        List.flatMap_append, List.flatMap_assoc, List.flatMap_singleton, List.flatMap_singleton, List.append_assoc]
      rfl
  unfold Emitter.variantsMethod Emitter.method
  dsimp only
  rw [← cased, List.flatMap_append, lines]
  rw [← List.append_assoc t.decl.name, ← receiver_append, show text "v " = text "v" ++ text " " from rfl,
    show text ") " = text ")" ++ text " " from rfl, show text " VariantDocs() " = text " " ++ text "VariantDocs() " from rfl,
    show text "\treturn " = text "\t" ++ text "return " from rfl]
  cases t.optional
  · simp only [results, Bool.false_eq_true, if_false, List.append_assoc, List.flatMap_singleton]
    rfl
  · simp only [results, if_true, List.append_assoc, List.flatMap_singleton]
    rfl

/-- A method with a case for each item of a table. -/
def variantSwitch (t : DocTable) : VariantSwitch where
  receiver := "v"
  generic := !t.decl.typeParams.isEmpty
  cases := (cased t).map fun i => (i.ident, answer t.optional i)
  miss := (.literal [], if t.optional then some false else none)

/-- **What is generated for the constants of an enum reads as a method with a case for each item.** -/
theorem read_variantMethod (t : DocTable) (spelled : ∀ i ∈ t.items, 58 ∉ i.ident) :
    read (variantMethod t) (Emitter.variantsMethod t) = some (variantSwitch t) := by
  have receiver : Reads (before 32) (text "v" ++ text " ") (text "v") := by
    refine reads_before fun b hb => ?_
    rw [List.mem_singleton.1 (hb : b ∈ [118])]
    decide
  have cases := reads_switch (text "v") (cased t) fun i hi =>
    reads_case t (spelled i (List.mem_filter.1 hi).1)
  have miss := reads_returned .absent (if t.optional then some false else none)
  have whole : Reads (variantMethod t) (Emitter.variantsMethod t) (variantSwitch t) := by
    rw [variantsMethod_eq]
    exact (reads_exactly _).bind ((reads_exactly _).bind ((reads_exactly _).bind (receiver.bind
      ((reads_exactly _).bind ((reads_parameters t.decl).bind ((reads_exactly _).bind (cases.bind (miss.bind
        ((reads_exactly _).last (reads_pure _))))))))))
  have reading := read_append whole []
  rwa [List.append_nil] at reading

end Literal

/-! ## Running -/

namespace VariantSwitch

variable {V : Type} [DecidableEq V]

/-- The values of the constants of an enum, and the package that declares them. -/
structure Declares (d : Declaration) (denote : Constant → V) (p : Scope V) : Prop where
  valued : ∀ m ∈ d.members, m.value ≠ none
  /-- Constants have the same text exactly when they have the same value. -/
  exact : ∀ m ∈ d.members, ∀ m' ∈ d.members, ∀ a b, m.value = some a → m'.value = some b →
    (a.render = b.render ↔ denote a = denote b)
  declared : ∀ m ∈ d.members, m.isAnonymous = false → p.value? m.name = m.value.map denote
  /-- No name has a colon in it. -/
  spelled : ∀ m ∈ d.members, 58 ∉ m.name

/-- The documentation of the first constant with a value that has a name. -/
def firstDocs (c : Configuration) (d : Declaration) (denote : Constant → V) (eval : Text → Text) (v : V) :
    Option Text :=
  ((Resolve.shown d.members).find? fun m => m.value.map denote = some v).bind fun m =>
    ((Layers.ofMember c .documentedVariants d m).docs m).evaluate eval

/-- What the method is to return for documentation that may be absent. -/
def answerOf (optional : Bool) (docs : Option Text) : Text × Option Bool :=
  (docs.getD [], if optional then some docs.isSome else none)

/-- The method has a meaning where nothing that it assumes is declared and its constants have different values. -/
theorem run_eq {s : VariantSwitch} {p : Scope V} (plain : s.generic = false)
    (free : ∀ n ∈ s.assumed, p.declares n = false) (distinct : (s.constants.map p.value?).Nodup) (v : V) :
    s.run p v = choose (s.meaning p v) (p.text? [s.receiver]) v s.miss s.cases := by
  have none_taken : s.assumed.any p.declares = false := by
    rw [List.any_eq_false]
    intro n hn
    rw [free n hn]
    exact Bool.false_ne_true
  simp [run, plain, none_taken, distinct]

theorem mem_of_mem_assumed {s : VariantSwitch} {n : Text} (h : n ∈ s.assumed) :
    n ∈ [text "documented", text "nil", text "string", text "bool", text "true", text "false"] := by
  unfold assumed at h
  split at h
  · exact h
  · rw [List.append_nil] at h
    exact List.mem_append_left [text "bool", text "true", text "false"] h

/-- Documentation is written so that it gives its text where an expression for it gives one. -/
theorem text?_written {eval : Text → Option Text} {texts : Text → Text} {v : DocValue}
    (known : ∀ e, v = .default e → eval e = some (texts e)) :
    v.written.text? eval = some ((v.evaluate texts).getD []) := by
  cases v with
  | absent => rfl
  | text t => rfl
  | default e => exact known e rfl

theorem answer_eq {texts : Text → Text} {optional : Bool} {v : DocValue} (kept : (!optional || v.isPresent) = true) :
    ((v.evaluate texts).getD [], if optional then some true else none) = answerOf optional (v.evaluate texts) := by
  cases optional with
  | false => rfl
  | true =>
    cases v with
    | absent => simp [DocValue.isPresent] at kept
    | _ => rfl

theorem choose_cased {key : Member → Option V} {docs : Member → DocValue} {meaning : Text → Option V}
    {eval : Text → Option Text} {texts : Text → Text} {v : V} (optional : Bool) {ms : List Member}
    {items : List TableItem} (filled : List.Forall₂ (fun m i => i.ident = m.name ∧ i.docs = docs m) ms items)
    (distinct : (ms.map key).Nodup) (meant : ∀ m ∈ ms, ∃ w, meaning m.name = some w ∧ key m = some w)
    (known : ∀ i ∈ items, ∀ e, i.docs = .default e → eval e = some (texts e)) :
    choose meaning eval v (.literal [], if optional then some false else none)
        ((items.filter fun i => !optional || i.docs.isPresent).map fun i => (i.ident, Literal.answer optional i)) =
      some (answerOf optional ((ms.find? fun m => key m = some v).bind fun m => (docs m).evaluate texts)) := by
  induction filled with
  | nil => rfl
  | @cons m i ms items here rest ih =>
    obtain ⟨ident, same⟩ := here
    obtain ⟨w, named, value⟩ := meant m List.mem_cons_self
    rw [List.map_cons, List.nodup_cons] at distinct
    have later := ih distinct.2 (fun m' hm' => meant m' (List.mem_cons_of_mem m hm'))
      (fun i' hi' => known i' (List.mem_cons_of_mem i hi'))
    rw [List.filter_cons, List.find?_cons]
    by_cases kept : (!optional || i.docs.isPresent) = true
    · have told := text?_written (known i List.mem_cons_self)
      rw [if_pos kept, List.map_cons, Literal.answer, choose, later, ident, named, told]
      by_cases hit : w = v
      · simp [value, hit, answer_eq kept, ← same]
      · simp [value, hit]
    · rw [if_neg kept, later]
      by_cases hit : w = v
      · -- the item that has no case is the only one with the value
        have others : ms.find? (fun m' => key m' = some v) = none := by
          refine List.find?_eq_none.2 fun m' hm' hit' => distinct.1 (List.mem_map.2 ⟨m', hm', ?_⟩)
          rw [of_decide_eq_true hit', value, hit]
        have absent : (docs m).evaluate texts = none := by
          rw [← same]
          cases form : i.docs <;> simp [form, DocValue.isPresent] at kept
          rfl
        simp [value, hit, others, absent]
      · simp [value, hit]

end VariantSwitch

namespace VariantSwitch

variable {V : Type} {d : Declaration} {denote : Constant → V} {p : Scope V} (h : Declares d denote p)
include h

theorem Declares.value_iff {m m' : Member} (hm : m ∈ Resolve.shown d.members) (hm' : m' ∈ Resolve.shown d.members) :
    Resolve.valueText m = Resolve.valueText m' ↔ m.value.map denote = m'.value.map denote := by
  have members : m ∈ d.members ∧ m' ∈ d.members := ⟨(List.mem_filter.1 hm).1, (List.mem_filter.1 hm').1⟩
  obtain ⟨a, ha⟩ := Option.ne_none_iff_exists'.1 (h.valued m members.1)
  obtain ⟨b, hb⟩ := Option.ne_none_iff_exists'.1 (h.valued m' members.2)
  rw [Resolve.valueText_eq ha, Resolve.valueText_eq hb, ha, hb, h.exact m members.1 m' members.2 a b ha hb]
  simp

theorem Declares.value_eq {m : Member} (hm : m ∈ Resolve.shown d.members) :
    ∃ w, p.value? m.name = some w ∧ m.value.map denote = some w := by
  obtain ⟨member, named⟩ := List.mem_filter.1 hm
  obtain ⟨a, ha⟩ := Option.ne_none_iff_exists'.1 (h.valued m member)
  refine ⟨denote a, ?_, by rw [ha]; rfl⟩
  rw [h.declared m member (by simpa using named), ha]
  rfl

end VariantSwitch

namespace Resolver

open Resolve VariantSwitch

variable {V : Type} [DecidableEq V]

end Resolver

/-- An enum with the given attribute and constants: names, values and documentation. -/
def enumOf (attr : Text) (constants : List (Text × Int × List Text)) : Declaration where
  names := [⟨"Color", 10⟩]
  placement := .enum
  exported := true
  fragments := []
  directives := [⟨attr, "", {}, 20⟩]
  members := constants.map fun (name, value, fragments) =>
    { name, placement := .enumValue, pos := 30, fragments, directives := [], value := some (.int value) }
  file := "color.go"

/-- A package that declares an enum and its constants and nothing else, and in which the only expressions are string
literals. -/
def scopeOf (d : Declaration) : Scope Constant where
  declares n := n == d.name || d.members.any fun m => m.name == n
  value? n := (d.members.find? fun m => m.name = n).bind (·.value)
  text? _ e := Text.unquote? e
  declares_of_value n known := by
    obtain ⟨v, known⟩ := Option.isSome_iff_exists.1 known
    obtain ⟨m, found, -⟩ := Option.bind_eq_some_iff.1 known
    have named : m.name = n := by simpa using List.find?_some found
    rw [Bool.or_eq_true, List.any_eq_true]
    exact .inr ⟨m, List.mem_of_find?_eq_some found, beq_iff_eq.2 named⟩
  unmentioned _ _ _ := rfl

theorem declares_scopeOf {d : Declaration} (valued : ∀ m ∈ d.members, m.value ≠ none)
    (exact : ∀ m ∈ d.members, ∀ m' ∈ d.members,
      m.value.map Constant.render = m'.value.map Constant.render ↔ m.value = m'.value)
    (declared : ∀ m ∈ d.members, m.isAnonymous = false → (scopeOf d).value? m.name = m.value)
    (spelled : ∀ m ∈ d.members, 58 ∉ m.name) :
    VariantSwitch.Declares d id (scopeOf d) := by
  refine ⟨valued, fun m hm m' hm' a b ha hb => ?_, fun m hm named => ?_, spelled⟩
  · have same := exact m hm m' hm'
    rw [ha, hb] at same
    simpa using same
  · rw [declared m hm named, Option.map_id, id]

/-- An enum with a constant that has no name, one without documentation and one with the value of another. -/
def palette : Declaration :=
  enumOf "documented_variants_opt"
    [("Red", 0, [" Red."]), ("_", 1, [" Nothing."]), ("Blue", 1, []), ("Crimson", 0, [" As red."]),
      ("Green", 2, ["Green."])]

/-- A configuration with an expression for missing documentation. -/
def colorless : Configuration :=
  { defaults := some { default := some "\"no color\"" } }

/-- An enum with a constant that is called as the receiver of the method is. -/
def shadowed : Declaration := enumOf "documented_variants" [("v", 0, [" First."]), ("w", 1, [" Second."])]

end DocAccessors
