import DocAccessors.Proofs.Table.Accepted
import DocAccessors.Proofs.Table.Layer

/-!
# Layers of options

The options for a member come from three layers: its own lines, the lines of its container, and the configuration.

* `Directive.linesOf f xs`: the lines among `xs` that name the family `f` of attributes;
* `Layers`: the options of the three layers, and what they come to for each setting; a layer wins over those below it;
* `Layers.Fill l m i`: the item `i` is what the layers `l` make of the member `m`;
* `Makes.fill`: the item of a member is what its layers make of it;
* `Resolver.fields_by_precedence`: so are all items of a table for fields, one for each member.
-/

namespace DocAccessors

/-! ## Families -/

namespace Attribute

theorem eq_of_name_eq_base {a : Attribute} {f : AttributeBase} (h : a.name = f.name) : a = ⟨f, false⟩ := by
  obtain ⟨g, optional⟩ := a
  cases g <;> cases optional <;> cases f <;> first | rfl | exact absurd h (by decide)

/-- A member names a family by the name of its required form. -/
theorem namesOneOf_iff {n : Text} {f : AttributeBase} :
    namesOneOf n [f.name] = true ↔ (lookup? n).map Prod.fst = some ⟨f, false⟩ := by
  have own : normalizeName n = f.name → (lookup? n).map Prod.fst = some ⟨f, false⟩ := by
    intro named
    unfold lookup?
    rw [named]
    cases f <;> decide
  unfold namesOneOf
  simp only [List.any_cons, List.any_nil, Bool.or_false, Bool.or_eq_true, beq_iff_eq, Option.any_eq_true]
  constructor
  · rintro (named | ⟨⟨a, deprecated⟩, found, named⟩)
    · exact own named
    · rw [found, ← eq_of_name_eq_base named]
      rfl
  · intro found
    obtain ⟨p, found, attr⟩ := Option.map_eq_some_iff.1 found
    exact .inr ⟨p, found, by rw [attr]; rfl⟩

end Attribute

namespace Directive

/-- The family of attributes that a directive names. -/
def family? (x : Directive) : Option AttributeBase := x.attribute?.map Attribute.base

/-- The lines that name a family. -/
def linesOf (f : AttributeBase) (xs : List Directive) : List Directive := xs.filter fun x => x.family? == some f

theorem family?_eq_some_iff {x : Directive} {f : AttributeBase} :
    x.family? = some f ↔ ∃ a, x.attribute? = some a ∧ a.base = f := Option.map_eq_some_iff

/-- The lines that name a family are read without a problem, and give no option twice. -/
def Readable (f : AttributeBase) (xs : List Directive) : Prop :=
  (∀ x ∈ linesOf f xs, (x.options OptionKind.all).2 = none) ∧
    ((Resolve.lineOptions (linesOf f xs)).map (·.kind)).Nodup

end Directive

namespace Validation

/-- The lines of a binding are those that name its family. -/
theorem Sorts.linesOf_eq {decl : Declaration} {ds : List Directive} {bs : List Binding} (h : Sorts decl ds bs)
    {b : Binding} (hb : b ∈ bs) : b.directives = Directive.linesOf b.attr.base ds := by
  rw [h.lines b hb]
  refine List.filter_congr fun x hx => ?_
  rw [Bool.eq_iff_iff, beq_iff_eq, beq_iff_eq, Directive.family?_eq_some_iff]
  constructor
  · exact fun named => ⟨b.attr, named, rfl⟩
  · rintro ⟨a, named, base⟩
    obtain ⟨b', hb', rfl⟩ := h.complete x hx a named ((h.stands b hb).of_base_eq base.symm)
    rw [named, h.eq_of_base_eq hb' hb base]

/-- On a member that suits, the lines that name a family for members are those in its required form. -/
theorem linesOf_of_suits {bs : List Binding} {m : Member} (suits : ∀ x ∈ m.directives, Suits bs m x)
    {f : AttributeBase} (members : f.levels.member ≠ none) :
    (m.directives.filter fun x => Attribute.namesOneOf x.attr [f.name]) = Directive.linesOf f m.directives := by
  have onConstants : ∀ a : Attribute, a.base = f → a.isMemberOn .enumValue = true := by
    rintro ⟨g, optional⟩ rfl
    cases g <;> first | rfl | exact absurd rfl members
  refine List.filter_congr fun x hx => ?_
  rw [Bool.eq_iff_iff, Attribute.namesOneOf_iff, beq_iff_eq, Directive.family?_eq_some_iff]
  constructor
  · exact fun named => ⟨_, named, rfl⟩
  · rintro ⟨a, named, base⟩
    rcases suits x hx with ⟨c, named', -, required, -⟩ | ⟨const, foreign⟩
    · rw [named] at named'
      obtain rfl := Option.some.inj named'
      rw [← Directive.attribute?, named, ← base, ← required]
    · have member := foreign a named
      rw [const, onConstants a base] at member
      cases member

end Validation

/-! ## Layers -/

/-- The options for a member: its own, those of its container, and the configured defaults. -/
structure Layers where
  own : List ReadOption
  container : List ReadOption
  configured : Defaults

namespace Layers

/-- The options for a member of a declaration, of one family of attributes. -/
def ofMember (c : Configuration) (f : AttributeBase) (d : Declaration) (m : Member) : Layers where
  own := Resolve.lineOptions (Directive.linesOf f m.directives)
  container := Resolve.lineOptions (Directive.linesOf f d.directives)
  configured := c.defaults.getD {}

variable (l : Layers)

/-- The value of the highest layer that gives one. -/
def given (pick : OptionValue → Option α) (configured : Option α) : Option α :=
  (lastGiven pick l.own).or ((lastGiven pick l.container).or configured)

/-- Whether lines are trimmed. -/
def trim : Bool := (l.given OptionValue.trim? l.configured.trim).getD true

def convention : Option CaseConvention :=
  l.given OptionValue.convention? (l.configured.renameAll.bind CaseConvention.ofName?)

/-- The expression that stands in for documentation. -/
def fallback : Option Text := l.given OptionValue.expression? l.configured.default

/-- The name that a member is published under. -/
def name (m : Member) : Option Text :=
  (lastGiven OptionValue.rename? l.own).or
    (if m.isAnonymous then none
      else some (match l.convention with
        | some c => c.convert m.name
        | none => m.name))

def docs (m : Member) : DocValue :=
  match normalize m.fragments l.trim with
  | some t => .text t
  | none => (l.fallback.map DocValue.default).getD .absent

/-- The item is what the layers make of the member. -/
structure Fill (m : Member) (i : TableItem) : Prop where
  ident : i.ident = m.name
  named : i.named = (l.name m).isSome
  name : i.name = (l.name m).getD []
  documented : m.fragments ≠ [] → ∃ t, normalize m.fragments l.trim = some t ∧ i.docs = .text t
  undocumented : m.fragments = [] → i.docs = (l.fallback.map DocValue.default).getD .absent

variable {l}

theorem Fill.docs_eq {m : Member} {i : TableItem} (h : l.Fill m i) : i.docs = l.docs m := by
  unfold docs
  by_cases no_text : m.fragments = []
  · rw [h.undocumented no_text, no_text]
    rfl
  · obtain ⟨t, normal, eq⟩ := h.documented no_text
    rw [normal, eq]

end Layers

namespace Resolve

theorem lastGiven_rename_of_settings {s s' : Settings} {p : Profile} {os : List ReadOption}
    (h : settings s p os = .ok s') (unnamed : p.accepts .rename = false) : lastGiven OptionValue.rename? os = none := by
  obtain ⟨accepted, -⟩ := settings_eq_ok_iff.1 h
  unfold lastGiven
  rw [List.getLast?_eq_none_iff, List.filterMap_eq_nil_iff]
  intro o ho
  have kind := accepted o ho
  cases value : o.value with
  | rename n =>
    rw [ReadOption.kind, value, OptionValue.kind, unnamed] at kind
    cases kind
  | _ => rfl

theorem settings_of_layers {c : Configuration} {p q : Profile} {os os' : List ReadOption} {s s' : Settings}
    (hs : settings c.settings p os = .ok s) (hs' : settings s q os' = .ok s') (unnamed : p.accepts .rename = false) :
    let l : Layers := ⟨os', os, c.defaults.getD {}⟩
    s'.trim = l.trim ∧ s'.renameCase = l.convention ∧ s'.defaultExpr = l.fallback ∧
      s'.customName = lastGiven OptionValue.rename? os' := by
  have rename := lastGiven_rename_of_settings hs unnamed
  obtain ⟨-, rfl⟩ := settings_eq_ok_iff.1 hs
  obtain ⟨-, rfl⟩ := settings_eq_ok_iff.1 hs'
  have configured : c.settings.trim = (c.defaults.getD {}).trim.getD true ∧
      c.settings.renameCase = (c.defaults.getD {}).renameAll.bind CaseConvention.ofName? ∧
      c.settings.defaultExpr = (c.defaults.getD {}).default ∧ c.settings.customName = none := by
    unfold Configuration.settings
    cases c.defaults <;> exact ⟨rfl, rfl, rfl, rfl⟩
  obtain ⟨trim, convention, fallback, name⟩ := configured
  refine ⟨?_, ?_, ?_, ?_⟩
  · rw [Settings.foldl_apply_trim, Settings.foldl_apply_trim, trim, Layers.trim, Layers.given]
    cases lastGiven OptionValue.trim? os' <;> cases lastGiven OptionValue.trim? os <;> rfl
  · rw [Settings.foldl_apply_renameCase, Settings.foldl_apply_renameCase, convention]
    rfl
  · rw [Settings.foldl_apply_defaultExpr, Settings.foldl_apply_defaultExpr, fallback]
    rfl
  · rw [Settings.foldl_apply_customName, Settings.foldl_apply_customName, name, rename]
    simp

theorem exposedName_of_layers {s : Settings} {l : Layers} (rename : s.customName = lastGiven OptionValue.rename? l.own)
    (convention : s.renameCase = l.convention) (m : Member) : s.exposedName m.lookupName = l.name m := by
  unfold Settings.exposedName Layers.name Member.lookupName
  rw [rename, convention]
  cases lastGiven OptionValue.rename? l.own with
  | some n => rfl
  | none =>
    rw [Option.none_or]
    cases anonymous : m.isAnonymous with
    | true => rfl
    | false =>
      have some_name : m.name.isEmpty = false := by
        rw [Member.isAnonymous, Bool.or_eq_false_iff] at anonymous
        exact anonymous.2
      simp only [some_name, Bool.false_eq_true, if_false]
      cases l.convention <;> rfl

theorem docs_of_substitute? {mode : DocMode} {fragments : List Text} {trim : Bool} {fallback : Option Text}
    {v : DocValue} (h : mode.substitute? (normalize fragments trim) fallback = some v) :
    (fragments ≠ [] → ∃ t, normalize fragments trim = some t ∧ v = .text t) ∧
      (fragments = [] → v = (fallback.map DocValue.default).getD .absent) ∧ (v = .absent → mode = .optional) := by
  cases normal : normalize fragments trim with
  | none =>
    have no_text : fragments = [] := by
      unfold normalize at normal
      split at normal
      · next empty => exact List.isEmpty_iff.1 empty
      · split at normal <;> cases normal
    rw [normal] at h
    refine ⟨fun some_text => absurd no_text some_text, fun _ => ?_, ?_⟩
    · cases fallback <;> cases mode <;> cases h <;> rfl
    · cases fallback <;> cases mode <;> cases h <;> simp
  | some t =>
    rw [normal] at h
    obtain rfl : DocValue.text t = v := Option.some.inj h
    refine ⟨fun _ => ⟨t, rfl, rfl⟩, fun no_text => ?_, by simp⟩
    rw [no_text] at normal
    cases normal

theorem Members.Step.clear {k : MemberContext} {r r' : Members} {m : Member} (next : Members.Step k r m r')
    (h : r'.problems = none) : r.problems = none := by
  cases next with
  | failed => exact (Failure.combine_eq_none.1 h).1
  | _ => exact h

theorem items_of_fields {k : MemberContext} (fields : k.isVariants = false) (ms : List Member) :
    (ms.foldl (Members.step k) {}).problems = none →
      List.Forall₂ (fun m i => resolveMember k m = .ok i) ms (ms.foldl (Members.step k) {}).items := by
  refine Members.foldl_steps (P := fun ms r =>
    r.problems = none → List.Forall₂ (fun m i => resolveMember k m = .ok i) ms r.items) (fun _ => .nil) ?_ ms
  intro ms m r r' next ih clear
  have made := ih (next.clear clear)
  cases next with
  | failed => simp [Failure.combine_eq_none] at clear
  | plain _ item => exact List.rel_append made (.cons item .nil)
  | blank variants => simp [fields] at variants
  | again _ _ variants => simp [fields] at variants
  | fresh _ _ variants => simp [fields] at variants

/-- The members of the table `t` are resolved in the context `k`, with the lines that name the family of the table. -/
structure Makes (k : MemberContext) (r : Resolver) (t : DocTable) : Prop where
  optional : k.attr.optional = t.optional
  read : options (Directive.linesOf k.attr.base k.decl.directives) = .ok k.options
  resolved : settings r.base k.attr.base.levels.container k.options = .ok k.base
  own : ∀ m ∈ k.decl.members, (m.directives.filter fun x => Attribute.namesOneOf x.attr [k.attr.base.name]) =
    Directive.linesOf k.attr.base m.directives
  clear : (k.decl.members.foldl (Members.step k) {}).problems = none
  items : t.items = (k.decl.members.foldl (Members.step k) {}).items
  warnings : ∃ b ∈ (Validation.ofDeclaration k.decl).bindings, b.attr = k.attr ∧
    (resolveBinding r.base k.decl b).2 = (k.decl.members.foldl (Members.step k) {}).warnings

/-- **The item of a member is what its layers make of it**, and it may be without documentation in the optional form
only. -/
theorem Makes.fill {k : MemberContext} {r : Resolver} {t : DocTable} (h : Makes k r t)
    {c : Configuration} (hr : r.base = c.settings) (unnamed : k.attr.base.levels.container.accepts .rename = false)
    {m : Member} (hm : m ∈ k.decl.members) {i : TableItem} (made : resolveMember k m = .ok i) :
    Directive.Readable k.attr.base m.directives ∧ (Layers.ofMember c k.attr.base k.decl m).Fill m i ∧
      (i.docs = .absent → t.optional = true) := by
  obtain ⟨os, s, v, hos, hs', hv, rfl⟩ := resolveMember_ok made
  rw [h.own m hm] at hos
  obtain ⟨read, distinct, rfl⟩ := options_eq_ok_iff.1 hos
  obtain ⟨-, -, container⟩ := options_eq_ok_iff.1 h.read
  obtain ⟨trim, convention, fallback, rename⟩ := settings_of_layers (hr ▸ h.resolved) hs' unnamed
  have layers : (⟨lineOptions (Directive.linesOf k.attr.base m.directives), k.options, c.defaults.getD {}⟩ : Layers) =
      Layers.ofMember c k.attr.base k.decl m := by
    rw [← container]
    rfl
  rw [layers] at trim convention fallback
  have name := exposedName_of_layers (l := Layers.ofMember c k.attr.base k.decl m) rename convention m
  obtain ⟨chosen, -⟩ := docValue_ok hv
  rw [trim, fallback] at chosen
  obtain ⟨documented, undocumented, absent⟩ := docs_of_substitute? chosen
  refine ⟨⟨read, distinct⟩, ⟨rfl, by rw [name], by rw [name], documented, undocumented⟩, fun none_given => ?_⟩
  have optional := absent none_given
  rw [h.optional] at optional
  cases form : t.optional
  · rw [form] at optional
    cases optional
  · rfl

end Resolve

namespace Resolver

open Resolve

theorem exists_context {r : Resolver} {d : Declaration} {t : DocTable} (ht : t ∈ (r.process d).1.tables)
    {f : AttributeBase} (base : t.base = f.name) (members : f.levels.member ≠ none) :
    ∃ k : MemberContext, k.decl = d ∧ k.attr.base = f ∧ Makes k r t := by
  obtain ⟨p, level⟩ := Option.ne_none_iff_exists'.1 members
  obtain ⟨clean, -⟩ := process_succeeds_iff.1 (failure_of_mem_tables ht)
  obtain ⟨b, hb, made⟩ := exists_binding_of_mem_tables ht
  obtain ⟨-, named, optional, -⟩ := attribute_of_resolveBinding made
  obtain rfl : b.attr.base = f := eq_of_name_eq (named.symm.trans base)
  obtain ⟨os, s, hos, hs, made⟩ := resolveBinding_ok made
  have warnings := congrArg Prod.snd (resolveBinding_of (d := d) hos hs)
  rw [level] at made warnings
  rw [(Validation.sorts_ofDeclaration clean).linesOf_eq hb] at hos
  obtain ⟨clear, index, -, table⟩ := memberTable_ok made
  refine ⟨⟨d, b.attr, p, s, os⟩, rfl, rfl, optional.symm, hos, hs, fun m hm => ?_, clear,
    congrArg DocTable.items table, b, hb, rfl, warnings⟩
  exact Validation.linesOf_of_suits ((Validation.isClean_ofDeclaration_iff.1 clean).2 m hm) members

/-- **A table for fields has one item for each member, and each is resolved by precedence.** -/
theorem fields_by_precedence (c : Configuration) {r : Resolver} (hr : r.base = c.settings) {d : Declaration}
    {t : DocTable} (ht : t ∈ (r.process d).1.tables) (base : t.base = AttributeBase.documentedFields.name) :
    Directive.Readable .documentedFields d.directives ∧
      List.Forall₂ (fun m i => Directive.Readable .documentedFields m.directives ∧
        (Layers.ofMember c .documentedFields d m).Fill m i ∧ (i.docs = .absent → t.optional = true))
        d.members t.items := by
  obtain ⟨k, rfl, family, h⟩ := exists_context ht base (by simp [AttributeBase.levels])
  obtain ⟨read, distinct, -⟩ := options_eq_ok_iff.1 h.read
  have fields : k.isVariants = false := by
    rw [MemberContext.isVariants, family]
    rfl
  have made := (List.forall₂_and_left k.decl.members _).2 ⟨fun m hm => hm, items_of_fields fields _ h.clear⟩
  rw [← family, h.items]
  exact ⟨⟨read, distinct⟩, made.imp fun m i hmi => h.fill hr (by rw [family]; rfl) hmi.1 hmi.2⟩

end Resolver

/-- A type whose fields leave settings to the layers below them. -/
def sensor : Declaration where
  names := [⟨"Sensor", 10⟩]
  placement := .struct
  exported := true
  fragments := []
  directives := [⟨"documented_fields", "rename_all = \"snake_case\"", {}, 20⟩]
  members := [
    { name := "MaxTemp", placement := .field, pos := 30, fragments := [" Highest. "],
      directives := [⟨"documented_fields", "trim = true", {}, 40⟩] },
    { name := "_", placement := .field, pos := 50, fragments := [], directives := [] },
    { name := "Key", placement := .field, pos := 60, fragments := [" Key. "],
      directives := [⟨"documented_fields", "rename = \"ID\"", {}, 70⟩] }]
  file := "sensor.go"

/-- Defaults of which one names no convention. -/
def plainDefaults : Configuration where
  defaults := some { trim := some false, renameAll := some "sideways", default := some "unknown" }

theorem fields_by_precedence_sensor :
    ∃ t ∈ ((Resolver.ofConfiguration plainDefaults).process sensor).1.tables,
      t.base = AttributeBase.documentedFields.name ∧
      List.Forall₂ (fun m i => (Layers.ofMember plainDefaults .documentedFields sensor m).Fill m i) sensor.members
        t.items ∧
      sensor.members.map (fun m => (Layers.ofMember plainDefaults .documentedFields sensor m).name m) =
        [some (text "max_temp"), none, some (text "ID")] := by
  have bases : ((Resolver.ofConfiguration plainDefaults).process sensor).1.tables.map (·.base) =
      [AttributeBase.documentedFields.name] := by
    decide +kernel
  obtain ⟨t, ht, base⟩ := List.mem_map.1 (bases ▸ List.mem_singleton_self AttributeBase.documentedFields.name)
  obtain ⟨-, items⟩ := Resolver.fields_by_precedence plainDefaults rfl ht base
  exact ⟨t, ht, base, items.imp fun m i h => h.2.1, by decide +kernel⟩

end DocAccessors
