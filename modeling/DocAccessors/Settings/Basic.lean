import DocAccessors.Directive.Option
import DocAccessors.Text.LetterCase
import DocAccessors.Text.Words

/-!
# Settings

The settings for one declaration or member, put together from layers of options.

* `CaseConvention.convert` writes a name in a convention;
* `Profile`: the keys that one level accepts;
* `Settings.resolve` applies layers in order: each option sets its own field, and the last one wins; with an
  option that the profile does not accept, nothing is applied;
* `Settings.exposedName` is the name that an item is published under.
-/

namespace DocAccessors

/-- A name written in a convention. The first two conventions change only letters; the others cut the name into
words. -/
def CaseConvention.convert [Text.WordRules] (c : CaseConvention) (name : Text) : Text :=
  match c with
  | .lower => Text.lowerCase name
  | .upper => Text.upperCase name
  | .pascal => Text.WordRules.join true name
  | .camel => Text.WordRules.join false name
  | .snake => Text.WordRules.delimit 95 false name
  | .screamingSnake => Text.WordRules.delimit 95 true name
  | .kebab => Text.WordRules.delimit 45 false name
  | .screamingKebab => Text.WordRules.delimit 45 true name

/-- The keys that one level accepts. -/
structure Profile where
  name : Text
  kinds : KeySet

namespace Profile

def accepts (p : Profile) (k : OptionKind) : Bool := p.kinds.contains k

/-- A constant for a declaration. -/
def item : Profile := ⟨"item", [.vis, .rename, .default, .trim]⟩

/-- A type as a whole, or an enum with its constants. -/
def type : Profile := ⟨"type", [.default, .trim]⟩

/-- A type with its fields. -/
def container : Profile := ⟨"container", [.renameAll, .default, .trim]⟩

def member : Profile := ⟨"member", [.rename, .renameAll, .default, .trim]⟩

/-- A constant of an enum. -/
def variant : Profile := ⟨"variant", [.default, .trim]⟩

def all : List Profile := [item, type, container, member, variant]

end Profile

/-- The settings for one item; what no layer sets is unset. -/
structure Settings where
  visibility : Option Visibility := none
  customName : Option Text := none
  renameCase : Option CaseConvention := none
  defaultExpr : Option Text := none
  trim : Bool := true
  deriving DecidableEq, Repr

namespace Settings

def apply (s : Settings) : OptionValue → Settings
  | .vis v => { s with visibility := some v }
  | .rename n => { s with customName := some n }
  | .renameAll c => { s with renameCase := some c }
  | .default e => { s with defaultExpr := some e }
  | .trim b => { s with trim := b }

/-- What is said about an option that a profile does not accept. -/
def inapplicable (o : ReadOption) : Diagnostic :=
  Diagnostic.error .inapplicableOption o.span (text "option `" ++ o.kind.name ++ text "` is not applicable here")

/-- The settings after layers of options; unchanged, with a failure, if one of the options does not apply. -/
def resolve (base : Settings) (p : Profile) (layers : List (List ReadOption)) : Settings × Option Failure :=
  let os := layers.flatten
  match os.filter fun o => !p.accepts o.kind with
  | [] => (os.foldl (fun s o => s.apply o.value) base, none)
  | bad => (base, some (.diagnosed (bad.map inapplicable)))

/-- The name that an item is published under. A custom name wins over a convention; an item without a name has
only a custom one. -/
def exposedName (s : Settings) (name : Text) : Option Text :=
  match s.customName with
  | some n => some n
  | none =>
    if name.isEmpty then none
    else match s.renameCase with
      | some c => some (c.convert name)
      | none => some name

end Settings

end DocAccessors
