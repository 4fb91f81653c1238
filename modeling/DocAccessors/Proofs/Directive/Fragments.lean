import DocAccessors.Configuration.Validate
import DocAccessors.Proofs.Directive.Position

/-!
# Directives are no documentation

Two recognizers look at the same comments: one reads directives by the namespace that is configured, the other tells
comments for tools from documentation by the bytes around the first colon. Namespaces and attributes are made of such
bytes, so a directive with a known attribute is always a comment for tools.

* `IsNamespace`, `isNamespace_of_valid`: the namespaces that a configuration can have;
* `IsForTools`, `isToolComment_iff`: the comments that are not documentation;
* `Documents`, `fragment?_of_isComment`: what any other comment contributes;
* `isForTools_of_known`: where the two recognizers meet;
* `fragments_of_comments`: the documentation in a group of comments.
-/

namespace DocAccessors

/-! ## Namespaces -/

/-- A namespace that can be configured: lower-case letters and digits of ASCII, at least one. -/
def IsNamespace (space : Text) : Prop := space ≠ [] ∧ ∀ b ∈ space, isToolByte b = true

theorem Text.simpleLower_ascii {t : Text} (ascii : ∀ b ∈ t, b < 0x80) : Text.simpleLower t = t.map Text.lowerByte := by
  have one : ∀ b : UInt8, b < 0x80 → Text.ofChar (Text.toLower (Text.Glyph.ascii b).char) = [Text.lowerByte b] := by
    decide +kernel
  have glyphs := Text.glyphs_ascii_append t ascii []
  rw [List.append_nil] at glyphs
  rw [Text.simpleLower, Text.chars, glyphs, Text.glyphs, List.append_nil, List.map_map, List.flatMap_map,
    ← List.flatMap_singleton' (t.map _), List.flatMap_map]
  exact List.flatMap_congr fun b hb => one b (ascii b hb)

/-- A text of ASCII letters and digits that lower case leaves as it is has no capitals. -/
theorem isNamespace_of_lower {t : Text} (lower : isLowerCase t = true) (alphanumeric : isAlphanumeric t = true) :
    IsNamespace t := by
  have small : ∀ b : UInt8, (Text.isDigitByte b || Text.isLowerByte b || Text.isUpperByte b) = true → b < 0x80 := by
    decide +kernel
  have tool : ∀ b : UInt8, (Text.isDigitByte b || Text.isLowerByte b || Text.isUpperByte b) = true →
      Text.lowerByte b = b → isToolByte b = true := by
    decide +kernel
  unfold isAlphanumeric at alphanumeric
  unfold isLowerCase at lower
  simp only [Bool.and_eq_true, Bool.not_eq_true', List.isEmpty_eq_false_iff, List.all_eq_true, beq_iff_eq]
    at alphanumeric lower
  obtain ⟨some_byte, bytes⟩ := alphanumeric
  have same := lower.2
  rw [Text.simpleLower_ascii fun b hb => small b (bytes b hb)] at same
  exact ⟨some_byte, fun b hb => tool b (bytes b hb) (List.map_inj_left.1 (same.trans (List.map_id' t).symm) b hb)⟩

/-- **A valid configuration has a namespace of lower-case letters and digits.** -/
theorem isNamespace_of_valid {c : Configuration} (valid : c.problem? = none) : IsNamespace c.directiveSpace := by
  have none_broken : c.violations = [] := by
    unfold Configuration.problem? at valid
    split at valid
    · next none_broken => exact none_broken
    · cases valid
  unfold Configuration.violations at none_broken
  simp only [List.append_eq_nil_iff] at none_broken
  obtain ⟨⟨⟨⟨⟨⟨-, rules⟩, -⟩, -⟩, -⟩, -⟩, -⟩ := none_broken
  cases space : c.space with
  | none => simp [space, required] at rules
  | some s =>
    simp [space, required, firstBroken] at rules
    have namespaced := isNamespace_of_lower rules.1 rules.2
    unfold Configuration.directiveSpace
    rw [space]
    simpa [namespaced.1] using namespaced

/-! ## Comments for tools -/

/-- Comments as they can stand in source: a line comment goes up to the end of its line, a general comment up to the
first mark that closes it. -/
inductive IsComment : Text → Prop
  | line {t : Text} (one_line : 10 ∉ t) : IsComment (text "//" ++ t)
  | general {t : Text} (open_inside : ¬ text "*/" <:+: t) : IsComment (text "/*" ++ t ++ text "*/")

/-- Line comments that are not documentation: those that start with one of three words and a blank, and those that start
with a word of lower-case letters and digits, a colon and one more such byte. -/
inductive IsForTools : Text → Prop
  | lineWord (rest : Text) : IsForTools (text "//line " ++ rest)
  | externWord (rest : Text) : IsForTools (text "//extern " ++ rest)
  | exportWord (rest : Text) : IsForTools (text "//export " ++ rest)
  | tool {word : Text} {b : UInt8} (rest : Text) (namespaced : IsNamespace word) (first : isToolByte b = true) :
    IsForTools (text "//" ++ (word ++ 58 :: b :: rest))

/-- Before the first occurrence of a byte there is none. -/
theorem Text.indexOf?_eq_some_iff {t : Text} {b : UInt8} {i : Nat} :
    Text.indexOf? t b = some i ↔ ∃ before rest, t = before ++ b :: rest ∧ b ∉ before ∧ before.length = i := by
  constructor
  · intro found
    obtain ⟨bound, here, earlier⟩ := List.findIdx?_eq_some_iff_getElem.1 found
    obtain rfl := beq_iff_eq.1 here
    refine ⟨t.take i, t.drop (i + 1), ?_, fun mem => ?_, List.length_take_of_le (Nat.le_of_lt bound)⟩
    · rw [List.getElem_cons_drop, List.take_append_drop]
    · obtain ⟨j, hj, same⟩ := List.mem_take_iff_getElem.1 mem
      exact earlier j (by omega) (beq_iff_eq.2 same)
  · rintro ⟨before, rest, rfl, absent, rfl⟩
    have none_before : before.findIdx? (· == b) = none :=
      List.findIdx?_eq_none_iff.2 fun x hx => by simpa using ne_of_mem_of_not_mem hx absent
    rw [Text.indexOf?, List.findIdx?_append, none_before]
    simp [List.findIdx?_cons]

theorem Text.startsWith_iff {t p : Text} : Text.startsWith t p = true ↔ ∃ rest, t = p ++ rest := by
  unfold Text.startsWith
  rw [List.isPrefixOf_iff_prefix]
  exact exists_congr fun rest => eq_comm

/-- Whether a byte is the first one behind a namespace and a colon. -/
theorem exists_namespace_iff {t : Text} :
    (Text.indexOf? t 58).any (fun i => 0 < i && (t.take i).all isToolByte && (t[i + 1]?).any isToolByte) = true ↔
      ∃ word b rest, IsNamespace word ∧ isToolByte b = true ∧ t = word ++ 58 :: b :: rest := by
  have colon : isToolByte 58 = false := by decide
  constructor
  · intro recognized
    obtain ⟨i, found, recognized⟩ := (Option.any_eq_true _ _).1 recognized
    obtain ⟨word, behind, rfl, -, rfl⟩ := Text.indexOf?_eq_some_iff.1 found
    simp only [Bool.and_eq_true, decide_eq_true_eq, List.take_left, List.all_eq_true, Option.any_eq_true] at recognized
    obtain ⟨⟨some_byte, bytes⟩, b, next, first⟩ := recognized
    rw [List.getElem?_append_right (Nat.le_add_right _ 1), Nat.add_sub_cancel_left, List.getElem?_cons_succ,
      ← List.head?_eq_getElem?] at next
    obtain ⟨rest, rfl⟩ := List.head?_eq_some_iff.1 next
    exact ⟨word, b, rest, ⟨List.ne_nil_of_length_pos some_byte, bytes⟩, first, rfl⟩
  · rintro ⟨word, b, rest, ⟨some_byte, bytes⟩, first, rfl⟩
    have absent : (58 : UInt8) ∉ word := fun mem => by simpa [colon] using bytes 58 mem
    rw [Text.indexOf?_eq_some_iff.2 ⟨word, b :: rest, rfl, absent, rfl⟩]
    simp [List.length_pos_iff.2 some_byte, List.all_eq_true.2 bytes, first]

/-- A line comment without its slashes. -/
theorem isToolText_iff {t : Text} : isToolText t = true ↔ IsForTools (text "//" ++ t) := by
  have recognizes : isToolText t = (Text.startsWith t "line " || Text.startsWith t "extern " ||
      Text.startsWith t "export " ||
      (Text.indexOf? t 58).any fun i => 0 < i && (t.take i).all isToolByte && (t[i + 1]?).any isToolByte) := by
    unfold isToolText
    cases Text.indexOf? t 58 <;> rfl
  rw [recognizes, Bool.or_eq_true, Bool.or_eq_true, Bool.or_eq_true, exists_namespace_iff]
  simp only [Text.startsWith_iff]
  constructor
  · rintro (((⟨rest, rfl⟩ | ⟨rest, rfl⟩) | ⟨rest, rfl⟩) | ⟨word, b, rest, namespaced, first, rfl⟩)
    · exact .lineWord rest
    · exact .externWord rest
    · exact .exportWord rest
    · exact .tool rest namespaced first
  · generalize whole : text "//" ++ t = c
    rintro (rest | rest | rest | ⟨rest, namespaced, first⟩)
    · exact .inl (.inl (.inl ⟨rest, List.append_cancel_left whole⟩))
    · exact .inl (.inl (.inr ⟨rest, List.append_cancel_left whole⟩))
    · exact .inl (.inr ⟨rest, List.append_cancel_left whole⟩)
    · exact .inr ⟨_, _, rest, namespaced, first, List.append_cancel_left whole⟩

/-- Comments for tools are line comments. -/
theorem IsForTools.exists_body {c : Text} (tools : IsForTools c) : ∃ t, c = text "//" ++ t := by
  rcases tools with rest | rest | rest | ⟨rest, -, -⟩ <;> exact ⟨_, rfl⟩

/-- **The comments that are no documentation.** -/
theorem isToolComment_iff {c : Text} : isToolComment c = true ↔ IsForTools c := by
  unfold isToolComment Text.dropStart?
  split
  · next starts =>
    obtain ⟨t, rfl⟩ := Text.startsWith_iff.1 starts
    rw [List.drop_left, Option.map_some, Option.getD_some, isToolText_iff]
  · next other =>
    exact iff_of_false Bool.false_ne_true fun tools => other (Text.startsWith_iff.2 tools.exists_body)

instance (c : Text) : Decidable (IsForTools c) := decidable_of_iff _ isToolComment_iff

/-! ## What a comment contributes -/

/-- What a comment says: what stands between its marks, in a line comment without a carriage return at the end. -/
inductive Documents : Text → Text → Prop
  | line {t : Text} (ends : ¬ text "\r" <:+ t) : Documents (text "//" ++ t) t
  | lineReturn (t : Text) : Documents (text "//" ++ (t ++ text "\r")) t
  | general (t : Text) : Documents (text "/*" ++ t ++ text "*/") t

/-- A line comment that is no comment for tools contributes its text. -/
theorem documents_dropEnd (t : Text) : Documents (text "//" ++ t) (Text.dropEnd t "\r") := by
  unfold Text.dropEnd Text.endsWith
  split
  · next ends =>
    obtain ⟨before, rfl⟩ := List.isSuffixOf_iff_suffix.1 ends
    rw [List.length_append, Nat.add_sub_cancel, List.take_left]
    exact .lineReturn before
  · next ends => exact .line fun suffix => ends (List.isSuffixOf_iff_suffix.2 suffix)

/-- **What a comment contributes**: nothing if it is for tools, and else its text. -/
theorem fragment?_of_isComment {c : Text} (comment : IsComment c) :
    if IsForTools c then fragment? c = none else ∃ t, fragment? c = some t ∧ Documents c t := by
  unfold fragment?
  cases comment with
  | line one_line =>
    next body =>
    rw [if_pos (Text.startsWith_iff.2 ⟨body, rfl⟩)]
    split
    · next tools => rw [if_pos (isToolComment_iff.2 tools)]
    · next other =>
      rw [if_neg fun tools => other (isToolComment_iff.1 tools)]
      exact ⟨_, rfl, documents_dropEnd body⟩
  | general open_inside =>
    next body =>
    have slash : ¬ ∃ t, text "/*" ++ body ++ text "*/" = text "//" ++ t := by
      rintro ⟨t, whole⟩
      cases whole
    have starts : Text.startsWith (text "/*" ++ body ++ text "*/") "/*" = true :=
      Text.startsWith_iff.2 ⟨body ++ text "*/", List.append_assoc ..⟩
    have ends : Text.endsWith (text "/*" ++ body ++ text "*/") "*/" = true :=
      List.isSuffixOf_iff_suffix.2 (List.suffix_append _ _)
    rw [if_neg fun tools => slash (IsForTools.exists_body tools), if_neg fun line => slash (Text.startsWith_iff.1 line),
      if_pos (by rw [starts, ends]; rfl)]
    refine ⟨body, ?_, .general body⟩
    have length : (text "/*" ++ body ++ text "*/").length - 4 = body.length := by
      simp only [List.length_append, show (text "/*").length = 2 from rfl, show (text "*/").length = 2 from rfl]
      omega
    have inside : (text "/*" ++ (body ++ text "*/")).drop 2 = body ++ text "*/" := rfl
    rw [length, List.append_assoc, inside, List.take_left]

/-! ## Directives -/

namespace Directive

/-- Whether a comment is a directive of the namespace with an attribute that is known. -/
def isKnown (space : Text) (c : PlacedComment) : Bool :=
  (ofComment? space c).any fun d => (Attribute.lookup? d.attr).isSome

/-- A text without white space stays as it is when it is trimmed. -/
theorem trim_of_solid {n : Text} (solid : ∀ g ∈ Text.glyphs n, Text.isSpace g.char = false) : Text.trim n = n := by
  have start : (Text.glyphs n).dropWhile (fun g => Text.isSpace g.char) = Text.glyphs n :=
    List.dropWhile_eq_self_iff.2 fun some_glyph => by simp [solid]
  have stop : (Text.glyphs n).rdropWhile (fun g => Text.isSpace g.char) = Text.glyphs n :=
    List.rdropWhile_eq_self_iff.2 fun some_glyph => by simp [solid]
  rw [Text.trim_eq, Text.trimGlyphs, start, stop, Text.ofGlyphs_glyphs]

/-- The names of attributes start with a byte that stands in comments for tools. -/
theorem exists_toolByte_of_known {n : Text} (solid : ∀ g ∈ Text.glyphs n, Text.isSpace g.char = false)
    (known : (Attribute.lookup? n).isSome = true) : ∃ b rest, n = b :: rest ∧ isToolByte b = true := by
  have names : ∀ a ∈ Attribute.all, ∀ m ∈ a.name :: a.aliases, m.head?.any isToolByte = true := by decide
  have listed : ∃ a ∈ Attribute.all, n ∈ a.name :: a.aliases := by
    unfold Attribute.lookup? Attribute.normalizeName at known
    rw [trim_of_solid solid] at known
    dsimp only at known
    split at known
    · next a found =>
      have named : a.name = n := beq_iff_eq.1 (List.find?_some found :)
      exact ⟨a, List.mem_of_find?_eq_some found, named ▸ List.mem_cons_self ..⟩
    · rw [Option.isSome_map, List.find?_isSome] at known
      obtain ⟨a, ha, deprecated⟩ := known
      exact ⟨a, ha, List.mem_cons_of_mem _ (List.contains_iff_mem.1 deprecated)⟩
  obtain ⟨a, ha, hn⟩ := listed
  obtain ⟨b, first, tool⟩ := (Option.any_eq_true _ _).1 (names a ha n hn)
  obtain ⟨rest, rfl⟩ := List.head?_eq_some_iff.1 first
  exact ⟨b, rest, rfl, tool⟩

/-- **A directive of a namespace with a known attribute is a comment for tools.** -/
theorem isForTools_of_known {space : Text} {c : PlacedComment} (namespaced : IsNamespace space)
    (known : isKnown space c = true) : IsForTools c.text := by
  obtain ⟨d, found, known⟩ := (Option.any_eq_true _ _).1 known
  obtain ⟨body, starts, rfl⟩ := Option.map_eq_some_iff.1 found
  have whole : c.text = lead space ++ body := by
    unfold Text.dropStart? at starts
    split at starts
    · next lead =>
      obtain ⟨t, whole⟩ := Text.startsWith_iff.1 lead
      rw [whole, List.drop_left] at starts
      rw [whole, Option.some.inj starts]
    · cases starts
  have cut := cutFrom_readBody whole
  obtain ⟨b, rest, attr, tool⟩ := exists_toolByte_of_known cut.attr_solid known
  obtain ⟨before, after, text_eq, -⟩ := cut.cut
  have named : spaceOf space = space := if_neg (by simpa using namespaced.1)
  have colon : text ":" = [58] := rfl
  rw [text_eq, attr, lead_eq, named, colon]
  simp only [List.append_assoc, List.cons_append, List.nil_append]
  exact .tool _ namespaced tool

end Directive

/-- **Directives are no documentation.** Let a namespace be one that a configuration can have. Directives of the
namespace with known attributes contribute nothing to the documentation in a group of comments, and are among the
comments for tools; each other comment that is not for tools contributes its text, in order. -/
theorem fragments_of_comments (space : Text) (namespaced : IsNamespace space) (cs : List PlacedComment)
    (comments : ∀ c ∈ cs, IsComment c.text) :
    (∀ c ∈ cs, Directive.isKnown space c = true → fragments [c.text] = [] ∧ IsForTools c.text) ∧
    List.Forall₂ (fun c t => Documents c.text t)
      (cs.filter fun c => !Directive.isKnown space c && !decide (IsForTools c.text)) (fragments (cs.map (·.text))) ∧
    (∀ config : Configuration, config.problem? = none → IsNamespace config.directiveSpace) := by
  refine ⟨fun c hc known => ?_, ?_, fun config valid => isNamespace_of_valid valid⟩
  · have tools := Directive.isForTools_of_known namespaced known
    have contributes := fragment?_of_isComment (comments c hc)
    rw [if_pos tools] at contributes
    exact ⟨by simp [fragments, contributes], tools⟩
  · induction cs with
    | nil => exact .nil
    | cons c cs ih =>
      have rest := ih fun c' hc' => comments c' (List.mem_cons_of_mem _ hc')
      have contributes := fragment?_of_isComment (comments c (List.mem_cons_self ..))
      rw [fragments] at rest ⊢
      rw [List.map_cons, List.filter_cons, List.filterMap_cons]
      by_cases tools : IsForTools c.text
      · rw [if_pos tools] at contributes
        rw [if_neg (by simp [tools]), contributes]
        exact rest
      · have unknown : Directive.isKnown space c = false := by
          rw [Bool.eq_false_iff]
          exact fun known => tools (Directive.isForTools_of_known namespaced known)
        rw [if_neg tools] at contributes
        obtain ⟨t, contributed, documents⟩ := contributes
        rw [if_pos (by simp [tools, unknown]), contributed]
        exact .cons documents rest

/-- Documentation between directives of two namespaces. -/
def mixedComments : List PlacedComment := [
  ⟨10, "// First line.\r"⟩, ⟨30, "//docs2:documented_fields trim = false"⟩, ⟨70, "//go:generate gondoc"⟩,
  ⟨100, "//docs2: prose"⟩, ⟨120, "/* block\n   comment */"⟩]

theorem fragments_of_comments_mixed : IsNamespace "docs2" ∧ (∀ c ∈ mixedComments, IsComment c.text) ∧
    List.Forall₂ (fun c t => Documents c.text t)
      (mixedComments.filter fun c => !Directive.isKnown "docs2" c && !decide (IsForTools c.text))
      [" First line.", "docs2: prose", " block\n   comment "] := by
  have namespaced : IsNamespace "docs2" := by
    unfold IsNamespace
    decide
  have comments : ∀ c ∈ mixedComments, IsComment c.text := by
    intro c hc
    simp only [mixedComments, List.mem_cons, List.not_mem_nil, or_false] at hc
    rcases hc with rfl | rfl | rfl | rfl | rfl
    · exact .line (t := " First line.\r") (by decide)
    · exact .line (t := "docs2:documented_fields trim = false") (by decide)
    · exact .line (t := "go:generate gondoc") (by decide)
    · exact .line (t := "docs2: prose") (by decide)
    · exact .general (t := " block\n   comment ") (by decide)
  have texts : fragments (mixedComments.map (·.text)) = [text " First line.", "docs2: prose", " block\n   comment "] := by
    decide
  obtain ⟨-, documented, -⟩ := fragments_of_comments "docs2" namespaced mixedComments comments
  rw [texts] at documented
  exact ⟨namespaced, comments, documented⟩

end DocAccessors
