import DocAccessors.Directive.Basic
import DocAccessors.Proofs.Directive.ValueSpan
import DocAccessors.Proofs.Source.Word
import DocAccessors.Proofs.Text.Lines
import Mathlib.Data.List.Forall2

/-!
# Where directives stand

A directive knows the positions of its name and of its arguments, and each option the position of its key. All of them
lead back to the comment: the bytes there are what they are said to be.

* `Span.Covers`: a span covers a part of a text;
* `keySpan_covers`, `keySpans_apart`: the span of the key of an option covers the key, and keys stand one behind the other;
* `Text.exists_trimStart`, `Text.exists_trimEnd`: what trimming takes away;
* `Directive.CutFrom`: a directive is cut out of a comment;
* `readAll_cut`: the directives of comments are cut out of those that start as directives do.
-/

namespace DocAccessors

open DocAccessors.Source (tokensOf tokensOf_apart words_apart)

/-- A span covers a part of a text that stands at `base`. -/
def Span.Covers (s : Span) (part src : Text) (base : Pos) : Prop :=
  ∃ before after, src = before ++ part ++ after ∧ s.pos = base + before.length ∧ s.stop = s.pos + part.length

theorem Span.Covers.trans {s : Span} {part mid src : Text} {base pos : Pos} (inner : s.Covers part mid pos)
    (outer : (Span.ofLength pos mid.length).Covers mid src base) : s.Covers part src base := by
  obtain ⟨before, after, rfl, start, stop⟩ := inner
  obtain ⟨before', after', rfl, pos_eq, -⟩ := outer
  refine ⟨before' ++ before, after ++ after', by simp only [List.append_assoc], ?_, stop⟩
  dsimp only [Span.ofLength] at pos_eq
  rw [start, pos_eq, List.length_append, Int.natCast_add, Int.add_assoc]

/-! ## Keys -/

namespace OptionList

variable {i : Input} {s : Segment} {o : ReadOption}

theorem key_of_readSegment (h : i.readSegment s = .ok o) :
    ∃ key rest, s.tokens = key :: rest ∧ key.token.isWord = true ∧ key.lit = o.kind.name ∧ o.span = i.tokenSpan key := by
  obtain ⟨key, equals, first, rest, tokens, name, named, mem, isEquals, value, -⟩ := option_of_readSegment h
  rw [Input.readSegment, tokens] at h
  dsimp only at h
  rw [if_neg (isName_iff.2 name), key?_eq_some.2 ⟨named, mem⟩] at h
  dsimp only at h
  rw [if_neg (by simp [isEquals]), Input.option, value] at h
  have spelled := List.find?_some named
  refine ⟨key, _, tokens, by simpa [Source.Token.isWord] using name, (beq_iff_eq.1 spelled).symm, ?_⟩
  rw [← Except.ok.inj h]

theorem keySpans_sublist (i : Input) (ss : List Segment) :
    ((i.optionsOf ss).map (·.span)).Sublist ((ss.flatMap Segment.all).map i.tokenSpan) := by
  induction ss with
  | nil => exact .slnil
  | cons s ss ih =>
    rw [List.flatMap_cons, List.map_append]
    unfold Input.optionsOf at ih ⊢
    cases read : i.readSegment s with
    | error d =>
      rw [List.filterMap_cons_none (by rw [read]; rfl)]
      exact ih.trans (List.sublist_append_right _ _)
    | ok o =>
      obtain ⟨key, rest, tokens, -, -, span⟩ := key_of_readSegment read
      rw [List.filterMap_cons_some (by rw [read]; rfl), List.map_cons, span, Segment.all, tokens, List.cons_append,
        List.map_cons, List.cons_append]
      exact (ih.trans (List.sublist_append_right _ _)).cons_cons _

end OptionList

open OptionList

/-- **The span of the key of an option covers the key.** -/
theorem keySpan_covers {src : Text} {base : Pos} {keys : KeySet} {o : ReadOption} (h : o ∈ (readOptions src base keys).1) :
    o.span.Covers o.kind.name src base := by
  obtain ⟨-, s, segment, read⟩ := exists_segment h
  obtain ⟨key, rest, tokens, word, lit, span⟩ := key_of_readSegment read
  have mem : key ∈ tokensOf src := (Segment.tokens_infix segment).subset (by simp [tokens])
  obtain ⟨spelled, after, stands⟩ := (words_apart [] src).2 key (List.mem_filter.1 mem).1 word
  have inside : (src.take key.offset).length = key.offset := by
    have lengths := congrArg List.length stands
    have positive := List.length_pos_iff.2 spelled
    rw [List.length_append, List.length_drop] at lengths
    rw [List.length_take]
    omega
  refine ⟨src.take key.offset, after, ?_, ?_, ?_⟩
  · rw [← lit, List.append_assoc, stands, List.take_append_drop]
  · rw [span, inside]
    rfl
  · rw [span, ← lit, ← Source.tokenLength_of_lit spelled]
    rfl

/-- **The keys of options stand one behind the other.** -/
theorem keySpans_apart (src : Text) (base : Pos) (keys : KeySet) :
    (readOptions src base keys).1.Pairwise fun a b => a.span.pos < b.span.pos ∧ a.span.stop ≤ b.span.pos := by
  have ordered : ((readOptions src base keys).1.map (·.span)).Pairwise fun a b => a.stop ≤ b.pos := by
    by_cases faulty : ∃ l ∈ (Source.lex [] src).1, l.faults ≠ []
    · rw [readOptions_of_fault faulty]
      exact .nil
    · have clean : ∀ l ∈ (Source.lex [] src).1, l.faults = [] := by simpa using faulty
      have keys_sublist := keySpans_sublist ⟨src, base, keys⟩ (segments (tokensOf src))
      rw [flatMap_segments] at keys_sublist
      rw [readOptions_of_clean clean]
      refine List.Pairwise.sublist keys_sublist (List.pairwise_map.2 ((tokensOf_apart clean).1.imp fun {a b} apart => ?_))
      have apart : (a.offset : Int) + tokenLength a ≤ b.offset := by exact_mod_cast apart
      exact (Int.add_assoc base _ _).trans_le (Int.add_le_add_left apart base)
  refine (List.pairwise_map.1 ordered).imp_of_mem fun {a b} ha _ before => ⟨?_, before⟩
  obtain ⟨-, -, -, -, stop⟩ := keySpan_covers ha
  have some_byte : ∀ kind ∈ OptionKind.all, 0 < kind.name.length := by decide
  have positive : (0 : Int) < a.kind.name.length := Int.natCast_pos.2 (some_byte a.kind (mem_kinds _))
  exact Int.lt_of_lt_of_le (Int.lt_add_of_pos_right _ positive) (stop ▸ before)

/-! ## White space -/

namespace Text

/-- A text of white space. -/
def IsBlank (t : Text) : Prop := ∀ g ∈ glyphs t, isSpace g.char = true

/-- A text falls into the part before the first glyph that is not of a kind, and the part from there on. -/
theorem exists_dropWhile (p : Glyph → Bool) (t : Text) :
    t = ofGlyphs ((glyphs t).takeWhile p) ++ ofGlyphs ((glyphs t).dropWhile p) ∧
      glyphs (ofGlyphs ((glyphs t).takeWhile p)) = (glyphs t).takeWhile p ∧
      glyphs (ofGlyphs ((glyphs t).dropWhile p)) = (glyphs t).dropWhile p := by
  have cut : glyphs t = (glyphs t).takeWhile p ++ (glyphs t).dropWhile p := List.takeWhile_append_dropWhile.symm
  refine ⟨?_, glyphs_of_append cut⟩
  calc t = ofGlyphs ((glyphs t).takeWhile p ++ (glyphs t).dropWhile p) := by rw [← cut, ofGlyphs_glyphs]
    _ = ofGlyphs ((glyphs t).takeWhile p) ++ ofGlyphs ((glyphs t).dropWhile p) := List.flatMap_append

/-- What is cut off the start of a text is white space, and what is left does not start with any. -/
theorem exists_trimStart (t : Text) :
    ∃ before, t = before ++ trimStart t ∧ IsBlank before ∧ ∀ g ∈ (glyphs (trimStart t)).head?, isSpace g.char = false := by
  obtain ⟨split, blank, rest⟩ := exists_dropWhile (fun g => isSpace g.char) t
  refine ⟨_, split, fun g hg => ?_, fun g first => ?_⟩
  · rw [blank] at hg
    exact List.mem_takeWhile_imp (p := fun g : Glyph => isSpace g.char) hg
  · rw [glyphs_trimStart] at first
    have other := List.head?_dropWhile_not (fun g : Glyph => isSpace g.char) (glyphs t)
    rw [Option.mem_def.1 first] at other
    simpa using other

/-- What is cut off the end of a text is white space, and what is left does not end with any. -/
theorem exists_trimEnd (t : Text) :
    ∃ after, t = trimEnd t ++ after ∧ IsBlank after ∧ glyphs t = glyphs (trimEnd t) ++ glyphs after ∧
      ∀ g ∈ (glyphs (trimEnd t)).getLast?, isSpace g.char = false := by
  have cut : glyphs t =
      (glyphs t).rdropWhile (fun g => isSpace g.char) ++ (glyphs t).rtakeWhile fun g => isSpace g.char := by
    simp [List.rdropWhile, List.rtakeWhile, ← List.reverse_append]
  obtain ⟨kept, dropped⟩ := glyphs_of_append cut
  refine ⟨ofGlyphs ((glyphs t).rtakeWhile fun g => isSpace g.char), ?_, fun g hg => ?_, ?_, fun g last => ?_⟩
  · calc t = ofGlyphs (glyphs t) := (ofGlyphs_glyphs t).symm
      _ = trimEnd t ++ ofGlyphs ((glyphs t).rtakeWhile fun g => isSpace g.char) := by
        conv => lhs; rw [cut]
        exact List.flatMap_append
  · rw [dropped] at hg
    exact List.mem_rtakeWhile_imp (p := fun g : Glyph => isSpace g.char) hg
  · rw [glyphs_trimEnd, dropped, ← cut]
  · rw [glyphs_trimEnd] at last
    obtain ⟨some_glyph, rfl⟩ := List.mem_getLast?_eq_getLast last
    simpa using List.rdropWhile_last_not _ _ some_glyph

end Text

/-! ## Directives -/

namespace Directive

/-- What a namespace is called in comments; the empty one is the default one. -/
def spaceOf (space : Text) : Text := if space.isEmpty then defaultNamespace else space

/-- **A directive is cut out of a comment**: the comment consists of the lead, the attribute, white space, the arguments
and white space, and the positions that the directive and its options know are those of their bytes. -/
structure CutFrom (space : Text) (c : PlacedComment) (d : Directive) : Prop where
  /-- The white space before the arguments and behind them. -/
  cut : ∃ before after, c.text = lead space ++ d.attr ++ before ++ d.args ++ after ∧
    Text.IsBlank before ∧ Text.IsBlank after ∧ (before = [] → d.args = []) ∧
    d.argsPos = c.pos + (lead space ++ d.attr ++ before).length
  attr_solid : ∀ g ∈ Text.glyphs d.attr, Text.isSpace g.char = false
  args_head : ∀ g ∈ (Text.glyphs d.args).head?, Text.isSpace g.char = false
  args_last : ∀ g ∈ (Text.glyphs d.args).getLast?, Text.isSpace g.char = false
  name : d.nameSpan.Covers (spaceOf space ++ text ":" ++ d.attr) c.text c.pos
  keys (keys : KeySet) : ∀ o ∈ (d.options keys).1, o.span.Covers o.kind.name c.text c.pos ∧
    d.argsPos ≤ o.span.pos ∧ o.span.stop ≤ d.argsPos + d.args.length
  apart (keys : KeySet) : (d.options keys).1.Pairwise fun a b => a.span.pos < b.span.pos ∧ a.span.stop ≤ b.span.pos

variable {space body : Text} {c : PlacedComment}

theorem lead_eq (space : Text) : lead space = text "//" ++ (spaceOf space ++ text ":") := by
  rw [← List.append_assoc]
  rfl

theorem length_lead (space : Text) : (lead space).length - 2 = (spaceOf space ++ text ":").length := by
  have slashes : (text "//").length = 2 := rfl
  rw [lead_eq, List.length_append, slashes, Nat.add_sub_cancel_left]

/-- A text whose first glyph is white space, and is not, has none. -/
theorem eq_nil_of_head? {t : Text} (starts : ∀ g ∈ (Text.glyphs t).head?, Text.isSpace g.char = true)
    (same : ∀ g ∈ (Text.glyphs t).head?, Text.isSpace g.char = false) : t = [] := by
  have none : Text.glyphs t = [] := by
    rw [← List.head?_eq_none_iff, Option.eq_none_iff_forall_not_mem]
    intro g first
    simpa [starts g first] using same g first
  rw [← Text.ofGlyphs_glyphs t, none]
  rfl

/-- A body falls into the attribute, white space, the arguments and white space. -/
theorem readBody_split (space : Text) (c : PlacedComment) (body : Text) :
    ∃ before after, body = (readBody space c body).attr ++ before ++ (readBody space c body).args ++ after ∧
      Text.IsBlank before ∧ Text.IsBlank after ∧ (before = [] → (readBody space c body).args = []) ∧
      (readBody space c body).argsPos = c.pos + (c.text.length - ((readBody space c body).args ++ after).length : Nat) ∧
      (∀ g ∈ Text.glyphs (readBody space c body).attr, Text.isSpace g.char = false) ∧
      (∀ g ∈ (Text.glyphs (readBody space c body).args).head?, Text.isSpace g.char = false) ∧
      ∀ g ∈ (Text.glyphs (readBody space c body).args).getLast?, Text.isSpace g.char = false := by
  obtain ⟨split, attr, rest⟩ := Text.exists_dropWhile (fun g => !Text.isSpace g.char) body
  have attr_eq : (readBody space c body).attr =
      Text.ofGlyphs ((Text.glyphs body).takeWhile fun g => !Text.isSpace g.char) := rfl
  -- the part behind the attribute starts with white space
  have starts : ∀ g ∈ ((Text.glyphs body).dropWhile fun g => !Text.isSpace g.char).head?, Text.isSpace g.char = true := by
    intro g first
    have other := List.head?_dropWhile_not (fun g : Text.Glyph => !Text.isSpace g.char) (Text.glyphs body)
    rw [Option.mem_def.1 first] at other
    simpa using other
  rw [← rest] at starts
  have args_eq : (readBody space c body).args =
      Text.trimEnd (Text.trimStart (Text.ofGlyphs ((Text.glyphs body).dropWhile fun g => !Text.isSpace g.char))) := rfl
  have argsPos_eq : (readBody space c body).argsPos = c.pos + (c.text.length -
      (Text.trimStart (Text.ofGlyphs ((Text.glyphs body).dropWhile fun g => !Text.isSpace g.char))).length : Nat) := rfl
  rw [← attr_eq] at split attr
  generalize Text.ofGlyphs ((Text.glyphs body).dropWhile fun g => !Text.isSpace g.char) = behind at *
  obtain ⟨before, split_behind, blank_before, head⟩ := Text.exists_trimStart behind
  obtain ⟨after, split_args, blank_after, glyphs_args, last⟩ := Text.exists_trimEnd (Text.trimStart behind)
  rw [← args_eq] at split_args glyphs_args last
  refine ⟨before, after, ?_, blank_before, blank_after, fun none => ?_, ?_, fun g hg => ?_, fun g hg => ?_, last⟩
  · rw [List.append_assoc, ← split_args, List.append_assoc, ← split_behind]
    exact split
  · rw [none, List.nil_append] at split_behind
    have empty := eq_nil_of_head? starts (split_behind ▸ head)
    rw [← split_behind, empty] at split_args
    exact (List.append_eq_nil_iff.1 split_args.symm).1
  · rw [argsPos_eq, ← split_args]
  · rw [attr] at hg
    simpa using List.mem_takeWhile_imp (p := fun g : Text.Glyph => !Text.isSpace g.char) hg
  · refine head g ?_
    rw [glyphs_args, List.head?_append, Option.mem_def.1 hg]
    rfl

theorem cutFrom_readBody (starts : c.text = lead space ++ body) : CutFrom space c (readBody space c body) := by
  obtain ⟨before, after, split, blank_before, blank_after, separated, pos, attr, head, last⟩ := readBody_split space c body
  have whole : c.text = lead space ++ (readBody space c body).attr ++ before ++ (readBody space c body).args ++ after := by
    rw [starts, List.append_assoc, List.append_assoc, List.append_assoc]
    refine congrArg (lead space ++ ·) ?_
    rw [← List.append_assoc, ← List.append_assoc]
    exact split
  have argsPos : (readBody space c body).argsPos =
      c.pos + (lead space ++ (readBody space c body).attr ++ before).length := by
    rw [pos, whole, List.append_assoc _ _ after, List.length_append, Nat.add_sub_cancel]
  have args : (Span.ofLength (readBody space c body).argsPos (readBody space c body).args.length).Covers
      (readBody space c body).args c.text c.pos := ⟨_, after, whole, argsPos, rfl⟩
  have key {keys : KeySet} {o : ReadOption} (mem : o ∈ ((readBody space c body).options keys).1) :
      o.span.Covers o.kind.name (readBody space c body).args (readBody space c body).argsPos := keySpan_covers mem
  refine ⟨⟨before, after, whole, blank_before, blank_after, separated, argsPos⟩, attr, head, last, ?_,
    fun keys o mem => ⟨(key mem).trans args, ?_, ?_⟩, fun keys => keySpans_apart _ _ keys⟩
  · refine ⟨text "//", before ++ (readBody space c body).args ++ after, ?_, rfl, ?_⟩
    · rw [whole, lead_eq]
      simp only [List.append_assoc]
    · change c.pos + 2 + ((lead space).length - 2 + (readBody space c body).attr.length : Nat) = _
      rw [length_lead, ← List.length_append]
      rfl
  · obtain ⟨_, _, -, start, -⟩ := key mem
    rw [start]
    exact Int.le_add_of_nonneg_right (Int.natCast_nonneg _)
  · obtain ⟨_, _, whole_args, start, stop⟩ := key mem
    have length := congrArg List.length whole_args
    rw [List.length_append, List.length_append] at length
    rw [stop, start]
    exact (Int.add_assoc _ _ _).trans_le (Int.add_le_add_left (by omega) _)

/-- **Directives are cut out of comments.** There is one for each comment that starts with the lead, in order. -/
theorem readAll_cut (space : Text) (cs : List PlacedComment) :
    List.Forall₂ (CutFrom space) (cs.filter fun c => Text.startsWith c.text (lead space)) (readAll space cs) := by
  induction cs with
  | nil => exact .nil
  | cons c cs ih =>
    unfold readAll at ih ⊢
    rw [List.filter_cons, List.filterMap_cons, ofComment?, Text.dropStart?]
    split
    · next starts =>
      refine .cons (cutFrom_readBody ?_) ih
      obtain ⟨body, whole⟩ := List.isPrefixOf_iff_prefix.1 starts
      rw [← whole, List.drop_left]
    · exact ih

/-- White space of several bytes on both sides of the arguments. -/
example : (readAll [] [⟨10, "//documented:docs_const\u2003vis = exported\u00a0"⟩]).map
      (fun d => (d.nameSpan, d.argsPos, d.args)) =
    [(⟨12, 33⟩, 36, text "vis = exported")] := by decide +kernel

end Directive

end DocAccessors
