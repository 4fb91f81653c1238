import DocAccessors.Source.Lexeme

/-!
# Readers in a longer text

A piece of a text is read the same way wherever it stands, as long as what follows does not continue its last token.

* `Reader.Reaches r r'`: the place `r'` lies behind `r`, and no fault noted at `r` is lost on the way;
* `Reader.Within k post r t`: the place `t` is the place `r` of a piece of text that starts at the offset `k` and that
  the glyphs `post` follow;
* `Closed post`: what follows starts with a delimiter, if there is anything;
* `Reader.Kept post r t`: up to the places `r` and `t`, nothing that follows has changed how the piece is read.

For each function that moves a reader there is a lemma `reaches_…`, and a lemma `Within.…` that says that it does the
same within a longer text if the places that it comes to are kept. That is so when a closed text follows and the piece
is read without faults, and also when the longer text is read without faults and no further than the piece: what holds
of a piece holds of the text, and the other way round.
-/

namespace DocAccessors.Source

open DocAccessors.Text (Glyph)

/-- What is said of the members of a list is decided by going through the list, not through all values. -/
instance (priority := 2000) decidableForallMem {α : Type} {p : α → Prop} [DecidablePred p] (l : List α) :
    Decidable (∀ a ∈ l, p a) :=
  List.decidableBAll p l

/-! ## What can follow a piece of text -/

/-- The characters that start a token of their own behind any other token, or none. -/
def delimiters : List Char := [',', ';', ':', '(', ')', '[', ']', '\x7b', '\x7d', ' ', '\t', '\n', '"', '\x60']

/-- What follows a piece of text starts with a delimiter, if there is anything. -/
def Closed (post : List Glyph) : Prop := ∀ g ∈ post.head?, g.char ∈ delimiters

theorem Closed.head? {post : List Glyph} (h : Closed post) {p : Char → Bool} (none : ∀ c ∈ delimiters, p c = false) :
    ∀ g ∈ post.head?, p g.char = false := fun g hg => none g.char (h g hg)

/-- The number of bytes of glyphs. -/
def width (gs : List Glyph) : Nat := (Text.ofGlyphs gs).length

@[simp]
theorem width_nil : width [] = 0 := rfl

@[simp]
theorem width_cons (g : Glyph) (gs : List Glyph) : width (g :: gs) = g.width + width gs := by
  simp [width, Text.ofGlyphs, Glyph.width]

@[simp]
theorem width_append (gs hs : List Glyph) : width (gs ++ hs) = width gs + width hs := by
  simp [width, Text.ofGlyphs]

namespace Reader

/-! ## Places behind a place -/

/-- Nothing is wrong with the glyph at the place. -/
def Fine (r : Reader) : Prop := ∀ g ∈ r.rest.head?, glyphFault? r.offset g = none

/-- Every glyph from the place on can be decoded. -/
def Sound (r : Reader) : Prop := ∀ g ∈ r.rest, g.isInvalid = false

/-- The place `r'` lies behind `r`, no line starts behind its place, no fault noted at `r` is lost on the way, and if
none is noted, nothing is wrong with the glyph there, and all glyphs on the way can be decoded. -/
structure Reaches (r r' : Reader) : Prop where
  path : ∃ gs, r.rest = gs ++ r'.rest ∧ r'.offset = r.offset + width gs
  line : r.lineStart ≤ r.offset → r'.lineStart ≤ r'.offset
  clean : r'.faults = [] → r.faults = []
  fine : r'.faults = [] → r.Fine → r'.Fine
  sound : r'.faults = [] → r.Fine → r'.Sound → r.Sound

namespace Reaches

variable {r r' r'' : Reader}

theorem refl (r : Reader) : Reaches r r := ⟨⟨[], rfl, rfl⟩, id, id, fun _ => id, fun _ _ => id⟩

theorem trans (h : Reaches r r') (h' : Reaches r' r'') : Reaches r r'' := by
  obtain ⟨gs, rest, offset⟩ := h.path
  obtain ⟨gs', rest', offset'⟩ := h'.path
  refine ⟨⟨gs ++ gs', by rw [rest, rest', List.append_assoc], ?_⟩, fun line => h'.line (h.line line),
    fun clean => h.clean (h'.clean clean), fun clean fine => h'.fine clean (h.fine (h'.clean clean) fine),
    fun clean fine sound => h.sound (h'.clean clean) fine (h'.sound clean (h.fine (h'.clean clean) fine) sound)⟩
  rw [offset', offset, width_append, Nat.add_assoc]

theorem length_le (h : Reaches r r') : r'.rest.length ≤ r.rest.length := by
  obtain ⟨gs, rest, -⟩ := h.path
  rw [rest, List.length_append]
  exact Nat.le_add_left _ _

end Reaches

@[simp]
theorem faults_fault (r : Reader) (o : Nat) (m : Text) : (r.fault o m).faults ≠ [] := by simp [fault]

theorem reaches_fault (r : Reader) (o : Nat) (m : Text) : Reaches r (r.fault o m) :=
  ⟨⟨[], rfl, rfl⟩, id, fun clean => absurd clean (faults_fault r o m), fun clean => absurd clean (faults_fault r o m),
    fun clean => absurd clean (faults_fault r o m)⟩

theorem inspect_clean {r : Reader} (clean : r.inspect.faults = []) : r.inspect = r ∧ r.Fine := by
  unfold inspect at clean ⊢
  unfold Fine
  cases rest : r.rest with
  | nil => simp
  | cons g gs =>
    simp only [rest] at clean ⊢
    cases found : glyphFault? r.offset g with
    | none => simp [found]
    | some m =>
      rw [found] at clean
      exact absurd clean (faults_fault _ _ _)

theorem reaches_inspect (r : Reader) : Reaches r r.inspect := by
  unfold inspect
  split
  · exact .refl r
  · split
    · exact reaches_fault r _ _
    · exact .refl r

@[simp]
theorem rest_inspect (r : Reader) : r.inspect.rest = r.rest := by
  unfold inspect
  repeat (first | rfl | split)

@[simp]
theorem offset_inspect (r : Reader) : r.inspect.offset = r.offset := by
  unfold inspect
  repeat (first | rfl | split)

@[simp]
theorem lineStart_inspect (r : Reader) : r.inspect.lineStart = r.lineStart := by
  unfold inspect
  repeat (first | rfl | split)

theorem sound_of_fault {g : Glyph} {o : Nat} (none : glyphFault? o g = none) : g.isInvalid = false := by
  cases invalid : g.isInvalid with
  | false => rfl
  | true =>
    unfold glyphFault? at none
    rw [invalid] at none
    split at none <;> cases none

theorem reaches_next (r : Reader) : Reaches r r.next := by
  unfold next
  split
  · exact .refl r
  · next g gs rest =>
    dsimp only
    refine ⟨⟨[g], by simp [rest], by simp⟩, fun line => ?_, (reaches_inspect _).clean, fun clean _ => ?_,
      fun _ fine sound => ?_⟩
    · simp only [lineStart_inspect, offset_inspect]
      split
      · exact Nat.le_refl _
      · exact Nat.le_trans line (Nat.le_add_right _ _)
    · obtain ⟨same, fine⟩ := inspect_clean clean
      rwa [same]
    · rw [Sound, rest]
      exact List.forall_mem_cons.2 ⟨sound_of_fault (fine g (by rw [rest]; rfl)), by simpa [Sound] using sound⟩

@[simp]
theorem rest_next (r : Reader) : r.next.rest = r.rest.tail := by
  unfold next
  split
  · next none => simp [none]
  · next rest => simp [rest]

theorem rest_advance (n : Nat) (r : Reader) : (r.advance n).rest = r.rest.drop n := by
  induction n generalizing r with
  | zero => rfl
  | succ n ih => rw [advance, ih, rest_next, List.drop_tail]

theorem reaches_advance (n : Nat) (r : Reader) : Reaches r (r.advance n) := by
  induction n generalizing r with
  | zero => exact .refl r
  | succ n ih => exact (reaches_next r).trans (ih r.next)

theorem reaches_skipWhile (p : Char → Bool) (r : Reader) : Reaches r (r.skipWhile p) := reaches_advance _ r

theorem rest_skipWhile (p : Char → Bool) (r : Reader) :
    (r.skipWhile p).rest = r.rest.dropWhile fun g => p g.char := by
  rw [skipWhile, rest_advance]
  calc r.rest.drop (r.rest.takeWhile fun g => p g.char).length
      = ((r.rest.takeWhile fun g => p g.char) ++ r.rest.dropWhile fun g => p g.char).drop
          (r.rest.takeWhile fun g => p g.char).length := by rw [List.takeWhile_append_dropWhile]
    _ = r.rest.dropWhile fun g => p g.char := List.drop_left

/-- The first bytes of glyphs are those of the first glyphs. -/
theorem takeBytes_width (gs rest : List Glyph) : takeBytes (width gs) (gs ++ rest) = Text.ofGlyphs gs := by
  induction gs with
  | nil => cases rest <;> simp [takeBytes, Text.ofGlyphs]
  | cons g gs ih =>
    rw [List.cons_append, takeBytes, width_cons]
    split
    · next empty =>
      have bytes : (Text.ofGlyphs (g :: gs)).length = 0 := by
        change width (g :: gs) = 0
        rw [width_cons, empty]
      rw [List.length_eq_zero_iff.1 bytes]
    · rw [Nat.add_sub_cancel_left, ih]
      rfl

theorem between_eq {r r' : Reader} {gs : List Glyph} (rest : r.rest = gs ++ r'.rest)
    (offset : r'.offset = r.offset + width gs) : between r r' = Text.ofGlyphs gs := by
  rw [between, offset, Nat.add_sub_cancel_left, rest, takeBytes_width]

/-! ## The same place in a longer text -/

/-- The place `t` is the place `r` of a piece of text that starts at the offset `k` and that the glyphs `post` follow.
A line of the piece starts where it does there, or before the piece. -/
structure Within (k : Nat) (post : List Glyph) (r t : Reader) : Prop where
  rest : t.rest = r.rest ++ post
  offset : t.offset = r.offset + k
  line : t.lineStart = r.lineStart + k ∨ r.lineStart = 0 ∧ t.lineStart ≤ k
  fresh : r.faults = []
  clean : t.faults = []
  solid : ∀ g ∈ r.rest, 0 < g.width

/-- A piece was read up to `r`, and a longer text up to `t`: without faults in the piece, which a closed text follows,
or without faults in the longer text, and no further than the piece. -/
def Kept (post : List Glyph) (r t : Reader) : Prop :=
  (Closed post ∧ r.faults = []) ∨ (t.faults = [] ∧ post.length ≤ t.rest.length)

namespace Kept

variable {post : List Glyph} {r r' t t' : Reader}

theorem back (kept : Kept post r' t') (hr : Reaches r r') (ht : Reaches t t') : Kept post r t :=
  kept.imp (fun ⟨closed, clean⟩ => ⟨closed, hr.clean clean⟩)
    fun ⟨clean, room⟩ => ⟨ht.clean clean, Nat.le_trans room ht.length_le⟩

/-- A fault that is found in the piece and in the longer text is not kept. -/
theorem not_fault {o o' : Nat} {m m' : Text} : ¬ Kept post (r.fault o m) (t.fault o' m') := by
  rintro (⟨-, clean⟩ | ⟨clean, -⟩) <;> exact faults_fault _ _ _ clean

theorem of_ite {c : Prop} [Decidable c] {o o' : Nat} {m m' : Text}
    (kept : Kept post (if c then r'.fault o m else r) (if c then t'.fault o' m' else t)) : ¬ c := by
  intro holds
  rw [if_pos holds, if_pos holds] at kept
  exact not_fault kept

theorem of_ite' {c : Prop} [Decidable c] {o o' : Nat} {m m' : Text}
    (kept : Kept post (if c then r else r'.fault o m) (if c then t else t'.fault o' m')) : c := by
  refine Decidable.by_contra fun fails => ?_
  rw [if_neg fails, if_neg fails] at kept
  exact not_fault kept

end Kept

namespace Within

variable {k : Nat} {post : List Glyph} {r r' t t' : Reader}

theorem exists_cons (h : Within k post r t) {g : Glyph} {gs : List Glyph} (rest : r.rest = g :: gs) :
    t.rest = g :: (gs ++ post) := by
  rw [h.rest, rest, List.cons_append]

/-- What cannot end with the piece, and goes on in the longer text, is not at the end of the piece. -/
theorem more (h : Within k post r t) (kept : Kept post r' t') (faulty : r.rest = [] → r'.faults ≠ [])
    (onward : t'.faults = [] → t'.rest.length < t.rest.length) : r.rest ≠ [] := by
  intro ended
  rcases kept with ⟨-, clean⟩ | ⟨clean, room⟩
  · exact faulty ended clean
  · have further := onward clean
    rw [h.rest, ended, List.nil_append] at further
    omega

theorem glyphFault?_eq {g : Glyph} {o : Nat} (positive : 0 < o) (k : Nat) :
    glyphFault? (o + k) g = glyphFault? o g := by
  have later : 0 < o + k := Nat.lt_add_right k positive
  simp [glyphFault?, positive, later]

theorem glyphFault?_of_mem {g : Glyph} (h : g.char ∈ delimiters) (o : Nat) : glyphFault? o g = none := by
  have plain : ∀ c ∈ delimiters, c ≠ '\x00' ∧ c ≠ Text.replacement ∧ c ≠ Text.byteOrderMark := by decide
  obtain ⟨nul, replaced, mark⟩ := plain g.char h
  simp [glyphFault?, Glyph.isInvalid, nul, replaced, mark]

/-- Looking at the glyph at a place finds the same. -/
theorem inspect (h : Within k post r t) (positive : 0 < r.offset) (kept : Kept post r.inspect t.inspect) :
    Within k post r.inspect t.inspect := by
  suffices same : r.inspect = r ∧ t.inspect = t by rwa [same.1, same.2]
  cases rest : r.rest with
  | nil =>
    have ended : r.inspect = r := by simp [Reader.inspect, rest]
    refine ⟨ended, ?_⟩
    rcases kept with ⟨closed, -⟩ | ⟨clean, -⟩
    · cases post with
      | nil => simp [Reader.inspect, h.rest, rest]
      | cons d ds => simp [Reader.inspect, h.rest, rest, glyphFault?_of_mem (closed d rfl)]
    · unfold Reader.inspect at clean ⊢
      repeat' split at clean
      all_goals first | rfl | exact absurd clean (faults_fault _ _ _)
  | cons g gs =>
    have rest' := h.exists_cons rest
    unfold Reader.inspect at kept ⊢
    rw [rest, rest'] at kept
    rw [rest, rest']
    dsimp only at kept ⊢
    rw [h.offset, glyphFault?_eq positive] at kept ⊢
    cases found : glyphFault? r.offset g with
    | none => exact ⟨rfl, rfl⟩
    | some m =>
      rw [found] at kept
      exact absurd kept Kept.not_fault

theorem next (h : Within k post r t) (more : r.rest ≠ []) (kept : Kept post r.next t.next) :
    Within k post r.next t.next := by
  obtain ⟨g, gs, rest⟩ := List.exists_cons_of_ne_nil more
  have rest' := h.exists_cons rest
  have positive : 0 < r.offset + g.width := Nat.add_pos_right _ (h.solid g (by simp [rest]))
  have offset : t.offset + g.width = r.offset + g.width + k := by
    rw [h.offset, Nat.add_right_comm]
  have line : (if g.char == '\n' then t.offset + g.width else t.lineStart) =
        (if g.char == '\n' then r.offset + g.width else r.lineStart) + k ∨
      (if g.char == '\n' then r.offset + g.width else r.lineStart) = 0 ∧
        (if g.char == '\n' then t.offset + g.width else t.lineStart) ≤ k := by
    split
    · exact .inl offset
    · exact h.line
  unfold Reader.next at kept ⊢
  rw [rest, rest'] at kept
  rw [rest, rest']
  exact inspect ⟨rfl, offset, line, h.fresh, h.clean, fun g' hg' => h.solid g' (by simp [rest, hg'])⟩ positive kept

theorem advance (h : Within k post r t) {n : Nat} (enough : n ≤ r.rest.length)
    (kept : Kept post (r.advance n) (t.advance n)) : Within k post (r.advance n) (t.advance n) := by
  induction n generalizing r t with
  | zero => exact h
  | succ n ih =>
    have more : r.rest ≠ [] := by
      intro none
      simp [none] at enough
    refine ih (h.next more (kept.back (reaches_advance n r.next) (reaches_advance n t.next))) ?_ kept
    rw [rest_next, List.length_tail]
    omega

/-- What follows does not belong to a run of characters that its first one does not belong to. -/
theorem takeWhile_append (p : Char → Bool) (gs : List Glyph)
    (stops : (∀ g ∈ post.head?, p g.char = false) ∨ gs.dropWhile (fun g => p g.char) ≠ []) :
    ((gs ++ post).takeWhile fun g => p g.char) = gs.takeWhile fun g => p g.char := by
  induction gs with
  | nil =>
    cases post with
    | nil => rfl
    | cons d ds =>
      rcases stops with stops | stops
      · simp [stops d rfl]
      · exact absurd rfl stops
  | cons g gs ih =>
    rw [List.cons_append, List.takeWhile_cons, List.takeWhile_cons]
    split
    · next holds =>
      rw [ih (stops.imp_right fun more => by simpa [List.dropWhile_cons, holds] using more)]
    · rfl

/-- A run that is not read further than the piece ends in the piece. -/
theorem stops_of_length (p : Char → Bool) (gs : List Glyph)
    (room : post.length ≤ ((gs ++ post).dropWhile fun g => p g.char).length) :
    (∀ g ∈ post.head?, p g.char = false) ∨ gs.dropWhile (fun g => p g.char) ≠ [] := by
  by_cases ended : gs.dropWhile (fun g => p g.char) = []
  · left
    intro g first
    obtain ⟨ds, rfl⟩ : ∃ ds, post = g :: ds := by
      cases post with
      | nil => cases first
      | cons d ds => exact ⟨ds, by rw [Option.some.inj first]⟩
    rw [List.dropWhile_append, ended, List.isEmpty_nil, if_pos rfl, List.dropWhile_cons] at room
    split at room
    · have shorter := (List.dropWhile_suffix (l := ds) fun g => p g.char).length_le
      simp only [List.length_cons] at room
      omega
    · next other => simpa using other
  · exact .inr ended

/-- A run of characters is the same. -/
theorem takeWhile_eq (h : Within k post r t) {p : Char → Bool} (kept : Kept post r' t')
    (stops : Closed post → r'.faults = [] →
      (∀ g ∈ post.head?, p g.char = false) ∨ r.rest.dropWhile (fun g => p g.char) ≠ [])
    (reached : t'.rest.length ≤ (t.rest.dropWhile fun g => p g.char).length) :
    (t.rest.takeWhile fun g => p g.char) = r.rest.takeWhile fun g => p g.char := by
  rw [h.rest] at reached ⊢
  refine takeWhile_append p r.rest ?_
  rcases kept with ⟨closed, clean⟩ | ⟨-, room⟩
  · exact stops closed clean
  · exact stops_of_length p r.rest (Nat.le_trans room reached)

theorem skipWhile (h : Within k post r t) {p : Char → Bool} (kept : Kept post r' t')
    (stops : Closed post → r'.faults = [] → (∀ g ∈ post.head?, p g.char = false) ∨ (r.skipWhile p).rest ≠ [])
    (hr : Reaches (r.skipWhile p) r') (ht : Reaches (t.skipWhile p) t') :
    Within k post (r.skipWhile p) (t.skipWhile p) := by
  have run := h.takeWhile_eq (p := p) kept (by rwa [← rest_skipWhile]) (by rw [← rest_skipWhile]; exact ht.length_le)
  have stop := kept.back hr ht
  unfold Reader.skipWhile at stop ⊢
  rw [run] at stop ⊢
  exact h.advance (List.takeWhile_sublist _).length_le stop

theorem peek (h : Within k post r t) (more : r.rest ≠ []) : t.peek = r.peek := by
  obtain ⟨g, gs, rest⟩ := List.exists_cons_of_ne_nil more
  simp [Reader.peek, h.rest, rest]

/-- A question about the next character has the same answer, unless the answer changes with a delimiter or leads on
behind the piece. -/
theorem peek_congr {α : Type} (h : Within k post r t) (f : Option Char → α) (kept : Kept post r' t')
    (same : ∀ c ∈ delimiters, f (some c) = f none)
    (onward : f t.peek ≠ f none → t'.rest.length < t.rest.length) : f t.peek = f r.peek := by
  by_cases ended : r.rest = []
  · have none : r.peek = none := by simp [Reader.peek, ended]
    have first : t.peek = post.head?.map (·.char) := by rw [Reader.peek, h.rest, ended, List.nil_append]
    rw [none]
    rcases kept with ⟨closed, -⟩ | ⟨-, room⟩
    · rw [first]
      cases found : post.head? with
      | none => rfl
      | some d => exact same d.char (closed d found)
    · refine Classical.byContradiction fun differ => ?_
      have further := onward differ
      rw [h.rest, ended, List.nil_append] at further
      omega
  · rw [h.peek ended]

theorem at'_eq (h : Within k post r t) (kept : Kept post r' t') {c : Char} (other : c ∉ delimiters)
    (onward : t.at' c = true → t'.rest.length < t.rest.length) : t.at' c = r.at' c := by
  refine h.peek_congr (· == some c) kept (fun d hd => ?_) fun differ => onward (by simpa [at'] using differ)
  have differ : d ≠ c := fun same => other (same ▸ hd)
  simp [differ]

/-- The text between two places is the same. -/
theorem between {r' t' : Reader} (h : Within k post r t) (h' : Within k post r' t') (reaches : Reaches r r') :
    Reader.between t t' = Reader.between r r' := by
  obtain ⟨gs, rest, offset⟩ := reaches.path
  rw [between_eq rest offset]
  refine between_eq ?_ ?_
  · rw [h.rest, h'.rest, rest, List.append_assoc]
  · rw [h'.offset, h.offset, offset, Nat.add_right_comm]

end Within

end Reader

end DocAccessors.Source
