import DocAccessors.Proofs.Source.Reader

/-!
# Numbers, literals and comments in a longer text

* `readNumber_eq`: a number is read in stages, each of which does the same in a longer text if what it comes to is kept;
* `within_readNumber`, `within_skipString`, `within_skipRune`, `within_skipRawString`: so do numbers and literals;
* `within_readComment`: so do comments, unless they go on behind the piece.
-/

namespace DocAccessors.Source

open DocAccessors.Text (Glyph)

/-! ## Stages of a number -/

/-- The integer part of a number: how the number is written, and the digits. -/
def integerPart (start : Reader) : Radix × Digits :=
  if start.at' '.' then (.decimal, ⟨start, false, false, none⟩)
  else if start.at' '0' then
    match radixOf start.next.peek with
    | .legacyOctal => (.legacyOctal, { readDigits 8 start.next with hasDigit := true })
    | radix => (radix, readDigits radix.base start.next.next)
  else (.decimal, readDigits 10 start)

/-- The integer part and the fraction. -/
def wholePart (radix : Radix) (int : Digits) : Digits :=
  if int.stop.at' '.' then
    let r := if radix == .octal || radix == .binary then
      int.stop.fault int.stop.offset (text "invalid radix point in " ++ radix.literal) else int.stop
    let d := readDigits radix.base r.next
    ⟨d.stop, int.hasDigit || d.hasDigit, int.hasUnderscore || d.hasUnderscore, int.invalid.or d.invalid⟩
  else int

/-- The place after the digits of the mantissa, which must have some. -/
def mantissaEnd (radix : Radix) (whole : Digits) : Reader :=
  if whole.hasDigit then whole.stop
  else whole.stop.fault whole.stop.offset (radix.literal ++ text " has no digits")

/-- The place at the mark of an exponent, which must suit the mantissa. -/
def checkExponent (radix : Radix) (c : Char) (r : Reader) : Reader :=
  if (c == 'e' || c == 'E') && (radix == .hexadecimal || radix == .octal || radix == .binary) then
    r.fault r.offset (Text.quoteChar c ++ text " exponent requires decimal mantissa")
  else if !(c == 'e' || c == 'E') && radix != .hexadecimal then
    r.fault r.offset (Text.quoteChar c ++ text " exponent requires hexadecimal mantissa")
  else r

/-- The place after a sign. -/
def passSign (r : Reader) : Reader := if r.at' '+' || r.at' '-' then r.next else r

/-- The exponent after its mark: whether it holds underscores, and the place after it. -/
def exponentDigits (radix : Radix) (c : Char) (r : Reader) : Bool × Reader :=
  let d := readDigits 10 (passSign (checkExponent radix c r).next)
  (d.hasUnderscore, if d.hasDigit then d.stop else d.stop.fault d.stop.offset "exponent has no digits")

/-- Whether a number is a float, whether it holds underscores, and the place after its exponent. -/
def exponentPart (radix : Radix) (fraction underscore : Bool) (r : Reader) : Bool × Bool × Reader :=
  match r.peek.filter fun c => c == 'e' || c == 'E' || c == 'p' || c == 'P' with
  | some c => (true, underscore || (exponentDigits radix c r).1, (exponentDigits radix c r).2)
  | none => (fraction, underscore, if radix == .hexadecimal && fraction then
      r.fault r.offset "hexadecimal mantissa requires a 'p' exponent" else r)

/-- The token of a number and the place after it. -/
def numberEnd (float : Bool) (r : Reader) : Token × Reader :=
  if r.at' 'i' then (.imag, r.next) else (if float then .float else .int, r)

/-- Notes a digit that the base does not have. -/
def noteInvalid (radix : Radix) (invalid : Option Nat) (start : Nat) (token : Token) (lit : Text) (r : Reader) : Reader :=
  match invalid with
  | some i =>
    if token == .int then
      let digit := Char.ofNat ((lit.drop (i - start)).head?.getD 0).toNat
      r.fault i (text "invalid digit " ++ Text.quoteChar digit ++ text " in " ++ radix.literal)
    else r
  | none => r

def noteUnderscore (underscore : Bool) (start : Nat) (lit : Text) (r : Reader) : Reader :=
  if underscore then
    match misplacedUnderscore? lit with
    | some i => r.fault (start + i) "'_' must separate successive digits"
    | none => r
  else r

theorem readNumber_eq (start : Reader) :
    readNumber start =
      let (radix, int) := integerPart start
      let whole := wholePart radix int
      let point := int.stop.at' '.'
      let (float, underscore, r) := exponentPart radix point whole.hasUnderscore (mantissaEnd radix whole)
      let (token, r) := numberEnd float r
      let lit := Reader.between start r
      (token, lit, noteUnderscore underscore start.offset lit (noteInvalid radix whole.invalid start.offset token lit r)) := by
  unfold readNumber integerPart wholePart mantissaEnd exponentPart exponentDigits checkExponent passSign numberEnd
    noteInvalid noteUnderscore
  rfl

/-! ## Reaching the end of a number -/

open Reader (Reaches Within Kept reaches_fault reaches_next reaches_advance)

theorem reaches_ite_fault (c : Prop) [Decidable c] (r : Reader) (o : Nat) (m : Text) :
    Reaches r (if c then r.fault o m else r) := by
  split
  · exact reaches_fault r o m
  · exact .refl r

theorem reaches_ite_fault' (c : Prop) [Decidable c] (r : Reader) (o : Nat) (m : Text) :
    Reaches r (if c then r else r.fault o m) := by
  split
  · exact .refl r
  · exact reaches_fault r o m

theorem reaches_readDigits (base : Nat) (r : Reader) : Reaches r (readDigits base r).stop := reaches_advance _ r

theorem reaches_integerPart (start : Reader) : Reaches start (integerPart start).2.stop := by
  unfold integerPart
  split
  · exact .refl start
  · split
    · split
      · exact (reaches_next start).trans (reaches_readDigits 8 _)
      · exact (reaches_next start).trans ((reaches_next _).trans (reaches_readDigits _ _))
    · exact reaches_readDigits 10 start

theorem reaches_wholePart (radix : Radix) (int : Digits) : Reaches int.stop (wholePart radix int).stop := by
  unfold wholePart
  split
  · exact (reaches_ite_fault _ _ _ _).trans ((reaches_next _).trans (reaches_readDigits _ _))
  · exact .refl _

theorem reaches_mantissaEnd (radix : Radix) (whole : Digits) : Reaches whole.stop (mantissaEnd radix whole) :=
  reaches_ite_fault' _ _ _ _

theorem reaches_checkExponent (radix : Radix) (c : Char) (r : Reader) : Reaches r (checkExponent radix c r) := by
  unfold checkExponent
  split
  · exact reaches_fault _ _ _
  · exact reaches_ite_fault _ _ _ _

theorem reaches_passSign (r : Reader) : Reaches r (passSign r) := by
  unfold passSign
  split
  · exact reaches_next r
  · exact .refl r

theorem reaches_next_exponentDigits (radix : Radix) (c : Char) (r : Reader) :
    Reaches (checkExponent radix c r).next (exponentDigits radix c r).2 :=
  (reaches_passSign _).trans <| (reaches_readDigits 10 _).trans (reaches_ite_fault' _ _ _ _)

theorem reaches_exponentDigits (radix : Radix) (c : Char) (r : Reader) : Reaches r (exponentDigits radix c r).2 :=
  (reaches_checkExponent radix c r).trans <| (reaches_next _).trans (reaches_next_exponentDigits radix c r)

theorem reaches_exponentPart (radix : Radix) (fraction underscore : Bool) (r : Reader) :
    Reaches r (exponentPart radix fraction underscore r).2.2 := by
  unfold exponentPart
  split
  · exact reaches_exponentDigits _ _ r
  · exact reaches_ite_fault _ _ _ _

theorem reaches_numberEnd (float : Bool) (r : Reader) : Reaches r (numberEnd float r).2 := by
  unfold numberEnd
  split
  · exact reaches_next r
  · exact .refl r

theorem reaches_noteInvalid (radix : Radix) (invalid : Option Nat) (start : Nat) (token : Token) (lit : Text)
    (r : Reader) : Reaches r (noteInvalid radix invalid start token lit r) := by
  unfold noteInvalid
  split
  · exact reaches_ite_fault _ _ _ _
  · exact .refl r

theorem reaches_noteUnderscore (underscore : Bool) (start : Nat) (lit : Text) (r : Reader) :
    Reaches r (noteUnderscore underscore start lit r) := by
  unfold noteUnderscore
  split
  · split
    · exact reaches_fault _ _ _
    · exact .refl r
  · exact .refl r

theorem faultless_ite {c : Prop} [Decidable c] {r s : Reader} {o : Nat} {m : Text}
    (clean : (if c then r.fault o m else s).faults = []) : ¬ c := by
  intro holds
  rw [if_pos holds] at clean
  exact Reader.faults_fault _ _ _ clean

theorem faultless_ite' {c : Prop} [Decidable c] {r s : Reader} {o : Nat} {m : Text}
    (clean : (if c then s else r.fault o m).faults = []) : c := by
  split at clean
  · assumption
  · exact absurd clean (Reader.faults_fault _ _ _)

/-! ## Numbers in a longer text -/

/-- The same digits within a longer text. -/
structure Digits.Within (k : Nat) (post : List Glyph) (d e : Digits) : Prop where
  stop : Reader.Within k post d.stop e.stop
  hasDigit : e.hasDigit = d.hasDigit
  hasUnderscore : e.hasUnderscore = d.hasUnderscore
  invalid : e.invalid = d.invalid.map (· + k)

section Within

variable {k : Nat} {post : List Glyph} {r r' t : Reader}

theorem ne_nil_of_peek {c : Char} (h : r.peek = some c) : r.rest ≠ [] := by
  intro none
  simp [Reader.peek, none] at h

theorem ne_nil_of_at' {c : Char} (h : r.at' c = true) : r.rest ≠ [] := ne_nil_of_peek (beq_iff_eq.1 h)

theorem peek_of_nil (h : r.rest = []) : r.peek = none := by simp [Reader.peek, h]

/-- The place after the next glyph leaves less to read. -/
theorem length_rest_next (more : r.rest ≠ []) (h : Reaches r.next r') : r'.rest.length < r.rest.length := by
  have le := h.length_le
  rw [Reader.rest_next, List.length_tail] at le
  have positive := List.length_pos_iff.2 more
  omega

theorem within_readDigits (h : Within k post r t) (base : Nat)
    (kept : Kept post (readDigits base r).stop (readDigits base t).stop) :
    Digits.Within k post (readDigits base r) (readDigits base t) := by
  have stops : ∀ c ∈ delimiters, ((if base ≤ 10 then c.isDigit else isHexDigit c) || c == '_') = false := by
    split <;> decide
  have run := h.takeWhile_eq (p := fun c => (if base ≤ 10 then c.isDigit else isHexDigit c) || c == '_') kept
    (fun closed _ => .inl (closed.head? stops))
    (Nat.le_of_eq (congrArg List.length (Reader.rest_skipWhile
      (fun c => (if base ≤ 10 then c.isDigit else isHexDigit c) || c == '_') t)))
  unfold readDigits at kept ⊢
  dsimp only at kept ⊢
  rw [run] at kept ⊢
  refine ⟨h.advance (List.takeWhile_sublist _).length_le kept, rfl, rfl, ?_⟩
  dsimp only
  rw [h.offset, Option.map_map]
  refine congrArg (fun f => Option.map f _) (funext fun i => ?_)
  simp only [Function.comp]
  omega

theorem within_integerPart (h : Within k post r t) (more : r.rest ≠ [])
    (kept : Kept post (integerPart r).2.stop (integerPart t).2.stop) :
    (integerPart t).1 = (integerPart r).1 ∧ Digits.Within k post (integerPart r).2 (integerPart t).2 := by
  have same (c : Char) : t.at' c = r.at' c := by rw [Reader.at', Reader.at', h.peek more]
  unfold integerPart at kept ⊢
  rw [same, same] at kept ⊢
  split at kept
  · next point =>
    rw [if_pos point, if_pos point]
    exact ⟨rfl, h, rfl, rfl, rfl⟩
  · next noPoint =>
    rw [if_neg noPoint, if_neg noPoint]
    split at kept
    · next zero =>
      rw [if_pos zero, if_pos zero]
      have reaches (s : Reader) : Reaches s.next (match radixOf s.next.peek with
          | .legacyOctal => (Radix.legacyOctal, { readDigits 8 s.next with hasDigit := true })
          | radix => (radix, readDigits radix.base s.next.next)).2.stop := by
        split
        · exact reaches_readDigits 8 _
        · exact (reaches_next _).trans (reaches_readDigits _ _)
      have first := h.next more (kept.back (reaches r) (reaches t))
      -- a mark of the base is read on
      have mark : radixOf t.next.peek = radixOf r.next.peek := by
        refine first.peek_congr radixOf kept (by decide) fun marked => ?_
        refine length_rest_next (fun ended => marked (by rw [peek_of_nil ended])) ?_
        split
        · next legacy => exact absurd legacy marked
        · exact reaches_readDigits _ _
      rw [mark] at kept ⊢
      split at kept
      · obtain ⟨stop, -, underscore, invalid⟩ := within_readDigits first 8 kept
        exact ⟨rfl, stop, rfl, underscore, invalid⟩
      · next radix marked =>
        have more : r.next.rest ≠ [] := by
          intro ended
          exact marked (by rw [peek_of_nil ended]; rfl)
        have second := first.next more (kept.back (reaches_readDigits _ _) (reaches_readDigits _ _))
        exact ⟨rfl, within_readDigits second _ kept⟩
    · next other =>
      rw [if_neg other, if_neg other]
      exact ⟨rfl, within_readDigits h 10 kept⟩

theorem length_wholePart {radix : Radix} {d : Digits} (point : d.stop.at' '.' = true) :
    (wholePart radix d).stop.rest.length < d.stop.rest.length := by
  have more := ne_nil_of_at' point
  unfold wholePart
  rw [if_pos point]
  split
  · exact length_rest_next (r := d.stop.fault _ _) more (reaches_readDigits _ _)
  · exact length_rest_next more (reaches_readDigits _ _)

theorem within_wholePart {d e : Digits} (h : d.Within k post e) (radix : Radix)
    (kept : Kept post (wholePart radix d).stop (wholePart radix e).stop) :
    (wholePart radix d).Within k post (wholePart radix e) := by
  have point := h.stop.at'_eq kept (c := '.') (by decide) length_wholePart
  unfold wholePart at kept ⊢
  rw [point] at kept ⊢
  split at kept
  · next point =>
    rw [if_pos point, if_pos point]
    have decimal := (kept.back ((reaches_next _).trans (reaches_readDigits _ _))
      ((reaches_next _).trans (reaches_readDigits _ _))).of_ite
    simp only [if_neg decimal] at kept ⊢
    have next := h.stop.next (ne_nil_of_at' point) (kept.back (reaches_readDigits _ _) (reaches_readDigits _ _))
    have digits := within_readDigits next radix.base kept
    refine ⟨digits.stop, ?_, ?_, ?_⟩
    · rw [h.hasDigit, digits.hasDigit]
    · rw [h.hasUnderscore, digits.hasUnderscore]
    · rw [h.invalid, digits.invalid, Option.map_or]
  · next noPoint =>
    rw [if_neg noPoint, if_neg noPoint]
    exact h

theorem within_mantissaEnd {d e : Digits} (h : d.Within k post e) (radix : Radix)
    (kept : Kept post (mantissaEnd radix d) (mantissaEnd radix e)) :
    Reader.Within k post (mantissaEnd radix d) (mantissaEnd radix e) := by
  unfold mantissaEnd at kept ⊢
  rw [h.hasDigit] at kept ⊢
  have some_digit := kept.of_ite'
  rw [if_pos some_digit, if_pos some_digit]
  exact h.stop

theorem checkExponent_eq {radix : Radix} {c : Char} (kept : Kept post (checkExponent radix c r) (checkExponent radix c t)) :
    checkExponent radix c r = r ∧ checkExponent radix c t = t := by
  unfold checkExponent at kept ⊢
  split at kept
  · exact absurd kept Kept.not_fault
  · next first =>
    have second := kept.of_ite
    simp only [if_neg first, if_neg second, and_self]

theorem within_passSign (h : Within k post r t) (kept : Kept post (passSign r) (passSign t)) :
    Reader.Within k post (passSign r) (passSign t) := by
  have sign (c : Char) (one : c = '+' ∨ c = '-') : t.at' c = r.at' c := by
    refine h.at'_eq kept (by rcases one with rfl | rfl <;> decide) fun found => ?_
    have signed : passSign t = t.next := if_pos (by rcases one with rfl | rfl <;> simp [found])
    rw [signed]
    exact length_rest_next (ne_nil_of_at' found) (.refl _)
  unfold passSign at kept ⊢
  rw [sign '+' (.inl rfl), sign '-' (.inr rfl)] at kept ⊢
  split at kept
  · next sign =>
    rw [if_pos sign, if_pos sign]
    rw [Bool.or_eq_true] at sign
    exact h.next (sign.elim ne_nil_of_at' ne_nil_of_at') kept
  · next noSign =>
    rw [if_neg noSign, if_neg noSign]
    exact h

theorem within_exponentDigits (h : Within k post r t) {radix : Radix} {c : Char} (more : r.rest ≠ [])
    (kept : Kept post (exponentDigits radix c r).2 (exponentDigits radix c t).2) :
    (exponentDigits radix c t).1 = (exponentDigits radix c r).1 ∧
      Reader.Within k post (exponentDigits radix c r).2 (exponentDigits radix c t).2 := by
  have reaches (s : Reader) : Reaches (checkExponent radix c s) (exponentDigits radix c s).2 :=
    (reaches_next _).trans (reaches_next_exponentDigits radix c s)
  obtain ⟨same, same'⟩ := checkExponent_eq (kept.back (reaches r) (reaches t))
  unfold exponentDigits at kept ⊢
  rw [same, same'] at kept ⊢
  dsimp only at kept ⊢
  have stop : Kept post (readDigits 10 (passSign r.next)).stop (readDigits 10 (passSign t.next)).stop :=
    kept.back (reaches_ite_fault' _ _ _ _) (reaches_ite_fault' _ _ _ _)
  have sign := stop.back (reaches_readDigits _ _) (reaches_readDigits _ _)
  have next := h.next more (sign.back (reaches_passSign _) (reaches_passSign _))
  have digits := within_readDigits (within_passSign next sign) 10 stop
  rw [digits.hasDigit] at kept ⊢
  have some_digit := kept.of_ite'
  rw [if_pos some_digit, if_pos some_digit]
  exact ⟨digits.hasUnderscore, digits.stop⟩

theorem rest_checkExponent (radix : Radix) (c : Char) (r : Reader) : (checkExponent radix c r).rest = r.rest := by
  unfold checkExponent
  split
  · rfl
  · split <;> rfl

theorem length_exponentDigits (radix : Radix) (c : Char) (more : r.rest ≠ []) :
    (exponentDigits radix c r).2.rest.length < r.rest.length := by
  rw [← rest_checkExponent radix c r] at more ⊢
  exact length_rest_next more (reaches_next_exponentDigits radix c r)

theorem within_exponentPart (h : Within k post r t) {radix : Radix} {fraction underscore : Bool}
    (kept : Kept post (exponentPart radix fraction underscore r).2.2 (exponentPart radix fraction underscore t).2.2) :
    (exponentPart radix fraction underscore t).1 = (exponentPart radix fraction underscore r).1 ∧
      (exponentPart radix fraction underscore t).2.1 = (exponentPart radix fraction underscore r).2.1 ∧
        Reader.Within k post (exponentPart radix fraction underscore r).2.2
          (exponentPart radix fraction underscore t).2.2 := by
  have same := h.peek_congr (fun p => p.filter fun c => c == 'e' || c == 'E' || c == 'p' || c == 'P') kept (by decide)
    fun marked => by
      obtain ⟨c, mark⟩ := Option.ne_none_iff_exists'.1 marked
      rw [exponentPart, mark]
      exact length_exponentDigits radix c (ne_nil_of_peek (Option.filter_eq_some_iff.1 mark).1)
  unfold exponentPart at kept ⊢
  rw [same] at kept ⊢
  cases mark : r.peek.filter fun c => c == 'e' || c == 'E' || c == 'p' || c == 'P' with
  | some c =>
    rw [mark] at kept
    have more : r.rest ≠ [] := ne_nil_of_peek (Option.filter_eq_some_iff.1 mark).1
    obtain ⟨underscores, stop⟩ := within_exponentDigits h more kept
    dsimp only
    rw [underscores]
    exact ⟨rfl, rfl, stop⟩
  | none =>
    rw [mark] at kept
    have allowed := kept.of_ite
    dsimp only
    rw [if_neg allowed, if_neg allowed]
    exact ⟨rfl, rfl, h⟩

theorem within_numberEnd (h : Within k post r t) {float : Bool}
    (kept : Kept post (numberEnd float r).2 (numberEnd float t).2) :
    (numberEnd float t).1 = (numberEnd float r).1 ∧
      Reader.Within k post (numberEnd float r).2 (numberEnd float t).2 := by
  have imaginary := h.at'_eq kept (c := 'i') (by decide) fun found => by
    rw [numberEnd, if_pos found]
    exact length_rest_next (ne_nil_of_at' found) (.refl _)
  unfold numberEnd at kept ⊢
  rw [imaginary] at kept ⊢
  split at kept
  · next imaginary =>
    rw [if_pos imaginary, if_pos imaginary]
    exact ⟨rfl, h.next (ne_nil_of_at' imaginary) kept⟩
  · next real =>
    rw [if_neg real, if_neg real]
    exact ⟨rfl, h⟩

theorem within_noteInvalid (h : Within k post r t) {radix : Radix} {invalid : Option Nat} {start start' : Nat}
    {token : Token} {lit : Text} (kept : Kept post (noteInvalid radix invalid start token lit r)
      (noteInvalid radix (invalid.map (· + k)) start' token lit t)) :
    Reader.Within k post (noteInvalid radix invalid start token lit r)
      (noteInvalid radix (invalid.map (· + k)) start' token lit t) := by
  unfold noteInvalid at kept ⊢
  cases invalid with
  | none => exact h
  | some i =>
    have other := kept.of_ite
    simp only [Option.map_some, if_neg other]
    exact h

theorem within_noteUnderscore (h : Within k post r t) {underscore : Bool} {start start' : Nat} {lit : Text}
    (kept : Kept post (noteUnderscore underscore start lit r) (noteUnderscore underscore start' lit t)) :
    Reader.Within k post (noteUnderscore underscore start lit r) (noteUnderscore underscore start' lit t) := by
  unfold noteUnderscore at kept ⊢
  split at kept
  · next some_underscore =>
    rw [if_pos some_underscore, if_pos some_underscore]
    split at kept
    · exact absurd kept Kept.not_fault
    · exact h
  · next none =>
    rw [if_neg none, if_neg none]
    exact h

/-- **A number is read the same way within a longer text.** -/
theorem within_readNumber (h : Within k post r t) (more : r.rest ≠ [])
    (kept : Kept post (readNumber r).2.2 (readNumber t).2.2) :
    (readNumber t).1 = (readNumber r).1 ∧ (readNumber t).2.1 = (readNumber r).2.1 ∧
      Reader.Within k post (readNumber r).2.2 (readNumber t).2.2 := by
  rw [readNumber_eq] at kept ⊢
  rw [readNumber_eq] at kept ⊢
  dsimp only at kept ⊢
  -- what is kept after the last stage was kept after each one
  have notInvalid := kept.back (reaches_noteUnderscore _ _ _ _) (reaches_noteUnderscore _ _ _ _)
  have ended := notInvalid.back (reaches_noteInvalid _ _ _ _ _ _) (reaches_noteInvalid _ _ _ _ _ _)
  have exponent := ended.back (reaches_numberEnd _ _) (reaches_numberEnd _ _)
  have mantissa := exponent.back (reaches_exponentPart _ _ _ _) (reaches_exponentPart _ _ _ _)
  have whole := mantissa.back (reaches_mantissaEnd _ _) (reaches_mantissaEnd _ _)
  have integer := whole.back (reaches_wholePart _ _) (reaches_wholePart _ _)
  obtain ⟨radix, digits⟩ := within_integerPart h more integer
  rw [radix] at kept notInvalid ended exponent mantissa whole ⊢
  have point := digits.stop.at'_eq whole (c := '.') (by decide) length_wholePart
  rw [point] at kept notInvalid ended exponent ⊢
  have digits' := within_wholePart digits _ whole
  have mantissa' := within_mantissaEnd digits' _ mantissa
  rw [digits'.hasUnderscore] at kept notInvalid ended exponent ⊢
  obtain ⟨float, underscore, stop⟩ := within_exponentPart mantissa' exponent
  rw [float, underscore] at kept ⊢
  rw [float] at notInvalid ended
  obtain ⟨token, stop⟩ := within_numberEnd stop ended
  rw [token] at kept notInvalid ⊢
  have lit := h.between stop ((reaches_integerPart _).trans <| (reaches_wholePart _ _).trans <|
    (reaches_mantissaEnd _ _).trans <| (reaches_exponentPart _ _ _ _).trans (reaches_numberEnd _ _))
  rw [lit, digits'.invalid] at kept notInvalid ⊢
  exact ⟨rfl, rfl, within_noteUnderscore (within_noteInvalid stop notInvalid) kept⟩

end Within

/-! ## Escapes -/

theorem reaches_readEscapeDigits (base n x : Nat) (r : Reader) : Reaches r (readEscapeDigits base n x r).2 := by
  induction n generalizing x r with
  | zero => exact .refl r
  | succ n ih =>
    unfold readEscapeDigits
    split
    · exact reaches_fault _ _ _
    · split
      · exact (reaches_next r).trans (ih _ _)
      · exact reaches_fault _ _ _

/-- The numeric part of an escape: `n` digits of a base that stand for a code point, at most a largest one. -/
def numericEscape (at' n base max : Nat) (r : Reader) : Bool × Reader :=
  match readEscapeDigits base n 0 r with
  | (none, s) => (false, s)
  | (some x, s) =>
    if max < x || (0xD800 ≤ x && x < 0xE000) then (false, s.fault at' "escape sequence is invalid Unicode code point")
    else (true, s)

theorem reaches_numericEscape (at' n base max : Nat) (r : Reader) : Reaches r (numericEscape at' n base max r).2 := by
  have digits := reaches_readEscapeDigits base n 0 r
  unfold numericEscape
  split
  · next found =>
    rw [found] at digits
    exact digits
  · next found =>
    rw [found] at digits
    split
    · exact digits.trans (reaches_fault _ _ _)
    · exact digits

theorem readEscape_eq (q : Char) (r : Reader) :
    readEscape q r =
      match r.peek with
      | none => (false, r.fault r.offset "escape sequence not terminated")
      | some c =>
        if c == q || c == '\\' || c == 'a' || c == 'b' || c == 'f' || c == 'n' || c == 'r' || c == 't' || c == 'v' then
          (true, r.next)
        else if '0' ≤ c && c ≤ '7' then numericEscape r.offset 3 8 255 r
        else if c == 'x' then numericEscape r.offset 2 16 255 r.next
        else if c == 'u' then numericEscape r.offset 4 16 0x10FFFF r.next
        else if c == 'U' then numericEscape r.offset 8 16 0x10FFFF r.next
        else (false, r.fault r.offset "unknown escape sequence") := rfl

/-- Which escape follows is a matter of the first character: a single one, an octal one, one with a mark before its
digits, or none. -/
theorem readEscape_cases (q c : Char) :
    (∀ r : Reader, r.peek = some c → readEscape q r = (true, r.next)) ∨
      (∀ r : Reader, r.peek = some c → readEscape q r = numericEscape r.offset 3 8 255 r) ∨
      (∃ n base max, ∀ r : Reader, r.peek = some c → readEscape q r = numericEscape r.offset n base max r.next) ∨
      ∀ r : Reader, r.peek = some c → readEscape q r = (false, r.fault r.offset "unknown escape sequence") := by
  simp only [readEscape_eq]
  by_cases plain : (c == q || c == '\\' || c == 'a' || c == 'b' || c == 'f' || c == 'n' || c == 'r' || c == 't' ||
      c == 'v') = true
  · exact .inl fun r found => by rw [found]; exact if_pos plain
  · by_cases octal : ('0' ≤ c && c ≤ '7') = true
    · exact .inr (.inl fun r found => by rw [found]; dsimp only; rw [if_neg plain, if_pos octal])
    · by_cases byte : (c == 'x') = true
      · exact .inr (.inr (.inl ⟨_, _, _, fun r found => by
          rw [found]; dsimp only; rw [if_neg plain, if_neg octal, if_pos byte]⟩))
      · by_cases short : (c == 'u') = true
        · exact .inr (.inr (.inl ⟨_, _, _, fun r found => by
            rw [found]; dsimp only; rw [if_neg plain, if_neg octal, if_neg byte, if_pos short]⟩))
        · by_cases long : (c == 'U') = true
          · exact .inr (.inr (.inl ⟨_, _, _, fun r found => by
              rw [found]; dsimp only; rw [if_neg plain, if_neg octal, if_neg byte, if_neg short, if_pos long]⟩))
          · exact .inr (.inr (.inr fun r found => by
              rw [found]; dsimp only; rw [if_neg plain, if_neg octal, if_neg byte, if_neg short, if_neg long]))

theorem readEscape_end (q : Char) {r : Reader} (ended : r.peek = none) :
    readEscape q r = (false, r.fault r.offset "escape sequence not terminated") := by
  rw [readEscape_eq, ended]

theorem reaches_readEscape (q : Char) (r : Reader) : Reaches r (readEscape q r).2 := by
  cases found : r.peek with
  | none =>
    rw [readEscape_end q found]
    exact reaches_fault _ _ _
  | some c =>
    rcases readEscape_cases q c with plain | octal | ⟨n, base, max, marked⟩ | other
    · rw [plain r found]
      exact reaches_next r
    · rw [octal r found]
      exact reaches_numericEscape _ _ _ _ _
    · rw [marked r found]
      exact (reaches_next r).trans (reaches_numericEscape _ _ _ _ _)
    · rw [other r found]
      exact reaches_fault _ _ _

section Within

variable {k : Nat} {post : List Glyph} {r t : Reader}

theorem exists_peek (more : r.rest ≠ []) : ∃ c, r.peek = some c := by
  obtain ⟨g, gs, rest⟩ := List.exists_cons_of_ne_nil more
  exact ⟨g.char, by simp [Reader.peek, rest]⟩

theorem length_readEscapeDigits {base n x : Nat} (clean : (readEscapeDigits base (n + 1) x r).2.faults = []) :
    (readEscapeDigits base (n + 1) x r).2.rest.length < r.rest.length := by
  unfold readEscapeDigits at clean ⊢
  split
  · next ended =>
    rw [ended] at clean
    exact absurd clean (Reader.faults_fault _ _ _)
  · next c found =>
    rw [found] at clean
    split
    · exact length_rest_next (ne_nil_of_peek found) (reaches_readEscapeDigits _ _ _ _)
    · next other =>
      simp only [if_neg other] at clean
      exact absurd clean (Reader.faults_fault _ _ _)

theorem within_readEscapeDigits {base n x : Nat} (h : Within k post r t)
    (kept : Kept post (readEscapeDigits base n x r).2 (readEscapeDigits base n x t).2) :
    ∃ y, (readEscapeDigits base n x r).1 = some y ∧
      (readEscapeDigits base n x t).1 = some y ∧
      Within k post (readEscapeDigits base n x r).2
        (readEscapeDigits base n x t).2 := by
  induction n generalizing x r t with
  | zero => exact ⟨x, rfl, rfl, h⟩
  | succ n ih =>
    have more : r.rest ≠ [] := by
      refine h.more kept (fun ended => ?_) length_readEscapeDigits
      rw [readEscapeDigits, peek_of_nil ended]
      exact Reader.faults_fault _ _ _
    obtain ⟨c, found⟩ := exists_peek more
    unfold readEscapeDigits at kept ⊢
    rw [h.peek more, found] at kept ⊢
    dsimp only at kept ⊢
    split at kept
    · next digit =>
      rw [if_pos digit, if_pos digit]
      exact ih (h.next more (kept.back (reaches_readEscapeDigits _ _ _ _) (reaches_readEscapeDigits _ _ _ _))) kept
    · exact absurd kept Kept.not_fault

theorem reaches_digits_numericEscape (o n base max : Nat) (r : Reader) :
    Reaches (readEscapeDigits base n 0 r).2 (numericEscape o n base max r).2 := by
  unfold numericEscape
  split
  · next found =>
    rw [found]
    exact .refl _
  · next found =>
    rw [found]
    split
    · exact reaches_fault _ _ _
    · exact .refl _

theorem within_numericEscape {o o' n base max : Nat} (h : Within k post r t)
    (kept : Kept post (numericEscape o n base max r).2 (numericEscape o' n base max t).2) :
    (numericEscape o n base max r).1 = true ∧
      (numericEscape o' n base max t).1 = true ∧
      Within k post (numericEscape o n base max r).2
        (numericEscape o' n base max t).2 := by
  obtain ⟨y, value, value', stop⟩ := within_readEscapeDigits h
    (kept.back (reaches_digits_numericEscape _ _ _ _ _) (reaches_digits_numericEscape _ _ _ _ _))
  unfold numericEscape at kept ⊢
  generalize readEscapeDigits base n 0 r = found at kept value stop ⊢
  generalize readEscapeDigits base n 0 t = found' at kept value' stop ⊢
  obtain ⟨v, s⟩ := found
  obtain ⟨v', s'⟩ := found'
  obtain rfl := value
  obtain rfl := value'
  dsimp only at kept stop ⊢
  split at kept
  · exact absurd kept Kept.not_fault
  · next fits =>
    rw [if_neg fits, if_neg fits]
    exact ⟨rfl, rfl, stop⟩

theorem length_readEscape {q : Char} (clean : (readEscape q r).2.faults = []) :
    (readEscape q r).2.rest.length < r.rest.length := by
  cases found : r.peek with
  | none =>
    rw [readEscape_end q found] at clean
    exact absurd clean (Reader.faults_fault _ _ _)
  | some c =>
    have more := ne_nil_of_peek found
    rcases readEscape_cases q c with plain | octal | ⟨n, base, max, marked⟩ | other
    · rw [plain r found]
      exact length_rest_next more (.refl _)
    · rw [octal r found] at clean ⊢
      exact Nat.lt_of_le_of_lt (reaches_digits_numericEscape _ _ _ _ _).length_le
        (length_readEscapeDigits ((reaches_digits_numericEscape _ _ _ _ _).clean clean))
    · rw [marked r found]
      exact length_rest_next more (reaches_numericEscape _ _ _ _ _)
    · rw [other r found] at clean
      exact absurd clean (Reader.faults_fault _ _ _)

theorem within_readEscape {q : Char} (h : Within k post r t) (kept : Kept post (readEscape q r).2 (readEscape q t).2) :
    (readEscape q r).1 = true ∧ (readEscape q t).1 = true ∧
      Within k post (readEscape q r).2 (readEscape q t).2 := by
  have more : r.rest ≠ [] := by
    refine h.more kept (fun ended => ?_) length_readEscape
    rw [readEscape_end q (peek_of_nil ended)]
    exact Reader.faults_fault _ _ _
  obtain ⟨c, found⟩ := exists_peek more
  have found' : t.peek = some c := (h.peek more).trans found
  rcases readEscape_cases q c with plain | octal | ⟨n, base, max, marked⟩ | other
  · rw [plain r found, plain t found'] at kept ⊢
    exact ⟨rfl, rfl, h.next more kept⟩
  · rw [octal r found, octal t found'] at kept ⊢
    exact within_numericEscape h kept
  · rw [marked r found, marked t found'] at kept ⊢
    exact within_numericEscape
      (h.next more (kept.back (reaches_numericEscape _ _ _ _ _) (reaches_numericEscape _ _ _ _ _))) kept
  · rw [other r found, other t found'] at kept
    exact absurd kept Kept.not_fault

end Within

/-! ## String and rune literals -/

theorem reaches_skipString (start fuel : Nat) (r : Reader) : Reaches r (skipString start fuel r) := by
  induction fuel generalizing r with
  | zero => exact .refl r
  | succ fuel ih =>
    unfold skipString
    split
    · exact reaches_fault _ _ _
    · exact reaches_fault _ _ _
    · exact reaches_next r
    · exact (reaches_next r).trans ((reaches_readEscape _ _).trans (ih _))
    · exact (reaches_next r).trans (ih _)

theorem reaches_skipRune (start fuel : Nat) (good : Bool) (n : Nat) (r : Reader) :
    Reaches r (skipRune start fuel good n r) := by
  induction fuel generalizing good n r with
  | zero => exact .refl r
  | succ fuel ih =>
    unfold skipRune
    split
    · exact reaches_ite_fault _ _ _ _
    · exact reaches_ite_fault _ _ _ _
    · exact (reaches_next r).trans (reaches_ite_fault _ _ _ _)
    · exact (reaches_next r).trans ((reaches_readEscape _ _).trans (ih _ _ _))
    · exact (reaches_next r).trans (ih _ _ _)

theorem reaches_skipRawString (start : Nat) (r : Reader) : Reaches r (skipRawString start r) := by
  unfold skipRawString
  dsimp only
  split
  · exact (Reader.reaches_skipWhile _ r).trans (reaches_next _)
  · exact (Reader.reaches_skipWhile _ r).trans (reaches_fault _ _ _)

section Within

variable {k : Nat} {post : List Glyph}

theorem length_skipString {start n : Nat} {r : Reader} (enough : r.rest.length < n)
    (clean : (skipString start n r).faults = []) : (skipString start n r).rest.length < r.rest.length := by
  obtain ⟨n, rfl⟩ := Nat.exists_eq_succ_of_ne_zero (Nat.ne_zero_of_lt enough)
  unfold skipString at clean ⊢
  split at clean
  · exact absurd clean (Reader.faults_fault _ _ _)
  · exact absurd clean (Reader.faults_fault _ _ _)
  · next found => exact length_rest_next (ne_nil_of_peek found) (.refl _)
  · next found =>
    exact length_rest_next (ne_nil_of_peek found) ((reaches_readEscape _ _).trans (reaches_skipString _ _ _))
  · next found => exact length_rest_next (ne_nil_of_peek found) (reaches_skipString _ _ _)

/-- A string literal is read the same way with any fuel that is enough. -/
theorem within_skipString {start start' : Nat} (n m : Nat) {r t : Reader} (h : Within k post r t)
    (enough : r.rest.length < n) (enough' : t.rest.length < m)
    (kept : Kept post (skipString start n r) (skipString start' m t)) :
    Within k post (skipString start n r) (skipString start' m t) := by
  induction n generalizing m r t with
  | zero => exact absurd enough (Nat.not_lt_zero _)
  | succ n ih =>
    have more : r.rest ≠ [] := by
      refine h.more kept (fun ended => ?_) (length_skipString enough')
      rw [skipString, peek_of_nil ended]
      exact Reader.faults_fault _ _ _
    have more' : t.rest ≠ [] := by simp [h.rest, more]
    obtain ⟨m, rfl⟩ := Nat.exists_eq_succ_of_ne_zero (Nat.ne_zero_of_lt enough')
    obtain ⟨c, found⟩ := exists_peek more
    unfold skipString at kept ⊢
    rw [h.peek more, found] at kept ⊢
    have shorter {s : Reader} (hs : Reaches r.next s) : s.rest.length < n :=
      Nat.lt_of_lt_of_le (length_rest_next more hs) (Nat.le_of_lt_succ enough)
    have shorter' {s : Reader} (hs : Reaches t.next s) : s.rest.length < m :=
      Nat.lt_of_lt_of_le (length_rest_next more' hs) (Nat.le_of_lt_succ enough')
    split at kept
    · next missing => cases missing
    · exact absurd kept Kept.not_fault
    · next closing =>
      obtain rfl := Option.some.inj closing
      exact h.next more kept
    · next escape =>
      obtain rfl := Option.some.inj escape
      have escaped := kept.back (reaches_skipString _ _ _) (reaches_skipString _ _ _)
      have second := h.next more (escaped.back (reaches_readEscape _ _) (reaches_readEscape _ _))
      obtain ⟨-, -, stop⟩ := within_readEscape second escaped
      exact ih m stop (shorter (reaches_readEscape _ _)) (shorter' (reaches_readEscape _ _)) kept
    · next d notBreak notQuote notEscape other =>
      obtain rfl := Option.some.inj other
      have second := h.next more (kept.back (reaches_skipString _ _ _) (reaches_skipString _ _ _))
      exact ih m second (shorter (.refl _)) (shorter' (.refl _)) kept

theorem length_skipRune {start n count : Nat} {r : Reader} (enough : r.rest.length < n)
    (clean : (skipRune start n true count r).faults = []) :
    (skipRune start n true count r).rest.length < r.rest.length := by
  obtain ⟨n, rfl⟩ := Nat.exists_eq_succ_of_ne_zero (Nat.ne_zero_of_lt enough)
  unfold skipRune at clean ⊢
  split at clean
  · exact absurd clean (Reader.faults_fault _ _ _)
  · exact absurd clean (Reader.faults_fault _ _ _)
  · next found => exact length_rest_next (ne_nil_of_peek found) (reaches_ite_fault _ _ _ _)
  · next found =>
    exact length_rest_next (ne_nil_of_peek found) ((reaches_readEscape _ _).trans (reaches_skipRune _ _ _ _ _))
  · next found => exact length_rest_next (ne_nil_of_peek found) (reaches_skipRune _ _ _ _ _)

/-- So is a rune literal, as long as it is good. -/
theorem within_skipRune {start start' : Nat} (n m : Nat) {r t : Reader} (h : Within k post r t)
    (enough : r.rest.length < n) (enough' : t.rest.length < m) (count : Nat)
    (kept : Kept post (skipRune start n true count r) (skipRune start' m true count t)) :
    Within k post (skipRune start n true count r) (skipRune start' m true count t) := by
  induction n generalizing m r t count with
  | zero => exact absurd enough (Nat.not_lt_zero _)
  | succ n ih =>
    have more : r.rest ≠ [] := by
      refine h.more kept (fun ended => ?_) (length_skipRune enough')
      rw [skipRune, peek_of_nil ended]
      exact Reader.faults_fault _ _ _
    have more' : t.rest ≠ [] := by simp [h.rest, more]
    obtain ⟨m, rfl⟩ := Nat.exists_eq_succ_of_ne_zero (Nat.ne_zero_of_lt enough')
    obtain ⟨c, found⟩ := exists_peek more
    unfold skipRune at kept ⊢
    rw [h.peek more, found] at kept ⊢
    have shorter {s : Reader} (hs : Reaches r.next s) : s.rest.length < n :=
      Nat.lt_of_lt_of_le (length_rest_next more hs) (Nat.le_of_lt_succ enough)
    have shorter' {s : Reader} (hs : Reaches t.next s) : s.rest.length < m :=
      Nat.lt_of_lt_of_le (length_rest_next more' hs) (Nat.le_of_lt_succ enough')
    split at kept
    · next missing => cases missing
    · exact absurd kept Kept.not_fault
    · next closing =>
      obtain rfl := Option.some.inj closing
      have single := kept.of_ite
      dsimp only at kept ⊢
      rw [if_neg single, if_neg single] at kept ⊢
      exact h.next more kept
    · next escape =>
      obtain rfl := Option.some.inj escape
      have escaped := kept.back (reaches_skipRune _ _ _ _ _) (reaches_skipRune _ _ _ _ _)
      have second := h.next more (escaped.back (reaches_readEscape _ _) (reaches_readEscape _ _))
      obtain ⟨good, good', stop⟩ := within_readEscape second escaped
      dsimp only at kept ⊢
      rw [good, good', Bool.and_true] at kept ⊢
      exact ih m stop (shorter (reaches_readEscape _ _)) (shorter' (reaches_readEscape _ _)) _ kept
    · next d notBreak notQuote notEscape other =>
      obtain rfl := Option.some.inj other
      have second := h.next more (kept.back (reaches_skipRune _ _ _ _ _) (reaches_skipRune _ _ _ _ _))
      exact ih m second (shorter (.refl _)) (shorter' (.refl _)) _ kept

theorem reaches_skipWhile_skipRawString (start : Nat) (r : Reader) :
    Reaches (r.skipWhile (· != '\x60')) (skipRawString start r) := by
  unfold skipRawString
  dsimp only
  split
  · exact reaches_next _
  · exact reaches_fault _ _ _

/-- A raw string literal that is over has its closing quote. -/
theorem quoted_of_skipRawString {start : Nat} {r : Reader} (clean : (skipRawString start r).faults = []) :
    Reader.at' (r.skipWhile (· != '\x60')) '\x60' = true ∧
      skipRawString start r = Reader.next (r.skipWhile (· != '\x60')) := by
  unfold skipRawString at clean ⊢
  have quoted := faultless_ite' clean
  exact ⟨quoted, if_pos quoted⟩

theorem within_skipRawString {start start' : Nat} {r t : Reader} (h : Within k post r t)
    (kept : Kept post (skipRawString start r) (skipRawString start' t)) :
    Within k post (skipRawString start r) (skipRawString start' t) := by
  have stop := h.skipWhile (p := (· != '\x60')) kept
    (fun _ clean => .inr (ne_nil_of_at' (quoted_of_skipRawString clean).1))
    (reaches_skipWhile_skipRawString _ _) (reaches_skipWhile_skipRawString _ _)
  have more : (r.skipWhile (· != '\x60')).rest ≠ [] := by
    refine stop.more kept (fun ended clean => ?_) fun clean => ?_
    · exact ne_nil_of_at' (quoted_of_skipRawString clean).1 ended
    · obtain ⟨quoted, closing⟩ := quoted_of_skipRawString clean
      rw [closing]
      exact length_rest_next (ne_nil_of_at' quoted) (.refl _)
  have quote : Reader.at' (t.skipWhile (· != '\x60')) '\x60' = Reader.at' (r.skipWhile (· != '\x60')) '\x60' := by
    rw [Reader.at', Reader.at', stop.peek more]
  unfold skipRawString at kept ⊢
  dsimp only at kept ⊢
  rw [quote] at kept ⊢
  have quoted := kept.of_ite'
  rw [if_pos quoted, if_pos quoted] at kept ⊢
  exact stop.next more kept

end Within

/-! ## Comments -/

theorem reaches_skipBlock (fuel : Nat) (r : Reader) : Reaches r (skipBlock fuel r).1 := by
  induction fuel generalizing r with
  | zero => exact .refl r
  | succ fuel ih =>
    unfold skipBlock
    split
    · exact .refl r
    · dsimp only
      split
      · exact (reaches_next r).trans (reaches_next _)
      · exact (reaches_next r).trans (ih _)

/-- A line directive that notes no fault notes a mark at most, and that is a matter of its text. -/
theorem readLineDirective_clean {file t : Text} {size following offset : Nat} {r : Reader}
    (clean : (readLineDirective file size following offset t r).faults = [])
    (file' : Text) (size' following' offset' : Nat) (r' : Reader) :
    (∃ m, readLineDirective file size following offset t r = { r with marks := m }) ∧
      ∃ m, readLineDirective file' size' following' offset' t r' = { r' with marks := m } := by
  unfold readLineDirective at clean ⊢
  split at clean
  · exact ⟨⟨_, rfl⟩, ⟨_, rfl⟩⟩
  · exact absurd clean (Reader.faults_fault _ _ _)
  · dsimp only at clean ⊢
    split at clean
    · have column := faultless_ite clean
      rw [if_neg column] at clean
      have line := faultless_ite clean
      rw [if_neg column, if_neg line, if_neg column, if_neg line]
      exact ⟨⟨_, rfl⟩, ⟨_, rfl⟩⟩
    · have line := faultless_ite clean
      rw [if_neg line, if_neg line]
      exact ⟨⟨_, rfl⟩, ⟨_, rfl⟩⟩

theorem reaches_readLineDirective (file t : Text) (size following offset : Nat) (r : Reader) :
    Reaches r (readLineDirective file size following offset t r) := by
  have marked (m : List LineMark) : Reaches r { r with marks := m } := ⟨⟨[], rfl, rfl⟩, id, id, fun _ => id, fun _ _ => id⟩
  unfold readLineDirective
  split
  · exact .refl r
  · exact reaches_fault _ _ _
  · dsimp only
    split
    · split
      · exact reaches_fault _ _ _
      · split
        · exact reaches_fault _ _ _
        · exact marked _
    · split
      · exact reaches_fault _ _ _
      · exact marked _

/-- The place after a comment whose first slash has been read, and whether the comment was closed. -/
def commentEnd (r : Reader) : Reader × Bool :=
  if r.at' '*' then skipBlock (r.rest.length + 1) r.next else (r.skipWhile (· != '\n'), true)

/-- Notes that a comment that starts at an offset was not closed. -/
def checkClosed (start : Nat) (s : Reader × Bool) : Reader :=
  if s.2 then s.1 else s.1.fault start "comment not terminated"

/-- Notes the line directive in the body of a comment, if it is one. -/
def noteDirective (file : Text) (size : Nat) (start : Reader) (block closed : Bool) (following : Nat) (body : Text)
    (stop : Reader) : Reader :=
  if closed && (block || start.offset == start.lineStart) && Text.startsWith (body.drop 2) "line " then
    readLineDirective file size following (start.offset + 7)
      ((if block then body.take (body.length - 2) else body).drop 7) stop
  else stop

/-- A comment without the carriage return that ends its line. -/
def commentBody (block : Bool) (lit : Text) : Text :=
  if !block && lit.getLast? == some 13 && 2 < lit.length then lit.dropLast else lit

theorem readComment_eq (file : Text) (size : Nat) (start r : Reader) :
    readComment file size start r =
      let block := r.at' '*'
      let stop := checkClosed start.offset (commentEnd r)
      let lit := Reader.between start stop
      let following := if !block && stop.at' '\n' then stop.offset + 1 else stop.offset
      let body := commentBody block lit
      (dropReturns block [] body, noteDirective file size start block (commentEnd r).2 following body stop,
        if block then (Text.indexOf? lit 10).map (start.offset + ·) else none) := rfl

theorem reaches_commentEnd (r : Reader) : Reaches r (commentEnd r).1 := by
  unfold commentEnd
  split
  · exact (reaches_next r).trans (reaches_skipBlock _ _)
  · exact Reader.reaches_skipWhile (· != '\n') r

theorem reaches_checkClosed (start : Nat) (s : Reader × Bool) : Reaches s.1 (checkClosed start s) :=
  reaches_ite_fault' _ _ _ _

theorem reaches_noteDirective (file : Text) (size : Nat) (start : Reader) (block closed : Bool) (following : Nat)
    (body : Text) (stop : Reader) : Reaches stop (noteDirective file size start block closed following body stop) := by
  unfold noteDirective
  split
  · exact reaches_readLineDirective _ _ _ _ _ _
  · exact .refl stop

theorem reaches_readComment (file : Text) (size : Nat) (start r : Reader) :
    Reaches r (readComment file size start r).2.1 := by
  rw [readComment_eq]
  exact (reaches_commentEnd r).trans ((reaches_checkClosed _ _).trans (reaches_noteDirective _ _ _ _ _ _ _ _))

section Within

variable {k : Nat} {post : List Glyph}

@[simp]
theorem rest_checkClosed (start : Nat) (s : Reader × Bool) : (checkClosed start s).rest = s.1.rest := by
  unfold checkClosed
  split <;> rfl

theorem reaches_next_skipBlock (start n : Nat) {r : Reader} {c : Char} (found : r.peek = some c) :
    Reaches r.next (checkClosed start (skipBlock (n + 1) r)) := by
  refine Reaches.trans ?_ (reaches_checkClosed _ _)
  rw [skipBlock, found]
  dsimp only
  split
  · exact reaches_next _
  · exact reaches_skipBlock _ _

/-- A block comment is read the same way with any fuel that is enough. -/
theorem within_skipBlock {start start' : Nat} (n m : Nat) {r t : Reader} (h : Within k post r t)
    (enough : r.rest.length < n) (enough' : t.rest.length < m)
    (kept : Kept post (checkClosed start (skipBlock n r)) (checkClosed start' (skipBlock m t))) :
    (skipBlock n r).2 = true ∧ (skipBlock m t).2 = true ∧ Within k post (skipBlock n r).1 (skipBlock m t).1 := by
  induction n generalizing m r t with
  | zero => exact absurd enough (Nat.not_lt_zero _)
  | succ n ih =>
    obtain ⟨m, rfl⟩ := Nat.exists_eq_succ_of_ne_zero (Nat.ne_zero_of_lt enough')
    have more : r.rest ≠ [] := by
      refine h.more kept (fun ended => ?_) fun clean => ?_
      · rw [skipBlock, peek_of_nil ended]
        exact Reader.faults_fault _ _ _
      · cases found : t.peek with
        | none =>
          rw [skipBlock, found] at clean
          exact absurd clean (Reader.faults_fault _ _ _)
        | some c => exact length_rest_next (ne_nil_of_peek found) (reaches_next_skipBlock _ _ found)
    have more' : t.rest ≠ [] := by simp [h.rest, more]
    obtain ⟨c, found⟩ := exists_peek more
    have found' : t.peek = some c := (h.peek more).trans found
    have second := h.next more (kept.back (reaches_next_skipBlock _ _ found) (reaches_next_skipBlock _ _ found'))
    unfold skipBlock at kept ⊢
    rw [found, found'] at kept ⊢
    dsimp only at kept ⊢
    have closes : (c == '*' && t.next.at' '/') = (c == '*' && r.next.at' '/') := by
      by_cases star : c = '*'
      · rw [second.at'_eq kept (by decide) fun slash => ?_]
        rw [if_pos (by simp [star, slash]), rest_checkClosed]
        exact length_rest_next (ne_nil_of_at' slash) (.refl _)
      · rw [beq_false_of_ne star, Bool.false_and, Bool.false_and]
    rw [closes] at kept ⊢
    split at kept
    · next closing =>
      rw [if_pos closing, if_pos closing]
      rw [Bool.and_eq_true] at closing
      exact ⟨rfl, rfl, second.next (ne_nil_of_at' closing.2) kept⟩
    · next inside =>
      rw [if_neg inside, if_neg inside]
      exact ih m second (Nat.lt_of_lt_of_le (length_rest_next more (.refl _)) (Nat.le_of_lt_succ enough))
        (Nat.lt_of_lt_of_le (length_rest_next more' (.refl _)) (Nat.le_of_lt_succ enough')) kept

/-- What follows a piece does not go on with a comment up to `r`, which leads to `t` in the longer text: a line break
follows, or the comment ends in the piece. -/
def Broken (post : List Glyph) (r t : Reader) : Prop :=
  (∀ g ∈ post.head?, g.char = '\n') ∨ r.rest ≠ [] ∨ post.length ≤ t.rest.length

theorem within_commentEnd {start start' : Nat} {r t : Reader} (h : Within k post r t)
    (broken : Broken post (commentEnd r).1 (commentEnd t).1)
    (kept : Kept post (checkClosed start (commentEnd r)) (checkClosed start' (commentEnd t))) :
    (commentEnd r).2 = true ∧ (commentEnd t).2 = true ∧ Within k post (commentEnd r).1 (commentEnd t).1 := by
  have block := h.at'_eq kept (c := '*') (by decide) fun star => by
    rw [rest_checkClosed, commentEnd, if_pos star]
    exact length_rest_next (ne_nil_of_at' star) (reaches_skipBlock _ _)
  unfold commentEnd at broken kept ⊢
  rw [block] at broken kept ⊢
  split at kept
  · next block =>
    rw [if_pos block, if_pos block]
    have more := ne_nil_of_at' block
    have reaches (start : Nat) (s : Reader) : Reaches s.next (checkClosed start (skipBlock (s.rest.length + 1) s.next)) :=
      (reaches_skipBlock _ _).trans (reaches_checkClosed _ _)
    have second := h.next more (kept.back (reaches _ _) (reaches _ _))
    exact within_skipBlock _ _ second (Nat.lt_succ_of_lt (length_rest_next more (.refl _)))
      (Nat.lt_succ_of_lt (length_rest_next (by simp [h.rest, more]) (.refl _))) kept
  · next line =>
    rw [if_neg line, if_neg line] at broken ⊢
    refine ⟨rfl, rfl, ?_⟩
    dsimp only at broken kept ⊢
    refine h.skipWhile kept (fun _ _ => ?_) (.refl _) (.refl _)
    rcases broken with breaks | more | room
    · exact .inl fun g hg => by simp [breaks g hg]
    · exact .inr more
    · rw [Reader.rest_skipWhile, h.rest] at room
      rw [Reader.rest_skipWhile]
      exact Within.stops_of_length (· != '\n') _ room

theorem within_noteDirective {file file' body : Text} {size size' : Nat} {start start' r t : Reader} {block : Bool}
    {following following' : Nat} (hs : (start'.offset == start'.lineStart) = (start.offset == start.lineStart))
    (h : Within k post r t) (kept : Kept post (noteDirective file size start block true following body r)
      (noteDirective file' size' start' block true following' body t)) :
    Within k post (noteDirective file size start block true following body r)
      (noteDirective file' size' start' block true following' body t) := by
  unfold noteDirective at kept ⊢
  rw [hs] at kept ⊢
  split at kept
  · next directive =>
    rw [if_pos directive, if_pos directive]
    -- a directive without faults notes a mark, here and there
    obtain ⟨⟨m, same⟩, ⟨m', same'⟩⟩ : (∃ m, readLineDirective file size following (start.offset + 7)
          ((if block then body.take (body.length - 2) else body).drop 7) r = { r with marks := m }) ∧
        ∃ m, readLineDirective file' size' following' (start'.offset + 7)
          ((if block then body.take (body.length - 2) else body).drop 7) t = { t with marks := m } := by
      rcases kept with ⟨-, clean⟩ | ⟨clean, -⟩
      · exact readLineDirective_clean clean _ _ _ _ _
      · exact (readLineDirective_clean clean _ _ _ _ _).symm
    rw [same, same']
    exact ⟨h.rest, h.offset, h.line, h.fresh, h.clean, h.solid⟩
  · next other =>
    rw [if_neg other, if_neg other]
    exact h

/-- A comment behind the start of the piece starts a line when it does so in the longer text. -/
theorem starts_line_eq {r t : Reader} (h : Within k post r t)
    (behind : 0 < r.offset ∨ t.lineStart = r.lineStart + k) :
    (t.offset == t.lineStart) = (r.offset == r.lineStart) := by
  rw [Bool.eq_iff_iff, beq_iff_eq, beq_iff_eq, h.offset]
  rcases h.line with line | ⟨first, before⟩
  · omega
  · omega

/-- **A comment is read the same way within a longer text**, unless it goes on there. -/
theorem within_readComment {file file' : Text} {size size' : Nat} {start start' r t : Reader}
    (hs : Within k post start start') (behind : 0 < start.offset ∨ start'.lineStart = start.lineStart + k)
    (reaches : Reaches start r) (h : Within k post r t)
    (broken : Broken post (readComment file size start r).2.1 (readComment file' size' start' t).2.1)
    (kept : Kept post (readComment file size start r).2.1 (readComment file' size' start' t).2.1) :
    (readComment file' size' start' t).1 = (readComment file size start r).1 ∧
      Within k post (readComment file size start r).2.1 (readComment file' size' start' t).2.1 ∧
        (readComment file' size' start' t).2.2 = (readComment file size start r).2.2.map (· + k) := by
  rw [readComment_eq] at broken kept ⊢
  rw [readComment_eq] at broken kept ⊢
  dsimp only at broken kept ⊢
  have stopped := kept.back (reaches_noteDirective _ _ _ _ _ _ _ _) (reaches_noteDirective _ _ _ _ _ _ _ _)
  have broken' : Broken post (commentEnd r).1 (commentEnd t).1 := by
    rcases broken with breaks | more | room
    · exact .inl breaks
    · refine .inr (.inl fun ended => more (List.eq_nil_of_length_eq_zero (Nat.le_zero.1 ?_)))
      refine Nat.le_trans (reaches_noteDirective _ _ _ _ _ _ _ _).length_le (Nat.le_of_eq ?_)
      rw [rest_checkClosed, ended, List.length_nil]
    · refine .inr (.inr (Nat.le_trans room ?_))
      refine Nat.le_trans (reaches_noteDirective _ _ _ _ _ _ _ _).length_le (Nat.le_of_eq ?_)
      rw [rest_checkClosed]
  obtain ⟨ended, ended', stop⟩ := within_commentEnd h broken' stopped
  have block := h.at'_eq stopped (c := '*') (by decide) fun star => by
    rw [rest_checkClosed, commentEnd, if_pos star]
    exact length_rest_next (ne_nil_of_at' star) (reaches_skipBlock _ _)
  have closed : checkClosed start.offset (commentEnd r) = (commentEnd r).1 := if_pos ended
  have closed' : checkClosed start'.offset (commentEnd t) = (commentEnd t).1 := if_pos ended'
  have lit := hs.between stop (reaches.trans (reaches_commentEnd r))
  rw [closed, closed', block, lit, ended, ended'] at kept ⊢
  refine ⟨rfl, within_noteDirective (starts_line_eq hs behind) stop kept, ?_⟩
  split
  · rw [Option.map_map, hs.offset]
    refine congrArg (fun f => Option.map f _) (funext fun i => ?_)
    simp only [Function.comp]
    omega
  · rfl

end Within

end DocAccessors.Source
