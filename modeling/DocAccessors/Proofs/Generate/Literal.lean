import DocAccessors.Generate.Emitter
import DocAccessors.Proofs.Text.Numeral
import DocAccessors.Proofs.Text.Quoted

/-!
# Reading generated literals

Generated code is read back from left to right. A scanner takes a value off the front of a text, and knows nothing of
what was to be written.

* `Reads s code a`: the scanner `s` takes `code` for `a`, whatever follows; `Reads.bind` puts readings together;
* `reads_natural`, `reads_integer`: numerals read as the numbers that they were written for;
* `reads_string`: a string literal ends at its own closing quote, and reads as its text.
-/

namespace DocAccessors.Literal

/-- What takes a value off the front of a text. -/
abbrev Scanner := StateT Text Option

/-- The scanner `s` takes `code` for `a`, whatever follows. -/
def Reads (s : Scanner α) (code : Text) (a : α) : Prop := ∀ rest, s (code ++ rest) = some (a, rest)

theorem reads_pure (a : α) : Reads (pure a) [] a := fun _ => rfl

theorem Reads.bind {s : Scanner α} {k : α → Scanner β} {c c' : Text} {a : α} {b : β} (hs : Reads s c a)
    (hk : Reads (k a) c' b) : Reads (s >>= k) (c ++ c') b := by
  intro rest
  change (s (c ++ c' ++ rest)).bind (fun p => k p.1 p.2) = some (b, rest)
  rw [List.append_assoc, hs]
  exact hk rest

theorem Reads.last {s : Scanner α} {k : α → Scanner β} {c : Text} {a : α} {b : β} (hs : Reads s c a)
    (hk : Reads (k a) [] b) : Reads (s >>= k) c b := by
  have h := hs.bind hk
  rwa [List.append_nil] at h

/-! ## Bytes -/

/-- Takes given bytes. -/
def exactly (p : Text) : Scanner Unit := fun t => (Text.dropStart? t p).map fun r => ((), r)

/-- Takes given bytes for `a` if they come next, and goes on with `s` otherwise. -/
def ifNext (p : Text) (a : α) (s : Scanner α) : Scanner α := fun t =>
  match Text.dropStart? t p with
  | some r => some (a, r)
  | none => s t

/-- Takes the bytes before the next `stop`, and that byte as well. -/
def before (stop : UInt8) : Scanner Text := fun t =>
  match t.dropWhile (· != stop) with
  | [] => none
  | _ :: r => some (t.takeWhile (· != stop), r)

/-- Goes on with a value if there is one. -/
def given (a : Option α) : Scanner α := StateT.lift a

theorem dropStart?_append (p r : Text) : Text.dropStart? (p ++ r) p = some r := by
  have starts : Text.startsWith (p ++ r) p = true := List.isPrefixOf_iff_prefix.2 (List.prefix_append p r)
  simp [Text.dropStart?, starts]

theorem reads_exactly (p : Text) : Reads (exactly p) p () := by
  intro rest
  simp [exactly, dropStart?_append]

theorem reads_ifNext (p : Text) (a : α) (s : Scanner α) : Reads (ifNext p a s) p a := by
  intro rest
  simp [ifNext, dropStart?_append]

theorem Reads.ifNext {s : Scanner α} {c p : Text} {b : α} (hs : Reads s c b)
    (other : ∀ rest, Text.startsWith (c ++ rest) p = false) (a : α) : Reads (ifNext p a s) c b := by
  intro rest
  have skip : Text.dropStart? (c ++ rest) p = none := by
    simp [Text.dropStart?, other]
  rw [Literal.ifNext, skip]
  exact hs rest

theorem reads_before {stop : UInt8} {c : Text} (h : ∀ b ∈ c, b ≠ stop) : Reads (before stop) (c ++ [stop]) c := by
  intro rest
  have pass : ∀ b ∈ c, (b != stop) = true := fun b hb => by simpa using h b hb
  have taken : (c ++ [stop] ++ rest).takeWhile (· != stop) = c := by
    rw [List.append_assoc, List.takeWhile_append_of_pos pass]
    simp
  have dropped : (c ++ [stop] ++ rest).dropWhile (· != stop) = stop :: rest := by
    rw [List.append_assoc, List.dropWhile_append_of_pos pass]
    simp
  simp only [before, taken, dropped]

theorem reads_given {o : Option α} {a : α} (h : o = some a) : Reads (given o) [] a := by
  subst h
  exact fun _ => rfl

/-! ## Numbers -/

/-- The integer of a decimal numeral. -/
def int? : Text → Option Int
  | 45 :: t => (Text.toNat? t).map fun n => -(n : Int)
  | t => (Text.toNat? t).map fun n => (n : Int)

/-- A natural number, up to the byte `stop`. -/
def natural (stop : UInt8) : Scanner Nat := do given (Text.toNat? (← before stop))

/-- An integer, up to the byte `stop`. -/
def integer (stop : UInt8) : Scanner Int := do given (int? (← before stop))

theorem int?_ofInt (i : Int) : int? (Text.ofInt i) = some i := by
  cases i with
  | negSucc n => simp [Text.ofInt, int?, Text.toNat?_ofNat, Int.negSucc_eq]
  | ofNat n =>
    have digit : ∀ r, Text.ofNat n ≠ 45 :: r := by
      intro r h
      exact absurd (Text.isDigitByte_of_mem_ofNat (h ▸ List.mem_cons_self)) (by decide)
    simp [Text.ofInt, int?.eq_2 _ digit, Text.toNat?_ofNat]

theorem ne_of_mem_ofInt {i : Int} {b : UInt8} (h : b ∈ Text.ofInt i) : b ≠ 44 := by
  rintro rfl
  exact absurd (Text.sign_or_digit_of_mem_ofInt h) (by decide)

theorem reads_natural (n : Nat) : Reads (natural 93) (Text.ofNat n ++ text "]") n := by
  refine (reads_before fun b hb => ?_).last (reads_given (Text.toNat?_ofNat n))
  rintro rfl
  exact absurd (Text.isDigitByte_of_mem_ofNat hb) (by decide)

theorem reads_integer (i : Int) : Reads (integer 44) (Text.ofInt i ++ text ",") i :=
  (reads_before fun _ hb => ne_of_mem_ofInt hb).last (reads_given (int?_ofInt i))

/-! ## Strings -/

/-- The bytes up to the next quote that is not escaped, and that quote; then what follows. -/
def closing : Text → Option (Text × Text)
  | [] => none
  | b :: t =>
    if b = 34 then some ([b], t)
    else if b = 92 then
      match t with
      | [] => none
      | e :: t => (closing t).map fun p => (b :: e :: p.1, p.2)
    else (closing t).map fun p => (b :: p.1, p.2)

/-- A string literal between double quotes. -/
def string : Scanner Text := do
  exactly "\""
  given (Text.unquote? (text "\"" ++ (← closing)))

/-- The search for the closing quote passes over `u`. -/
def Passes (u : Text) : Prop := ∀ r, closing (u ++ r) = (closing r).map fun p => (u ++ p.1, p.2)

theorem passes_nil : Passes [] := by
  intro r
  cases h : closing r <;> simp [h]

theorem Passes.append {u v : Text} (hu : Passes u) (hv : Passes v) : Passes (u ++ v) := by
  intro r
  rw [List.append_assoc, hu, hv, Option.map_map]
  congr 1
  funext p
  simp

theorem passes_plain {u : Text} (h : ∀ b ∈ u, b ≠ 34 ∧ b ≠ 92) : Passes u := by
  induction u with
  | nil => exact passes_nil
  | cons b u ih =>
    have one : Passes [b] := by
      intro r
      obtain ⟨quote, escape⟩ := h b (by simp)
      rw [List.singleton_append, closing.eq_def]
      simp [quote, escape]
    exact one.append (ih fun b' hb' => h b' (by simp [hb']))

theorem passes_escape {e : UInt8} {u : Text} (h : ∀ b ∈ u, b ≠ 34 ∧ b ≠ 92) : Passes (92 :: e :: u) := by
  have unit : Passes [92, e] := by
    intro r
    simp [closing]
  exact unit.append (passes_plain h)

theorem passes_flatMap {us : List α} {f : α → Text} (h : ∀ u ∈ us, Passes (f u)) : Passes (us.flatMap f) := by
  induction us with
  | nil => exact passes_nil
  | cons u us ih =>
    rw [List.flatMap_cons]
    exact (h u (by simp)).append (ih fun u' hu' => h u' (by simp [hu']))

theorem plain_ofChar {c : Char} (quote : c ≠ '"') (escape : c ≠ '\\') : ∀ b ∈ Text.ofChar c, b ≠ 34 ∧ b ≠ 92 := by
  have other : ∀ a : Char, a.toNat < 128 → c ≠ a → ∀ b ∈ Text.ofChar c, b.toNat ≠ a.toNat := fun a ha hc =>
    Text.ne_of_mem_ofChar ha fun same => hc (Char.toNat_inj.1 same)
  intro b hb
  refine ⟨?_, ?_⟩
  · rintro rfl
    exact other '"' (by decide) quote _ hb rfl
  · rintro rfl
    exact other '\\' (by decide) escape _ hb rfl

theorem plain_hex (k n : Nat) : ∀ b ∈ Text.hex k n, b ≠ 34 ∧ b ≠ 92 := by
  have plain : ∀ d < 16, Text.digitByte d ≠ 34 ∧ Text.digitByte d ≠ 92 := by decide
  intro b hb
  rw [Text.hex_eq_map] at hb
  obtain ⟨d, hd, rfl⟩ := List.mem_map.1 hb
  exact plain d (Text.lt_of_mem_hexDigits hd)

theorem passes_escapeChar (c : Char) : Passes (Text.escapeChar '"' c) := by
  have letter : ∀ e : UInt8, Passes [92, e] := fun e => passes_escape (by simp)
  unfold Text.escapeChar
  split
  · next h =>
    rw [Bool.or_eq_true, beq_iff_eq, beq_iff_eq] at h
    rcases h with rfl | rfl
    · exact letter 34
    · exact letter 92
  · next h =>
    rw [Bool.or_eq_true, beq_iff_eq, beq_iff_eq, not_or] at h
    split
    · exact passes_plain (plain_ofChar h.1 h.2)
    · split
      · exact letter 97
      · exact letter 98
      · exact letter 102
      · exact letter 110
      · exact letter 114
      · exact letter 116
      · exact letter 118
      · split
        · exact passes_escape (plain_hex 2 _)
        · split
          · exact passes_escape (plain_hex 4 _)
          · exact passes_escape (plain_hex 8 _)

theorem passes_escapeGlyph (g : Text.Glyph) : Passes (Text.escapeGlyph '"' g) := by
  unfold Text.escapeGlyph
  split
  · exact passes_flatMap fun b _ => passes_escape (plain_hex 2 _)
  · exact passes_escapeChar g.char

/-- A quoted text ends at its own closing quote. -/
theorem reads_string (t : Text) : Reads string (Text.quote t) t := by
  have body : Reads closing ((Text.glyphs t).flatMap (Text.escapeGlyph '"') ++ text "\"")
      ((Text.glyphs t).flatMap (Text.escapeGlyph '"') ++ text "\"") := by
    intro rest
    have stop : closing (text "\"" ++ rest) = some (text "\"", rest) := by
      rw [show text "\"" = [34] from rfl, List.singleton_append, closing.eq_def]
      simp
    rw [List.append_assoc, passes_flatMap (fun g _ => passes_escapeGlyph g), stop]
    rfl
  have value : Text.unquote? (text "\"" ++ ((Text.glyphs t).flatMap (Text.escapeGlyph '"') ++ text "\"")) = some t := by
    rw [← List.append_assoc]
    exact Text.unquote?_quote t
  rw [Text.quote, List.append_assoc]
  exact (reads_exactly "\"").bind (body.last (reads_given value))

end DocAccessors.Literal
