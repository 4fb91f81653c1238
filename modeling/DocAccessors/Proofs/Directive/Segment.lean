import DocAccessors.Directive.OptionList

/-!
# The segments of an option list

An option list is made of segments with commas between them, and each segment is one option or one problem, whatever
the others are. The reader does not cut the list first: it walks over the tokens and, wherever it stops, finds its way
to the next comma outside brackets. It always finds the comma that ends the segment.

* `segments` cuts a list of tokens;
* `Input.readSegment` says what one segment is;
* `readFrom_eq`: reading a list is reading its segments one by one.
-/

namespace DocAccessors

open DocAccessors.Source (Lexeme Token)

namespace OptionList

/-- The tokens of one option, and the comma after them. -/
structure Segment where
  tokens : List Lexeme
  comma : Option Lexeme

/-- Cuts tokens at the commas outside brackets; nothing after a last comma is no segment. `done` holds the
tokens of the open segment, last first. -/
def segmentsFrom (depth : Nat) (done : List Lexeme) : List Lexeme → List Segment
  | [] => if done.isEmpty then [] else [⟨done.reverse, none⟩]
  | t :: ts =>
    if t.token == .comma && depth == 0 then ⟨done.reverse, some t⟩ :: segmentsFrom 0 [] ts
    else segmentsFrom (depthAfter depth t.token) (t :: done) ts

/-- The segments of a list of tokens. -/
def segments (ts : List Lexeme) : List Segment := segmentsFrom 0 [] ts

def Input.readSegment (i : Input) (s : Segment) : Except Diagnostic ReadOption :=
  match s.tokens with
  | [] => .error (i.noKey (s.comma.getD default))
  | key :: rest =>
    if key.token != .ident && !key.token.isKeyword then .error (i.noKey key)
    else match i.key? key with
      | none => .error (i.notInSet key)
      | some k =>
        match rest with
        | [] => .error (i.noEquals key s.comma)
        | equals :: rest =>
          if equals.token != .assign then .error (i.noEquals key (some equals))
          else match rest with
            | [] => .error (i.noValue key equals)
            | first :: rest => i.option key k first rest

theorem mem_kinds (k : OptionKind) : k ∈ OptionKind.all := by cases k <;> decide

/-! ## Walking and cutting -/

theorem cutFrom_append (depth : Nat) (ts : List Lexeme) : (cutFrom depth ts).1 ++ (cutFrom depth ts).2 = ts := by
  induction ts generalizing depth with
  | nil => rfl
  | cons t ts ih =>
    unfold cutFrom
    split
    · rfl
    · exact congrArg (t :: ·) (ih _)

/-- The open segment of a list ends where the walk stops. -/
theorem segmentsFrom_eq (depth : Nat) (done ts : List Lexeme) :
    segmentsFrom depth done ts =
      match (cutFrom depth ts).2 with
      | [] => if (done.reverse ++ (cutFrom depth ts).1).isEmpty then [] else [⟨done.reverse ++ (cutFrom depth ts).1, none⟩]
      | comma :: after => ⟨done.reverse ++ (cutFrom depth ts).1, some comma⟩ :: segments after := by
  induction ts generalizing depth done with
  | nil => cases done <;> simp [segmentsFrom, cutFrom]
  | cons t ts ih =>
    unfold segmentsFrom cutFrom
    split
    · simp [segments]
    · rw [ih]
      simp

/-- The first segment of a list ends at the first comma outside brackets, and the others begin behind it. -/
theorem segments_eq_cons {ts : List Lexeme} (some_token : ts ≠ []) :
    segments ts = ⟨(cutFrom 0 ts).1, (cutFrom 0 ts).2.head?⟩ :: segments (resume ts) := by
  rw [segments, segmentsFrom_eq, resume]
  cases after : (cutFrom 0 ts).2 with
  | nil =>
    have all : (cutFrom 0 ts).1 ≠ [] := by
      intro none
      exact some_token (by rw [← cutFrom_append 0 ts, none, after, List.append_nil])
    simp [all, segments, segmentsFrom]
  | cons comma after => rfl

/-- Before the first comma outside brackets there is none. -/
theorem cutFrom_fst (depth : Nat) (ts : List Lexeme) :
    cutFrom depth (cutFrom depth ts).1 = ((cutFrom depth ts).1, []) := by
  induction ts generalizing depth with
  | nil => rfl
  | cons t ts ih =>
    by_cases ends : (t.token == .comma && depth == 0) = true
    · rw [cutFrom, if_pos ends]
      rfl
    · rw [cutFrom, if_neg ends]
      dsimp only
      rw [cutFrom, if_neg ends, ih]

/-- A segment has no comma outside brackets. -/
theorem cutFrom_of_mem {s : Segment} {ts : List Lexeme} (h : s ∈ segments ts) : cutFrom 0 s.tokens = (s.tokens, []) := by
  induction length : ts.length using Nat.strongRecOn generalizing ts with
  | _ n ih =>
    cases ts with
    | nil => cases h
    | cons t ts =>
      rw [segments_eq_cons (List.cons_ne_nil t ts)] at h
      rcases List.mem_cons.1 h with rfl | h
      · exact cutFrom_fst 0 _
      · have shorter := length_resume (t :: ts)
        rw [List.length_cons] at length shorter
        exact ih _ (by omega) h rfl

/-- Outside brackets, a token that is neither a comma nor a bracket leaves the rest to be cut. -/
theorem cutFrom_cons {t : Lexeme} (ts : List Lexeme) (comma : t.token ≠ .comma) (plain : depthAfter 0 t.token = 0) :
    cutFrom 0 (t :: ts) = (t :: (cutFrom 0 ts).1, (cutFrom 0 ts).2) := by
  rw [cutFrom, if_neg (by simp [comma]), plain]

/-- The first token, unless it is a comma, is in the first segment. -/
theorem cutFrom_cases (t : Lexeme) (ts : List Lexeme) :
    cutFrom 0 (t :: ts) = ([], t :: ts) ∨ ∃ rest, (cutFrom 0 (t :: ts)).1 = t :: rest := by
  by_cases comma : t.token = .comma
  · exact .inl (by simp [cutFrom, comma])
  · exact .inr ⟨_, by rw [cutFrom, if_neg (by simp [comma])]⟩

theorem isName_iff {t : Token} : ¬(t != .ident && !t.isKeyword) = true ↔ t = .ident ∨ t.isKeyword = true := by
  simp [Decidable.or_iff_not_imp_left]

/-- Names are neither commas nor brackets. -/
theorem plain_of_isName {t : Token} (name : ¬(t != .ident && !t.isKeyword) = true) : t ≠ .comma ∧ depthAfter 0 t = 0 := by
  revert name
  cases t <;> decide

/-- A name begins the segment that goes on with what follows it. -/
theorem segments_of_isName {key : Lexeme} (ts : List Lexeme)
    (name : ¬(key.token != .ident && !key.token.isKeyword) = true) :
    segments (key :: ts) = ⟨key :: (cutFrom 0 ts).1, (cutFrom 0 ts).2.head?⟩ :: segments (resume ts) := by
  obtain ⟨comma, plain⟩ := plain_of_isName name
  rw [segments_eq_cons (List.cons_ne_nil key ts), resume, cutFrom_cons ts comma plain, resume]

/-- **Reading a list is reading its segments one by one.** Wherever the walk stops in a segment, it goes on behind the
comma that ends the segment. -/
theorem readFrom_eq (i : Input) (ts : List Lexeme) : i.readFrom ts = (segments ts).map i.readSegment := by
  fun_induction Input.readFrom i ts with
  | case1 => rfl
  | case2 key ts notName ih =>
    -- the token itself may be the comma that ends the segment
    rw [segments_eq_cons (List.cons_ne_nil key ts), List.map_cons, ← ih]
    congr 1
    rcases cutFrom_cases key ts with cut | ⟨rest, cut⟩
    · simp [Input.readSegment, cut]
    · simp [Input.readSegment, cut, notName]
  | case3 key ts name unknown ih =>
    rw [segments_of_isName ts name, List.map_cons, ← ih]
    simp [Input.readSegment, name, unknown]
  | case4 key name k known =>
    rw [segments_of_isName [] name, List.map_cons]
    simp [Input.readSegment, name, known, cutFrom, resume, segments, segmentsFrom]
  | case5 key name k known equals ts notEquals ih =>
    rw [segments_of_isName _ name, List.map_cons, ← ih]
    congr 1
    rcases cutFrom_cases equals ts with cut | ⟨rest, cut⟩
    · simp [Input.readSegment, name, known, cut]
    · simp [Input.readSegment, name, known, cut, notEquals]
  | case6 key name k known equals ts isEquals after noValue ih =>
    have assign : equals.token = .assign := by simpa using isEquals
    have cut := cutFrom_cons ts (t := equals) (by simp [assign]) (by simp [assign, depthAfter])
    rw [segments_of_isName _ name, List.map_cons, resume, cut, ← resume, ← ih]
    simp [Input.readSegment, name, known, assign, noValue, after]
  | case7 key name k known equals ts isEquals after first rest value ih =>
    have assign : equals.token = .assign := by simpa using isEquals
    have cut := cutFrom_cons ts (t := equals) (by simp [assign]) (by simp [assign, depthAfter])
    rw [segments_of_isName _ name, List.map_cons, resume, cut, ← resume, ← ih]
    simp [Input.readSegment, name, known, assign, value, after]

end OptionList
end DocAccessors
