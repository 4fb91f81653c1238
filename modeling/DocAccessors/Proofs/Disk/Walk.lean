import DocAccessors.Disk.Basic
import DocAccessors.Proofs.Text.Lines
import Mathlib.Data.List.Basic

/-!
# Where paths lead

A path is followed step by step through directories, so a step into a directory and back out of it can be left out.

* `Disk.locate_clean`: the shortest form of a path that leads to a directory leads to the same directory;
* `Disk.stat_dir`: the directory of a path that leads anywhere but to a directory is there;
* `Disk.SameBut`: two disks with the same directories, whose files differ at some places only; following a path gives
  the same on both (`Disk.SameBut.locate`).
-/

namespace DocAccessors

/-! ## Steps of a path -/

namespace Path

theorem dirPart_append {b : Text} (h : 47 ∉ b) (a : Text) : dirPart (a ++ 47 :: b) = a ++ [47] := by
  have found : (a ++ 47 :: b).reverse.findIdx? (· == 47) = some b.length := by
    have before : b.reverse.findIdx? (· == 47) = none :=
      List.findIdx?_eq_none_iff.2 fun x hx => by simpa using ne_of_mem_of_not_mem (List.mem_reverse.1 hx) h
    rw [List.reverse_append, List.reverse_cons, List.append_assoc, List.findIdx?_append, before]
    simp [List.findIdx?_cons]
  have index : Text.lastIndexOf? (a ++ 47 :: b) 47 = some a.length := by
    rw [Text.lastIndexOf?, found, Option.map_some]
    simp
  simp [dirPart, index, List.take_append, List.take_of_length_le]

theorem dirPart_of_notMem {p : Text} (h : 47 ∉ p) : dirPart p = [] := by
  have missing : p.reverse.findIdx? (· == 47) = none :=
    List.findIdx?_eq_none_iff.2 fun x hx => by simpa using ne_of_mem_of_not_mem (List.mem_reverse.1 hx) h
  rw [dirPart, Text.lastIndexOf?, missing, Option.map_none]

/-- The elements that are left are names: not empty, not the place itself, and without a slash. -/
theorem of_mem_reduce {rooted : Bool} {stack es : List Text}
    (hs : ∀ e ∈ stack, e ≠ [] ∧ e ≠ text "." ∧ 47 ∉ e) (he : ∀ e ∈ es, 47 ∉ e) {e : Text}
    (h : e ∈ reduce rooted stack es) : e ≠ [] ∧ e ≠ text "." ∧ 47 ∉ e := by
  fun_induction reduce rooted stack es with
  | case1 stack => exact hs e (List.mem_reverse.1 h)
  | case2 stack x es _ ih => exact ih hs (fun y hy => he y (by simp [hy])) h
  | case3 x es _ up ih =>
    refine ih (fun y hy => ?_) (fun y hy => he y (by simp [hy])) h
    rw [beq_iff_eq] at up
    have parent : y = text ".." := by
      split at hy
      · cases hy
      · rw [List.mem_singleton] at hy
        rw [hy, up]
    subst parent
    decide
  | case4 x es _ up top rest _ ih =>
    refine ih (fun y hy => ?_) (fun y hy => he y (by simp [hy])) h
    rcases List.mem_cons.1 hy with rfl | hy
    · rw [beq_iff_eq] at up
      subst up
      decide
    · exact hs y hy
  | case5 x es _ _ top rest _ ih =>
    exact ih (fun y hy => hs y (by simp [hy])) (fun y hy => he y (by simp [hy])) h
  | case6 stack x es plain _ ih =>
    refine ih (fun y hy => ?_) (fun y hy => he y (by simp [hy])) h
    rcases List.mem_cons.1 hy with rfl | hy
    · simp only [Bool.or_eq_true, not_or, List.isEmpty_iff, beq_iff_eq] at plain
      exact ⟨plain.1, plain.2, he y (by simp)⟩
    · exact hs y hy

/-- Below the root nothing is left of a step to the parent. -/
theorem ne_parent_of_mem_reduce {stack es : List Text} (hs : ∀ e ∈ stack, e ≠ text "..") {e : Text}
    (h : e ∈ reduce true stack es) : e ≠ text ".." := by
  fun_induction reduce true stack es with
  | case1 stack => exact hs e (List.mem_reverse.1 h)
  | case2 stack x es _ ih => exact ih hs h
  | case3 x es _ _ ih => exact ih (by simp) h
  | case4 x es _ _ top rest parent _ => exact absurd (beq_iff_eq.1 parent) (hs top (by simp))
  | case5 x es _ _ top rest _ ih => exact ih (fun y hy => hs y (by simp [hy])) h
  | case6 stack x es _ other ih =>
    refine ih (fun y hy => ?_) h
    rcases List.mem_cons.1 hy with rfl | hy
    · simpa using other
    · exact hs y hy

/-- The elements of the shortest form of a path. -/
def shortest (p : Text) : List Text := reduce (isAbs p) [] (Text.split 47 p)

theorem clean_eq (p : Text) :
    clean p = if isAbs p = true then 47 :: Text.join [47] (shortest p)
      else if Text.join [47] (shortest p) = [] then text "." else Text.join [47] (shortest p) := by
  simp only [clean, List.isEmpty_iff]
  rfl

theorem clean_ne_nil (p : Text) : clean p ≠ [] := by
  rw [clean_eq]
  split
  · exact List.cons_ne_nil _ _
  · split
    · exact List.cons_ne_nil _ _
    · next nonempty => exact nonempty

end Path

namespace Disk

/-! ## Walking -/

variable {d d' : Disk}

theorem walk_append (d : Disk) (l : Location) (ms ns : List Text) :
    d.walk l (ms ++ ns) = (d.walk l ms).bind fun m => d.walk m ns := by
  induction ms generalizing l with
  | nil => rfl
  | cons m ms ih =>
    rw [List.cons_append, walk, walk]
    split
    · rfl
    · rfl
    · exact ih _

theorem walk_cons_ok {l m : Location} {n : Text} {ns : List Text} (h : d.walk l (n :: ns) = .ok m) :
    d.get? l = some .directory ∧
      d.walk (if n == text "." then l else if n == text ".." then l.dropLast else l ++ [n]) ns = .ok m := by
  rw [walk] at h
  split at h
  · cases h
  · cases h
  · next found => exact ⟨found, h⟩

theorem walk_append_ok {l m : Location} {ms ns : List Text} (h : d.walk l (ms ++ ns) = .ok m) :
    ∃ k, d.walk l ms = .ok k ∧ d.walk k ns = .ok m := by
  rw [walk_append] at h
  cases first : d.walk l ms with
  | error c => rw [first] at h; cases h
  | ok k => rw [first] at h; exact ⟨k, rfl, h⟩

/-- A step that stays, and a step into a directory and back, can be left out. -/
theorem walk_reduce {rooted : Bool} {l m : Location} {stack es : List Text} (root : rooted = true → l = [])
    (names : ∀ e ∈ stack, e ≠ text ".")
    (h : d.walk l (stack.reverse ++ es.filter fun e => !e.isEmpty) = .ok m) :
    d.walk l (Path.reduce rooted stack es) = .ok m := by
  fun_induction Path.reduce rooted stack es with
  | case1 stack => simpa using h
  | case2 stack e es skipped ih =>
    refine ih names ?_
    cases empty : e.isEmpty with
    | true => simpa [empty] using h
    | false =>
      have dot : e = text "." := by simpa [empty] using skipped
      rw [List.filter_cons_of_pos (by simp [empty])] at h
      obtain ⟨k, walked, rest⟩ := walk_append_ok h
      rw [walk_append, walked]
      have stays := (walk_cons_ok rest).2
      rwa [if_pos (by simpa using dot)] at stays
  | case3 es e plain up ih =>
    simp only [Bool.or_eq_true, not_or, Bool.not_eq_true] at plain
    rw [List.filter_cons_of_pos (by simp [plain.1])] at h
    rw [beq_iff_eq] at up
    cases rooted with
    | true =>
      obtain rfl := root rfl
      refine ih (by simp) ?_
      simpa [up] using (walk_cons_ok h).2
    | false => exact ih (by simp [up]; decide) (by simpa using h)
  | case4 e es plain up top rest _ ih =>
    simp only [Bool.or_eq_true, not_or, Bool.not_eq_true] at plain
    rw [List.filter_cons_of_pos (by simp [plain.1])] at h
    refine ih (fun x hx => ?_) (by simpa using h)
    rcases List.mem_cons.1 hx with rfl | hx
    · simpa using plain.2
    · exact names x hx
  | case5 e es plain up top rest notUp ih =>
    simp only [Bool.or_eq_true, not_or, Bool.not_eq_true] at plain
    rw [List.filter_cons_of_pos (by simp [plain.1]), List.reverse_cons, List.append_assoc, List.singleton_append] at h
    refine ih (fun x hx => names x (by simp [hx])) ?_
    obtain ⟨k, walked, through⟩ := walk_append_ok h
    have into := (walk_cons_ok through).2
    have proper : top ≠ text "." := names top (by simp)
    rw [if_neg (by simpa using proper), if_neg (by simpa using notUp)] at into
    have out := (walk_cons_ok into).2
    have back : (if e == text "." then k ++ [top] else if e == text ".." then (k ++ [top]).dropLast
        else (k ++ [top]) ++ [e]) = k := by
      rw [if_neg (by simp [plain.2]), if_pos up, List.dropLast_concat]
    rw [back] at out
    rw [walk_append, walked]
    exact out
  | case6 stack e es plain _ ih =>
    simp only [Bool.or_eq_true, not_or, Bool.not_eq_true] at plain
    rw [List.filter_cons_of_pos (by simp [plain.1])] at h
    refine ih (fun x hx => ?_) (by simpa using h)
    rcases List.mem_cons.1 hx with rfl | hx
    · simpa using plain.2
    · exact names x hx

theorem walk_dot {l m : Location} (h : d.walk l [text "."] = .ok m) : m = l ∧ d.get? l = some .directory := by
  obtain ⟨dir, stays⟩ := walk_cons_ok h
  have here : d.walk l [] = .ok m := stays
  rw [walk, Except.ok.injEq] at here
  exact ⟨here.symm, dir⟩

theorem walk_names {l m : Location} {ns : List Text} (plain : ∀ n ∈ ns, n ≠ text "." ∧ n ≠ text "..")
    (h : d.walk l ns = .ok m) : m = l ++ ns := by
  induction ns generalizing l with
  | nil =>
    rw [walk, Except.ok.injEq] at h
    simp [h]
  | cons n ns ih =>
    have name := plain n (by simp)
    have rest := (walk_cons_ok h).2
    rw [if_neg (by simpa using name.1), if_neg (by simpa using name.2)] at rest
    rw [ih (fun x hx => plain x (by simp [hx])) rest, List.append_assoc, List.singleton_append]

/-! ## Following paths -/

def names (p : Text) : List Text := (Text.split 47 p).filter fun n => !n.isEmpty

theorem names_append (a b : Text) : names (a ++ 47 :: b) = names a ++ names b := by
  rw [names, Text.split_append, List.filter_append, names, names]

theorem names_of_notMem {b : Text} (h : 47 ∉ b) (hne : b ≠ []) : names b = [b] := by
  rw [names, Text.split_of_notMem h, List.filter_cons_of_pos (by simpa using hne), List.filter_nil]

/-- Where a path starts. -/
def origin (d : Disk) (p : Text) : Location := if Path.isAbs p then [] else d.current

theorem locate_eq {p : Text} (h : p ≠ []) : d.locate p = d.walk (d.origin p) (steps p) := by
  rw [locate, if_neg (by simpa using h), origin]

theorem ne_nil_of_locate {p : Text} {l : Location} (h : d.locate p = .ok l) : p ≠ [] := by
  rintro rfl
  cases h

theorem steps_slash (a : Text) : steps (a ++ [47]) = names a ++ [text "."] := by
  have last : (a ++ [47]).getLast? = some 47 := by simp
  rw [steps, if_pos (by simp [last])]
  change names (a ++ 47 :: []) ++ _ = _
  rw [names_append, show names [] = [] from rfl, List.append_nil]

theorem steps_of_getLast {p : Text} (h : p.getLast? ≠ some 47) : steps p = names p := by
  rw [steps, if_neg (by simpa using h), names]

/-- A name of an entry of a directory. -/
def IsName (n : Text) : Prop := n ≠ [] ∧ 47 ∉ n

theorem join_ne_nil {es : List Text} (hne : es ≠ []) (plain : ∀ e ∈ es, IsName e) : Text.join [47] es ≠ [] := by
  obtain ⟨e, es, rfl⟩ := List.exists_cons_of_ne_nil hne
  cases es with
  | nil => exact (plain e (by simp)).1
  | cons f fs => simp [Text.join]

theorem getLast?_join {es : List Text} (plain : ∀ e ∈ es, IsName e) : (Text.join [47] es).getLast? ≠ some 47 := by
  induction es with
  | nil => simp [Text.join]
  | cons e es ih =>
    cases es with
    | nil => exact fun last => (plain e (by simp)).2 (List.mem_of_getLast? last)
    | cons f fs =>
      have others : ∀ x ∈ f :: fs, IsName x := fun x hx => plain x (by simp [hx])
      have cons : Text.join [47] (e :: f :: fs) = e ++ [47] ++ Text.join [47] (f :: fs) := rfl
      rw [cons, List.getLast?_append_of_ne_nil _ (join_ne_nil (by simp) others)]
      exact ih others

theorem names_join {es : List Text} (plain : ∀ e ∈ es, IsName e) : names (Text.join [47] es) = es := by
  cases es with
  | nil => rfl
  | cons e es =>
    rw [names, Text.split_join (by simp) fun x hx => (plain x hx).2]
    exact List.filter_eq_self.2 fun x hx => by simpa using (plain x hx).1

theorem head?_join {es : List Text} (plain : ∀ e ∈ es, IsName e) : (Text.join [47] es).head? ≠ some 47 := by
  cases es with
  | nil => simp [Text.join]
  | cons e es =>
    obtain ⟨ne, slash⟩ := plain e (by simp)
    obtain ⟨b, e, rfl⟩ := List.exists_cons_of_ne_nil ne
    have other : b ≠ 47 := fun hb => slash (by simp [hb])
    cases es <;> simpa [Text.join] using other

theorem steps_rooted {es : List Text} (plain : ∀ e ∈ es, IsName e) (hne : es ≠ []) :
    steps (47 :: Text.join [47] es) = es := by
  have last : (47 :: Text.join [47] es).getLast? ≠ some 47 := by
    rw [← List.singleton_append, List.getLast?_append_of_ne_nil _ (join_ne_nil hne plain)]
    exact getLast?_join plain
  rw [steps_of_getLast last, ← List.nil_append (47 :: _), names_append, names_join plain]
  rfl

theorem isName_of_mem_shortest {p e : Text} (h : e ∈ Path.shortest p) : IsName e ∧ e ≠ text "." :=
  have name := Path.of_mem_reduce (by simp) (fun _ hx => Text.notMem_of_mem_split hx) h
  ⟨⟨name.1, name.2.2⟩, name.2.1⟩

theorem steps_clean (p : Text) :
    steps (Path.clean p) = if Path.shortest p = [] then [text "."] else Path.shortest p := by
  have plain : ∀ e ∈ Path.shortest p, IsName e := fun e he => (isName_of_mem_shortest he).1
  rw [Path.clean_eq]
  cases elements : Path.shortest p with
  | nil => cases Path.isAbs p <;> rfl
  | cons e es =>
    rw [elements] at plain
    have nonempty := join_ne_nil (List.cons_ne_nil e es) plain
    rw [if_neg (List.cons_ne_nil e es)]
    split
    · exact steps_rooted plain (List.cons_ne_nil e es)
    · rw [steps_of_getLast (getLast?_join plain), names_join plain]

/-- The shortest form of a path starts where the path starts. -/
theorem origin_clean (d : Disk) (p : Text) : d.origin (Path.clean p) = d.origin p := by
  have plain : ∀ e ∈ Path.shortest p, IsName e := fun e he => (isName_of_mem_shortest he).1
  have same : Path.isAbs (Path.clean p) = Path.isAbs p := by
    rw [Path.clean_eq]
    cases rooted : Path.isAbs p with
    | true => rfl
    | false =>
      rw [if_neg Bool.false_ne_true]
      split
      · rfl
      · simpa [Path.isAbs] using head?_join plain
  rw [origin, origin, same]

/-- The shortest form of a path leads through the elements that are left. -/
theorem locate_clean_eq (d : Disk) (p : Text) :
    d.locate (Path.clean p) =
      d.walk (d.origin p) (if Path.shortest p = [] then [text "."] else Path.shortest p) := by
  rw [locate_eq (Path.clean_ne_nil p), origin_clean, steps_clean]

/-- The shortest form of a path to a directory leads to the same directory. -/
theorem locate_clean {p : Text} {l : Location} (h : d.locate p = .ok l) (dir : d.get? l = some .directory) :
    d.locate (Path.clean p) = .ok l := by
  have walked : d.walk (d.origin p) (Path.shortest p) = .ok l := by
    refine walk_reduce (fun root => by simp [origin, root]) (by simp) ?_
    rw [locate_eq (ne_nil_of_locate h), steps] at h
    split at h
    · obtain ⟨k, first, last⟩ := walk_append_ok h
      rw [(walk_dot last).1]
      exact first
    · exact h
  rw [locate_clean_eq]
  split
  · next empty =>
    -- nothing is left of the path: it leads to where it starts
    rw [empty, walk, Except.ok.injEq] at walked
    rw [walked, walk, dir]
    rfl
  · exact walked

/-- The shortest form of an absolute path spells the place that it leads to. -/
theorem pathOf_of_locate {p : Text} (abs : Path.isAbs p = true) {l : Location}
    (h : d.locate (Path.clean p) = .ok l) : Path.clean p = pathOf l := by
  have plain : ∀ e ∈ Path.shortest p, e ≠ text "." ∧ e ≠ text ".." := fun e he => by
    refine ⟨(isName_of_mem_shortest he).2, ?_⟩
    rw [Path.shortest, abs] at he
    exact Path.ne_parent_of_mem_reduce (by simp) he
  have place : l = Path.shortest p := by
    rw [locate_clean_eq, origin, if_pos abs] at h
    split at h
    · next empty => rw [empty, (walk_dot h).1]
    · exact walk_names plain h
  rw [Path.clean_eq, if_pos abs, place]
  rfl

theorem stat_eq {p : Text} {l : Location} {e : Entry} (h : d.locate p = .ok l) (held : d.get? l = some e) :
    d.stat p = .ok e := by
  simp [stat, h, held, bind, Except.bind]

theorem ensureDirectory_of_stat {p : Text} (h : d.stat p = .ok .directory) : d.ensureDirectory p = .ok d := by
  rw [ensureDirectory]
  split
  · rfl
  · rw [makeDirectories, makeDirectoriesWithin, h]

/-- The directory of a path that leads anywhere but to a directory is there already. -/
theorem ensureDirectory_dir {p : Text} {l : Location} (h : d.locate p = .ok l) (free : d.get? l ≠ some .directory) :
    d.ensureDirectory (Path.dir p) = .ok d := by
  by_cases slash : 47 ∈ p
  · obtain ⟨b, a, split, last⟩ := List.eq_append_cons_of_mem (List.mem_reverse.2 slash)
    obtain ⟨a, b, rfl, last⟩ : ∃ a b, p = a ++ 47 :: b ∧ 47 ∉ b :=
      ⟨a.reverse, b.reverse, by simpa using congrArg List.reverse split, by simpa using last⟩
    have start : d.origin (a ++ [47]) = d.origin (a ++ 47 :: b) := by
      cases a <;> rfl
    obtain ⟨k, walked, dir⟩ : ∃ k, d.walk (d.origin (a ++ 47 :: b)) (names a) = .ok k ∧ d.get? k = some .directory := by
      rw [locate_eq (by simp)] at h
      by_cases ends : b = []
      · rw [ends, steps_slash] at h
        obtain ⟨k, -, here⟩ := walk_append_ok h
        obtain ⟨rfl, dir⟩ := walk_dot here
        exact absurd dir free
      · have name : (a ++ 47 :: b).getLast? ≠ some 47 := by
          rw [List.getLast?_append_of_ne_nil _ (by simp), List.getLast?_cons_of_ne_nil ends]
          exact fun found => last (List.mem_of_getLast? found)
        rw [steps_of_getLast name, names_append, names_of_notMem last ends] at h
        obtain ⟨k, walked, into⟩ := walk_append_ok h
        exact ⟨k, walked, (walk_cons_ok into).1⟩
    have above : d.locate (a ++ [47]) = .ok k := by
      rw [locate_eq (by simp), steps_slash, start, walk_append, walked]
      change d.walk k [text "."] = _
      rw [walk, dir]
      rfl
    refine ensureDirectory_of_stat (stat_eq ?_ dir)
    rw [Path.dir, Path.dirPart_append last]
    exact locate_clean above dir
  · rw [Path.dir, Path.dirPart_of_notMem slash]
    rfl

/-! ## Disks with the same directories -/

/-- The disk `d'` has the directories of `d`, and the same files but for some places. -/
structure SameBut (places : Location → Prop) (d d' : Disk) : Prop where
  current : d'.current = d.current
  directories : ∀ l, d'.get? l = some .directory ↔ d.get? l = some .directory
  same : ∀ l, ¬ places l → d'.get? l = d.get? l

namespace SameBut

variable {places : Location → Prop}

theorem refl (places : Location → Prop) (d : Disk) : SameBut places d d := ⟨rfl, fun _ => Iff.rfl, fun _ _ => rfl⟩

theorem trans {places' : Location → Prop} {d'' : Disk} (h : SameBut places d d') (h' : SameBut places' d' d'') :
    SameBut (fun l => places l ∨ places' l) d d'' where
  current := h'.current.trans h.current
  directories l := (h'.directories l).trans (h.directories l)
  same l hl := (h'.same l fun x => hl (.inr x)).trans (h.same l fun x => hl (.inl x))

theorem mono {places' : Location → Prop} (h : SameBut places d d') (sub : ∀ l, places l → places' l) :
    SameBut places' d d' := ⟨h.current, h.directories, fun l hl => h.same l fun x => hl (sub l x)⟩

theorem walk (h : SameBut places d d') (l : Location) (ns : List Text) {m : Location} (hw : d.walk l ns = .ok m) :
    d'.walk l ns = .ok m := by
  induction ns generalizing l with
  | nil => exact hw
  | cons n ns ih =>
    obtain ⟨dir, rest⟩ := walk_cons_ok hw
    rw [Disk.walk, (h.directories l).2 dir]
    exact ih _ rest

/-- A path that leads to a place leads there on the other disk as well. -/
theorem locate (h : SameBut places d d') {p : Text} {l : Location} (hp : d.locate p = .ok l) :
    d'.locate p = .ok l := by
  have ne := ne_nil_of_locate hp
  rw [locate_eq ne] at hp ⊢
  rw [origin, h.current]
  exact h.walk _ _ hp

end SameBut

theorem sameBut_put {l : Location} (hl : d.get? l ≠ some .directory) (c : Text) :
    SameBut (· = l) d (d.put l (.file c)) := by
  have ne : l ≠ [] := by
    rintro rfl
    exact hl rfl
  refine ⟨rfl, fun m => ?_, fun m hm => get?_put_of_ne d _ hm⟩
  by_cases hm : m = l
  · subst hm
    simp [get?_put_self d m _ ne, hl]
  · rw [get?_put_of_ne d _ hm]

theorem sameBut_erase {l : Location} (hl : d.get? l ≠ some .directory) : SameBut (· = l) d (d.erase l) := by
  have ne : l ≠ [] := by
    rintro rfl
    exact hl rfl
  refine ⟨rfl, fun m => ?_, fun m hm => get?_erase_of_ne d hm⟩
  by_cases hm : m = l
  · subst hm
    simp [get?_erase_self d m ne, hl]
  · rw [get?_erase_of_ne d hm]

end Disk

end DocAccessors
