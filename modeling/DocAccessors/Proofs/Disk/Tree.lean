import DocAccessors.Proofs.Disk.Walk

/-!
# Disks whose places hang together

What a real disk holds lies in directories, up to the root. So a path that leads to something held can be followed on
the disk as it is: no directory has to be made for it first.

* `Disk.IsTree`: what is held lies in directories;
* `Disk.Grows d d'`: `d'` has more directories than `d`, and nothing else is different;
* `Path.pairwise_reduce`: in the shortest form of a path the steps to the parent come first;
* `Disk.IsTree.locate_clean_of_locate`: if the shortest form of a path leads to something held once there are more
  directories, it leads there before that.
-/

namespace DocAccessors

namespace Path

/-- In the shortest form of a path no name is followed by a step to the parent. -/
theorem pairwise_reduce {rooted : Bool} {stack es : List Text}
    (hs : stack.Pairwise fun later earlier => earlier ≠ text ".." → later ≠ text "..") :
    (reduce rooted stack es).Pairwise fun earlier later => earlier ≠ text ".." → later ≠ text ".." := by
  fun_induction reduce rooted stack es with
  | case1 stack => exact List.pairwise_reverse.2 hs
  | case2 stack x es _ ih => exact ih hs
  | case3 x es _ _ ih =>
    refine ih ?_
    split
    · exact .nil
    · exact List.pairwise_singleton _ _
  | case4 x es _ _ top rest parent ih =>
    -- the stack holds nothing but steps to the parent
    refine ih (List.pairwise_cons.2 ⟨fun e he name => absurd ?_ name, hs⟩)
    by_contra other
    rcases List.mem_cons.1 he with rfl | he
    · exact other (beq_iff_eq.1 parent)
    · exact (List.pairwise_cons.1 hs).1 e he other (beq_iff_eq.1 parent)
  | case5 x es _ _ top rest _ ih => exact ih (List.pairwise_cons.1 hs).2
  | case6 stack x es _ other ih => exact ih (List.pairwise_cons.2 ⟨fun _ _ _ => by simpa using other, hs⟩)

end Path

namespace Disk

variable {d d' : Disk}

/-! ## Trees -/

/-- What is held lies in directories, and relative paths start at a directory. -/
structure IsTree (d : Disk) : Prop where
  current : d.get? d.current = some .directory
  above : ∀ l e, d.get? l = some e → d.get? l.dropLast = some .directory

theorem isTree_of_entries (current : d.get? d.current = some .directory)
    (above : ∀ e ∈ d.entries, d.get? e.1.dropLast = some .directory) : d.IsTree := by
  refine ⟨current, fun l e held => ?_⟩
  rw [get?] at held
  split at held
  · next root =>
    rw [List.isEmpty_iff.1 root]
    rfl
  · obtain ⟨before, after, found, -⟩ := List.lookup_eq_some_iff.1 held
    exact above (l, e) (by rw [found]; simp)

namespace IsTree

theorem origin (tree : d.IsTree) (p : Text) : d.get? (d.origin p) = some .directory := by
  unfold Disk.origin
  split
  · rfl
  · exact tree.current

theorem directory_above (tree : d.IsTree) {l : Location} {n : Text} {ns : List Text} {e : Entry}
    (held : d.get? (l ++ n :: ns) = some e) : d.get? l = some .directory := by
  induction ns generalizing l n with
  | nil => simpa using tree.above _ _ held
  | cons m ns ih =>
    have next : d.get? (l ++ [n]) = some .directory := ih (by simpa using held)
    simpa using tree.above _ _ next

/-- The names on the way down to something held can be followed. -/
theorem walk_names (tree : d.IsTree) {l : Location} {ns : List Text} {e : Entry}
    (plain : ∀ n ∈ ns, n ≠ text "." ∧ n ≠ text "..") (held : d.get? (l ++ ns) = some e) :
    d.walk l ns = .ok (l ++ ns) := by
  induction ns generalizing l with
  | nil => simp [walk]
  | cons n ns ih =>
    have name := plain n (by simp)
    rw [walk, tree.directory_above held]
    simp only [beq_false_of_ne name.1, beq_false_of_ne name.2, if_neg Bool.false_ne_true]
    rw [ih (fun x hx => plain x (by simp [hx])) (by simpa using held)]
    simp

/-- Steps to parents, and then names: if they lead to something held on any disk, they do on this one. -/
theorem walk_of_walk (tree : d.IsTree) {l m : Location} {es : List Text} {e : Entry}
    (order : es.Pairwise fun earlier later => earlier ≠ text ".." → later ≠ text "..")
    (proper : ∀ n ∈ es, n ≠ text ".") (start : d.get? l = some .directory) (held : d.get? m = some e)
    (leads : d'.walk l es = .ok m) : d.walk l es = .ok m := by
  induction es generalizing l with
  | nil => exact leads
  | cons n es ih =>
    obtain ⟨first, later⟩ := List.pairwise_cons.1 order
    by_cases up : n = text ".."
    · have rest := (walk_cons_ok leads).2
      subst up
      rw [walk, start]
      exact ih later (fun x hx => proper x (by simp [hx])) (tree.above _ _ start) rest
    · have plain : ∀ x ∈ n :: es, x ≠ text "." ∧ x ≠ text ".." := fun x hx =>
        ⟨proper x hx, by rcases List.mem_cons.1 hx with rfl | hx; exacts [up, first x hx up]⟩
      obtain rfl := Disk.walk_names plain leads
      exact tree.walk_names plain held

/-- If the shortest form of a path leads to something held on a disk that has more directories, it leads there already
on this one. -/
theorem locate_clean_of_locate (tree : d.IsTree) (current : d'.current = d.current) {q : Text} {l : Location} {e : Entry}
    (leads : d'.locate (Path.clean q) = .ok l) (held : d.get? l = some e) : d.locate (Path.clean q) = .ok l := by
  have same : d'.origin q = d.origin q := by rw [Disk.origin, Disk.origin, current]
  rw [locate_clean_eq, same] at leads
  rw [locate_clean_eq]
  by_cases empty : Path.shortest q = []
  · rw [if_pos empty] at leads ⊢
    rw [(walk_dot leads).1, walk, tree.origin q]
    rfl
  · rw [if_neg empty] at leads ⊢
    exact tree.walk_of_walk (Path.pairwise_reduce .nil) (fun n hn => (isName_of_mem_shortest hn).2) (tree.origin q) held
      leads

end IsTree

/-! ## More directories -/

/-- The disk `d'` holds what `d` holds, and directories at places that were free. -/
structure Grows (d d' : Disk) : Prop where
  current : d'.current = d.current
  kept : ∀ l e, d.get? l = some e → d'.get? l = some e
  made : ∀ l, d.get? l = none → d'.get? l = none ∨ d'.get? l = some .directory

namespace Grows

theorem refl (d : Disk) : d.Grows d := ⟨rfl, fun _ _ held => held, fun _ free => .inl free⟩

theorem trans {d'' : Disk} (h : d.Grows d') (h' : d'.Grows d'') : d.Grows d'' where
  current := h'.current.trans h.current
  kept l e held := h'.kept l e (h.kept l e held)
  made l free := (h.made l free).elim (h'.made l) fun held => .inr (h'.kept l _ held)

theorem put {l : Location} (free : d.get? l = none) : d.Grows (d.put l .directory) where
  current := rfl
  kept m e held := by
    have other : m ≠ l := fun h => by simp [h, free] at held
    rw [get?_put_of_ne d _ other, held]
  made m free' := by
    by_cases h : m = l
    · subst h
      have ne : m ≠ [] := fun root => by simp [root, get?] at free
      exact .inr (get?_put_self d m _ ne)
    · exact .inl (by rw [get?_put_of_ne d _ h, free'])

theorem changed (h : d.Grows d') {l : Location} (change : d'.get? l ≠ d.get? l) :
    d.get? l = none ∧ d'.get? l = some .directory := by
  cases held : d.get? l with
  | none =>
    rw [held] at change
    exact ⟨rfl, (h.made l held).resolve_left change⟩
  | some e => exact absurd ((h.kept l e held).trans held.symm) change

/-- A place that holds no directory holds what it held before. -/
theorem get?_eq (h : d.Grows d') {l : Location} (other : d'.get? l ≠ some .directory) : d'.get? l = d.get? l := by
  by_contra change
  exact other (h.changed change).2

end Grows

end Disk

end DocAccessors
