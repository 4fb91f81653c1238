import DocAccessors.Proofs.Declaration.Constants

/-!
# Constants spelled out

In a block of constants, an entry without type and values repeats those of the last entry that gives any. To write them
out changes nothing for extraction.

* `PackageFile.spelledOut`: a file whose constants all give their types and values;
* `sortFiles_spelledOut`, `allEntries_spelledOut`: it is visited where the file was, and has its entries.
-/

namespace DocAccessors

namespace Source

/-- An entry of a block behind others, with the type and the values that it repeats written out. -/
def Spec.spelledOut (earlier : List Spec) : Spec → Spec
  | .valueSpec doc names none [] comment =>
    .valueSpec doc names (lastWritten earlier).1 (lastWritten earlier).2 comment
  | s => s

/-- A declaration, with the types and the values that constants repeat written out. -/
def Decl.spelledOut : Decl → Decl
  | .gen (.mk doc offset .kConst lparen specs rparen) =>
    .gen (.mk doc offset .kConst lparen ((withEarlier [] specs).map fun (earlier, s) => s.spelledOut earlier) rparen)
  | d => d

end Source

/-- A file, with the types and the values that constants repeat written out. -/
def PackageFile.spelledOut (f : PackageFile) : PackageFile :=
  { f with tree := { f.tree with decls := f.tree.decls.map Source.Decl.spelledOut } }

namespace Extract

open Source (Spec Decl Expr Ident CommentGroup lastWritten withEarlier)

variable (f : PackageFile) (space : Text)

/-- What is in effect already can be written again. -/
theorem inEffect_self (before : Option Expr × List Expr) : inEffect before before.1 before.2 = before := by
  obtain ⟨type, values⟩ := before
  cases type with
  | some t => rfl
  | none => cases values <;> rfl

/-- What an entry gives, or repeats, it still does when that is written out. -/
theorem spelledOut_valueSpec (earlier : List Spec) (doc : Option CommentGroup) (names : List Ident) (type : Option Expr)
    (values : List Expr) (comment : Option CommentGroup) :
    ∃ type' values',
      (Spec.valueSpec doc names type values comment).spelledOut earlier = .valueSpec doc names type' values' comment ∧
        inEffect (lastWritten earlier) type' values' = inEffect (lastWritten earlier) type values := by
  cases type with
  | some t => exact ⟨_, _, rfl, rfl⟩
  | none =>
    cases values with
    | nil => exact ⟨_, _, rfl, inEffect_self _⟩
    | cons v values => exact ⟨_, _, rfl, rfl⟩

theorem constEntries_spelledOut (above : Option CommentGroup) (lparen : Option Nat) (done specs : List Spec) :
    Context.constEntries ⟨f.spelledOut, space, none⟩ above lparen (lastWritten done)
        ((withEarlier done specs).map fun (earlier, s) => s.spelledOut earlier) =
      Context.constEntries ⟨f, space, none⟩ above lparen (lastWritten done) specs := by
  induction specs generalizing done with
  | nil => rfl
  | cons s specs ih =>
    rw [withEarlier, List.map_cons]
    have later := ih (done ++ [s])
    cases s with
    | valueSpec doc names type values comment =>
      obtain ⟨type', values', written, same⟩ := spelledOut_valueSpec done doc names type values comment
      rw [lastWritten_concat] at later
      dsimp only
      rw [written, Context.constEntries, Context.constEntries, same, later]
      rfl
    | _ =>
      rw [lastWritten_concat_of_none _ rfl] at later
      exact later

/-- **A declaration has the same entries when it is spelled out**, in a file that is. -/
theorem entries_spelledOut (d : Decl) :
    Context.entries ⟨f.spelledOut, space, none⟩ d.spelledOut = Context.entries ⟨f, space, none⟩ d := by
  rcases d with _ | ⟨doc, offset, keyword, lparen, specs, rparen⟩ | _
  · rfl
  · unfold Decl.spelledOut
    split
    · next same =>
      cases same
      exact constEntries_spelledOut f space doc lparen [] specs
    · next noConst =>
      unfold Context.entries
      dsimp only
      split
      · rfl
      · exact (noConst _ _ _ _ _ rfl).elim
      · rfl
      · rfl
  · rfl

/-- Files are visited in the same order. -/
theorem sortFiles_spelledOut (fs : List PackageFile) :
    sortFiles (fs.map PackageFile.spelledOut) = (sortFiles fs).map PackageFile.spelledOut := by
  have named : (fs.map PackageFile.spelledOut).map (fun f => (f.name, f)) =
      (fs.map fun f => (f.name, f)).map (Prod.map id PackageFile.spelledOut) := by
    rw [List.map_map, List.map_map]
    rfl
  have sorted :
      ((fs.map fun f => (f.name, f)).mergeSort fun a b => Text.le a.1 b.1).map (Prod.map id PackageFile.spelledOut) =
        ((fs.map fun f => (f.name, f)).map (Prod.map id PackageFile.spelledOut)).mergeSort fun a b => Text.le a.1 b.1 :=
    List.map_mergeSort fun _ _ _ _ => rfl
  unfold sortFiles
  rw [named, ← sorted, List.map_map, List.map_map]
  rfl

theorem allEntries_spelledOut (fs : List PackageFile) :
    allEntries space none (fs.map PackageFile.spelledOut) = allEntries space none fs := by
  unfold allEntries
  rw [sortFiles_spelledOut, List.flatMap_map]
  refine List.flatMap_congr fun f _ => ?_
  change (f.tree.decls.map Decl.spelledOut).flatMap _ = _
  rw [List.flatMap_map]
  exact List.flatMap_congr fun d _ => entries_spelledOut f space d

end Extract

end DocAccessors
