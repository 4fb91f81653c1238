import DocAccessors.Proofs.Declaration.FileOrder
import DocAccessors.Proofs.Source.Declared
import Mathlib.Data.List.Nodup

/-!
# Where declarations stand

The files of a package lie side by side on the line of positions, and the names that a file declares lie side by side in
the file. So no two names are declared at one position.

* `AreRead`: files that were read and lie side by side; `Package.IsPlaced.takeFile`: the files of a package do;
* `PackageFile.declared`: the names that a file declares, at their positions;
* `declared_nodup`: names are declared at different positions.
-/

namespace DocAccessors

/-- The tree of a file is what its text is read as. -/
def PackageFile.IsRead (f : PackageFile) : Prop :=
  ∃ name base src, f.file = Source.sourceFile name base src ∧ Source.File.parse f.file src = .ok f.tree

/-- The one file ends before the other one starts. -/
def PackageFile.Before (f g : PackageFile) : Prop := f.file.base + f.file.size < g.file.base

/-- Files that were read and lie side by side. -/
structure AreRead (fs : List PackageFile) : Prop where
  read : ∀ f ∈ fs, f.IsRead
  apart : fs.Pairwise fun f g => f.Before g ∨ g.Before f

/-! ## Packages -/

/-- The files of a package were read, and lie before the file that is read next. -/
structure Package.IsPlaced (p : Package) : Prop where
  files : AreRead p.files
  next : ∀ f ∈ p.files, f.file.base + f.file.size < p.fileSet.nextBase

theorem Package.isPlaced_empty : Package.IsPlaced {} := ⟨⟨by simp, .nil⟩, by simp⟩

theorem FileSet.nextBase_add (s : FileSet) (f : SourceFile) : (s.add f).nextBase = f.base + f.size + 1 := by
  simp [nextBase, add]

/-- **A package takes up files that were read**, each behind those before it. -/
theorem Package.IsPlaced.takeFile {p : Package} (h : p.IsPlaced) (fileName src : Text) (skipGenerated : Bool) :
    (p.takeFile fileName src skipGenerated).1.IsPlaced := by
  have later {f : PackageFile} (hf : f ∈ p.files) :
      f.file.base + f.file.size < (p.fileSet.add (Source.sourceFile fileName p.fileSet.nextBase src)).nextBase := by
    have before := h.next f hf
    rw [FileSet.nextBase_add]
    change _ < p.fileSet.nextBase + _ + 1
    omega
  unfold Package.takeFile
  dsimp only
  split
  · exact ⟨h.files, fun f => later⟩
  · next tree parsed =>
    split
    · exact ⟨h.files, fun f => later⟩
    · split
      · exact ⟨h.files, fun f => later⟩
      · refine ⟨⟨fun f hf => ?_, ?_⟩, fun f hf => ?_⟩
        · rcases List.mem_append.1 hf with hf | hf
          · exact h.files.read f hf
          · rw [List.mem_singleton.1 hf]
            exact ⟨fileName, _, src, rfl, parsed⟩
        · refine List.pairwise_append.2 ⟨h.files.apart, List.pairwise_singleton _ _, fun f hf g hg => .inl ?_⟩
          rw [List.mem_singleton.1 hg]
          exact h.next f hf
        · rcases List.mem_append.1 hf with hf | hf
          · exact later hf
          · rw [List.mem_singleton.1 hf, FileSet.nextBase_add]
            exact Nat.lt_succ_self _

/-! ## Names -/

namespace PackageFile

/-- The names that a file declares, at their positions. -/
def declared (f : PackageFile) : List DeclaredName := f.tree.declared.map fun n => ⟨n.name, f.pos n.offset⟩

variable {f g : PackageFile}

theorem IsRead.declared (h : f.IsRead) :
    f.tree.declared.Pairwise (fun a b => a.offset < b.offset) ∧
      ∀ n ∈ f.tree.declared, n.name ≠ [] ∧ n.offset < f.file.size := by
  obtain ⟨name, base, src, file, parsed⟩ := h
  obtain ⟨apart, stand⟩ := Source.File.declared_of_parse parsed
  have spelled {n : Source.Ident} (hn : n ∈ f.tree.declared) : 0 < n.name.length := List.length_pos_iff.2 (stand n hn).1
  refine ⟨apart.imp_of_mem fun ha _ before => ?_, fun n hn => ⟨(stand n hn).1, ?_⟩⟩
  · have := spelled ha
    omega
  · have inside := (stand n hn).2.length_le
    have := spelled hn
    have size : f.file.size = src.length := by rw [file]; rfl
    rw [List.length_drop] at inside
    omega

/-- The names that a file declares stand in order. -/
theorem IsRead.declared_sorted (h : f.IsRead) : f.declared.Pairwise fun a b => a.pos < b.pos := by
  rw [PackageFile.declared, List.pairwise_map]
  refine h.declared.1.imp fun {a b} before => ?_
  have before : ((f.file.base + a.offset : Nat) : Int) < (f.file.base + b.offset : Nat) := by omega
  exact before

theorem IsRead.exists_offset (h : f.IsRead) {p : Pos} (hp : p ∈ f.declared.map (·.pos)) :
    ∃ o < f.file.size, p = ((f.file.base + o : Nat) : Int) := by
  obtain ⟨_, hd, rfl⟩ := List.mem_map.1 hp
  obtain ⟨n, hn, rfl⟩ := List.mem_map.1 hd
  exact ⟨n.offset, (h.declared.2 n hn).2, rfl⟩

end PackageFile

/-- **No two names are declared at one position.** -/
theorem declared_nodup {fs : List PackageFile} (h : AreRead fs) :
    ((fs.flatMap PackageFile.declared).map (·.pos)).Nodup := by
  rw [List.map_flatMap, List.nodup_flatMap]
  refine ⟨fun f hf => ?_, h.apart.imp_of_mem fun {f g} hf hg apart => ?_⟩
  · exact List.pairwise_map.2 ((h.read f hf).declared_sorted.imp Int.ne_of_lt)
  refine List.disjoint_left.2 fun p hp hq => ?_
  obtain ⟨o, inside, rfl⟩ := (h.read f hf).exists_offset hp
  obtain ⟨o', inside', same⟩ := (h.read g hg).exists_offset hq
  have same : ((f.file.base + o : Nat) : Int) = (g.file.base + o' : Nat) := same
  unfold PackageFile.Before at apart
  omega

end DocAccessors
