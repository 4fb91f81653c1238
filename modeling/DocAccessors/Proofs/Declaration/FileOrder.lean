import DocAccessors.Declaration.Package
import Mathlib.Data.List.Sort

/-!
# The order of files

The files of a package are visited in the order of their names. Names that differ leave one such order only, so that
it does not matter in which order the files are given.

* `sortFiles_perm`: files with different names are visited in one order only;
* `extract_perm`: the declarations, their members and the enums of constants do not depend on the order of the files.
-/

namespace DocAccessors

namespace Extract

theorem pairwise_sortFiles (fs : List PackageFile) : (sortFiles fs).Pairwise fun f g => f.name ≤ g.name := by
  have trans (a b c : Text × PackageFile) (h : Text.le a.1 b.1 = true) (h' : Text.le b.1 c.1 = true) :
      Text.le a.1 c.1 = true := by
    rw [Text.le_iff] at h h' ⊢
    exact List.le_trans h h'
  have total (a b : Text × PackageFile) : (Text.le a.1 b.1 || Text.le b.1 a.1) = true := by
    rw [Bool.or_eq_true, Text.le_iff, Text.le_iff]
    exact List.le_total a.1 b.1
  have sorted := List.pairwise_mergeSort trans total (fs.map fun f => (f.name, f))
  rw [sortFiles, List.pairwise_map]
  refine sorted.imp_of_mem fun {a b} ha hb ordered => ?_
  have named {p : Text × PackageFile} (hp : p ∈ (fs.map fun f => (f.name, f)).mergeSort fun a b => Text.le a.1 b.1) :
      p.2.name = p.1 := by
    obtain ⟨f, -, rfl⟩ := List.mem_map.1 (List.mem_mergeSort.1 hp)
    rfl
  rw [named ha, named hb]
  exact (Text.le_iff _ _).1 ordered

/-- Files that are given in the order of their names are visited as they are. -/
theorem sortFiles_of_pairwise {fs : List PackageFile} (h : fs.Pairwise fun f g => Text.le f.name g.name = true) :
    sortFiles fs = fs := by
  have sorted : (fs.map fun f => (f.name, f)).Pairwise fun a b => Text.le a.1 b.1 = true := List.pairwise_map.2 h
  rw [sortFiles, List.mergeSort_of_pairwise sorted, List.map_map]
  exact List.map_id fs

theorem sortFiles_perm_self (fs : List PackageFile) : (sortFiles fs).Perm fs := by
  have sorted := (List.mergeSort_perm (fs.map fun f => (f.name, f)) fun a b => Text.le a.1 b.1).map Prod.snd
  rwa [List.map_map, show Prod.snd ∘ (fun f : PackageFile => (f.name, f)) = id from rfl, List.map_id] at sorted

/-- **Files with different names are visited in one order only**, however they are given. -/
theorem sortFiles_perm {fs gs : List PackageFile} (h : fs.Perm gs) (distinct : (fs.map PackageFile.name).Nodup) :
    sortFiles gs = sortFiles fs := by
  have same : (sortFiles gs).Perm (sortFiles fs) :=
    (sortFiles_perm_self gs).trans (h.symm.trans (sortFiles_perm_self fs).symm)
  refine same.eq_of_pairwise (fun f g hf hg le ge => ?_) (pairwise_sortFiles gs) (pairwise_sortFiles fs)
  -- two files of one name are one file
  have hf' : f ∈ fs := h.mem_iff.2 ((sortFiles_perm_self gs).mem_iff.1 hf)
  have hg' : g ∈ fs := (sortFiles_perm_self fs).mem_iff.1 hg
  exact List.inj_on_of_nodup_map distinct hf' hg' (List.le_antisymm le ge)

end Extract

/-- **Extraction does not depend on the order of files.** Files with different names give the same declarations in
the same order, with the same placements, members and enums, whichever way they are listed. -/
theorem extract_perm (space : Text) (info : Option TypeInfo) {fs gs : List PackageFile} (h : fs.Perm gs)
    (distinct : (fs.map PackageFile.name).Nodup) : extract space info gs = extract space info fs := by
  unfold extract Extract.allEntries
  rw [Extract.sortFiles_perm h distinct]

/-- Two files of a package: an enum between two blocks of its constants. -/
def scatteredEnum : Package :=
  ((({} : Package).takeFile "b.go" "package p

type Unit uint8

const Kelvin Unit = 3
" false).1.takeFile "a.go" "package p

const (
	Celsius Unit = iota
	Fahrenheit
)
" false).1

theorem extract_perm_scatteredEnum :
    (scatteredEnum.files.map PackageFile.name) = ["b.go", "a.go"] ∧
      extract "documented" none scatteredEnum.files.reverse = extract "documented" none scatteredEnum.files ∧
      ((extract "documented" none scatteredEnum.files).map
          fun d => (d.name, d.placement, d.enum, d.members.map (·.name))) =
        ([("Celsius", .const, "Unit", []), ("Fahrenheit", .const, "Unit", []),
          ("Unit", .enum, [], ["Celsius", "Fahrenheit", "Kelvin"]), ("Kelvin", .const, "Unit", [])] :
            List (Text × Placement × Text × List Text)) := by
  have names : (scatteredEnum.files.map PackageFile.name) = ["b.go", "a.go"] := by decide +kernel
  have same := extract_perm "documented" none (List.reverse_perm scatteredEnum.files).symm (by rw [names]; decide)
  refine ⟨names, same, ?_⟩
  rw [← same, extract, Extract.allEntries, Extract.sortFiles_of_pairwise (by decide +kernel)]
  decide +kernel

end DocAccessors
