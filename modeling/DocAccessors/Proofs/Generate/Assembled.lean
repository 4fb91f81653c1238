import DocAccessors.Configuration.Validate
import DocAccessors.Generate.Basic
import DocAccessors.Proofs.Generate.PackageNames
import DocAccessors.Proofs.Results
import DocAccessors.Proofs.Source.Declared

/-!
# From tables to a source

Every table that is made has an emitter that accepts it, so that there is a source for every package, and generating
fails only where the layout does.

* `Package.IsRead`: the files of the package were read;
* `emitTable_of_resolveBinding`: a table has an emitter, and the emitter accepts it;
* `generate_eq`: what is generated for a package that was read.
-/

namespace DocAccessors

open Resolve

/-! ## Packages that were read -/

/-- The files of the package were read. -/
def Package.IsRead (p : Package) : Prop := ∀ f ∈ p.files, ∃ src, Source.File.parse f.file src = .ok f.tree

theorem Package.isRead_empty : ({} : Package).IsRead := by simp [IsRead]

theorem Package.isRead_takeFile {p : Package} (h : p.IsRead) (fileName src : Text) (skipGenerated : Bool) :
    (p.takeFile fileName src skipGenerated).1.IsRead := by
  unfold takeFile
  dsimp only
  split
  · exact h
  · next tree read =>
    split
    · exact h
    · split
      · exact h
      · intro f hf
        rcases List.mem_append.1 hf with hf | hf
        · exact h f hf
        · rw [List.mem_singleton.1 hf]
          exact ⟨src, read⟩

namespace Extract

theorem names_of_constEntries (c : Context) (above : Option Source.CommentGroup) (lparen : Option Nat)
    (before : Option Source.Expr × List Source.Expr) (specs : List Source.Spec) (named : ∀ s ∈ specs, s.IsNamed) :
    ∀ e ∈ c.constEntries above lparen before specs, e.decl.names ≠ [] := by
  fun_induction Context.constEntries c above lparen before specs with
  | case1 => simp
  | case2 before doc names type values comment specs effect d ih =>
    obtain ⟨first, rest⟩ := List.forall_mem_cons.1 named
    have some_name : names ≠ [] := first
    exact List.forall_mem_cons.2 ⟨by simp [d, Context.valueDecl, some_name], ih rest⟩
  | case3 before spec specs _ ih => exact ih (List.forall_mem_cons.1 named).2

theorem names_of_entries (c : Context) {d : Source.Decl} (named : d.IsNamed) :
    ∀ e ∈ c.entries d, e.decl.names ≠ [] := by
  intro e he
  unfold Context.entries at he
  split at he
  · cases he
  · split at he
    · obtain ⟨s, -, made⟩ := List.mem_filterMap.1 he
      unfold Context.typeEntry? at made
      split at made
      · cases made
        split <;> simp
      · cases made
    · exact names_of_constEntries c _ _ _ _ (named (.inl rfl)) e he
    · obtain ⟨s, hs, made⟩ := List.mem_filterMap.1 he
      have first := named (.inr rfl) s hs
      unfold Context.varEntry? at made
      split at made
      · next names _ _ _ =>
        have some_name : names ≠ [] := first
        cases made
        simp [Context.valueDecl, some_name]
      · cases made
    · cases he
  · split at he
    · cases he
    · rw [List.mem_singleton.1 he]
      simp

theorem names_ne_nil_of_extract {space : Text} {info : Option TypeInfo} {fs : List PackageFile}
    (named : ∀ f ∈ fs, ∀ d ∈ f.tree.decls, d.IsNamed) : ∀ d ∈ extract space info fs, d.names ≠ [] := by
  intro d hd
  obtain ⟨i, e, he, rfl⟩ := mem_linkEnums.1 hd
  rw [link_names]
  obtain ⟨f, hf, he⟩ := List.mem_flatMap.1 (List.mem_of_getElem? he)
  obtain ⟨d, hd, he⟩ := List.mem_flatMap.1 he
  refine names_of_entries _ (named f ?_ d hd) e he
  simpa [sortFiles] using hf

end Extract

/-- **Every declaration of a package that was read has a name.** -/
theorem Package.names_of_declarations {p : Package} (read : p.IsRead) {c : Configuration} :
    ∀ d ∈ p.declarations c, d.names ≠ [] := by
  refine Extract.names_ne_nil_of_extract fun f hf => ?_
  obtain ⟨src, parsed⟩ := read f hf
  exact Source.File.isNamed_of_parse parsed

/-! ## Emitters -/

theorem Resolve.constNames_ne_nil {d : Declaration} {s : Settings} {os : List ReadOption} {names : List Text}
    (h : constNames d s os = .ok names) (named : d.names ≠ []) : names ≠ [] := by
  cases custom : s.customName with
  | none =>
    rw [constNames_eq h custom]
    simpa [Declaration.declaredNames] using named
  | some n =>
    unfold constNames at h
    rw [custom] at h
    dsimp only at h
    split at h
    · cases h
    · cases visible : s.visibility <;> rw [visible] at h <;> dsimp only at h <;> split at h <;> cases h <;>
        exact List.cons_ne_nil _ _

namespace Generator

/-- **A table that is made has an emitter that accepts it**, if its declaration has a name. -/
theorem emitTable_of_resolveBinding (output : Text) {base : Settings} {d : Declaration} {b : Binding} {t : DocTable}
    (made : (resolveBinding base d b).1 = .ok t) (named : d.names ≠ []) :
    ∃ part, (ofOutput output).emitTable t = .ok part := by
  obtain ⟨-, family, -, -⟩ := attribute_of_resolveBinding made
  obtain ⟨e, found, writes⟩ := exists_emitter output b.attr.base
  have accepted : ∃ code, e.emit t = .ok code := by
    cases e with
    | const =>
      obtain ⟨os, s, -, -, made⟩ := resolveBinding_ok made
      simp only [← writes, Emitter.base, AttributeBase.levels] at made
      obtain ⟨v, names, -, constants, rfl⟩ := itemTable_ok made
      have some_name : names ≠ [] := constNames_ne_nil (constants writes.symm) named
      exact ⟨_, by simp [Emitter.emit, some_name]; rfl⟩
    | docs => exact ⟨_, rfl⟩
    | fields =>
      obtain ⟨index, compiled, -⟩ := index_of_resolveBinding made (by rw [← writes]; rfl)
      exact ⟨_, by rw [Emitter.emit, compiled]⟩
    | variants => exact ⟨_, rfl⟩
  obtain ⟨code, accepted⟩ := accepted
  exact ⟨(code, e.needsRuntime t), by simp [emitTable, family, found, accepted]⟩

theorem exists_parts {c : Configuration} {p : Package} (read : p.IsRead) (output : Text) :
    ∃ parts, (processPackage c p).tables.mapM (ofOutput output).emitTable = .ok parts := by
  refine exists_mapM_eq_ok_iff.2 fun t ht => ?_
  rw [Resolver.processPackage_tables] at ht
  obtain ⟨d, hd, ht⟩ := List.mem_flatMap.1 ht
  obtain ⟨b, -, made⟩ := Resolver.exists_binding_of_mem_tables ht
  exact emitTable_of_resolveBinding output made (p.names_of_declarations read d hd)

/-- What is generated for a package that was read: nothing without tables, and else the source in canonical layout. -/
theorem generate_eq {c : Configuration} {p : Package} (read : p.IsRead) (output : Text) :
    ∃ parts, (processPackage c p).tables.mapM (ofOutput output).emitTable = .ok parts ∧
      (ofOutput output).generate (processPackage c p) =
        if (processPackage c p).tables.isEmpty then .ok none
        else match Layout.format (assemble (processPackage c p) parts) with
          | .ok content => .ok (some ⟨(ofOutput output).path (processPackage c p), content⟩)
          | .error fs => .error (.ofDiagnostic (Diagnostic.error .generateFailed {}
              (text "generated code for package " ++ p.name ++ text " does not format: " ++
                Source.SyntaxFault.summary fs))) := by
  obtain ⟨parts, emitted⟩ := exists_parts (c := c) read output
  refine ⟨parts, emitted, ?_⟩
  unfold generate
  rw [emitted]
  split
  · rfl
  · cases laid : Layout.format (assemble (processPackage c p) parts) <;> simp [bind, Except.bind, laid] <;> rfl

end Generator

end DocAccessors
