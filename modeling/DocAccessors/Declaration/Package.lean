import DocAccessors.Configuration.Basic
import DocAccessors.Declaration.Extract
import DocAccessors.Source.Parse

/-!
# Packages

The files of a package are read one by one. The first one gives the package its name and its directory; a file that
cannot be read, or that belongs to another package, is left out.
-/

namespace DocAccessors

/-- The files of a package as they were read. -/
structure Package where
  name : Text := []
  path : Text := []
  dir : Text := []
  /-- All files that have been read, also those left out. -/
  fileSet : FileSet := {}
  files : List PackageFile := []
  info : Option TypeInfo := none

/-- Whether a line says that a file is generated. -/
def isGeneratedLine (line : Text) : Bool :=
  (Text.dropStart? line "// Code generated ").any fun r => Text.endsWith r " DO NOT EDIT."

/-- Whether a comment before the package clause says that the file is generated. -/
def Source.File.isGenerated (f : Source.File) : Bool :=
  f.comments.any fun g => g.any fun c => c.offset ≤ f.packageOffset && (Text.lines c.text).any isGeneratedLine

namespace Package

/-- Reads a file into a package; generated files can be left out. Whether the file was taken up. -/
def takeFile (p : Package) (fileName src : Text) (skipGenerated : Bool) : Package × Except Failure Bool :=
  let file := Source.sourceFile fileName p.fileSet.nextBase src
  let p := { p with fileSet := p.fileSet.add file }
  match Source.File.parse file src with
  | .error fs => (p, .error (.context (text "failed to parse " ++ fileName) (.plain (Source.SyntaxFault.summary fs))))
  | .ok tree =>
    if skipGenerated && tree.isGenerated then (p, .ok false)
    else if !p.name.isEmpty && tree.name.name != p.name then
      (p, .error (.plain (fileName ++ text ": package " ++ tree.name.name ++ text ", expected " ++ p.name)))
    else
      ({ p with
          name := tree.name.name
          dir := if p.dir.isEmpty then Path.dir fileName else p.dir
          files := p.files ++ [⟨file, tree⟩] }, .ok true)

def declarations (p : Package) (c : Configuration) : List Declaration := extract c.directiveSpace p.info p.files

end Package

end DocAccessors
