-- SUMMARY: Assembly of a source set into a source set of the model, with absolute paths.
import Bindings.Path
import Bindings.Source.SourceSet
import Bindings.Build.Module

/-!
# Assembly

The model of a set has the model of every file, in order. File paths are resolved
against the working directory, and references against the directory of the file
that holds them. Paths are resolved lexically, so missing files and links change
nothing.
-/
namespace Bindings

/-- What assembles source sets: the directory relative paths are resolved against. -/
structure Assembler where
  workingDirectory : String
  deriving DecidableEq, Repr

namespace Assembler

/-- The absolute path of a file of the set. -/
def absolutePath (a : Assembler) (path : String) : Path :=
  (Path.ofText (Path.joinText a.workingDirectory path)).normal

/-- The path of a file that the file at `path` refers to. -/
def referencePath (path : Path) (reference : String) : Path :=
  ((path.parent?.getD path).join (Path.ofText reference)).normal

def assembleFile (a : Assembler) (f : Source.File) : Reported Model.File := do
  let path := a.absolutePath f.path
  let root ← f.root.toModel
  return ⟨path.text, root, f.references.map fun r => (referencePath path r).text⟩

/-- The model of the whole set. -/
def assemble (a : Assembler) (s : Source.SourceSet) : Reported Model.SourceSet := do
  let files ← Reported.each a.assembleFile s.files
  return ⟨files⟩

theorem files_assemble (a : Assembler) (s : Source.SourceSet) :
    (a.assemble s).value.files = s.files.map fun f => (a.assembleFile f).value := by
  simp [assemble]

end Assembler

end Bindings
