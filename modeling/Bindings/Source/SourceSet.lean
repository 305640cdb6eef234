-- SUMMARY: Files of a source, and the source sets that passes work on.
import Bindings.Source.Decl

/-!
# Source sets

A file has a path as it was given, one root module, and the paths of the files
it refers to, relative to its own directory.
-/
namespace Bindings.Source

structure File where
  path : String
  root : Module
  references : List String

/-- A file without references. -/
def File.plain (path : String) (root : Module) : File := ⟨path, root, []⟩

/-- The package of the root module. -/
def File.package (f : File) : Name := f.root.package

structure SourceSet where
  files : List File

end Bindings.Source
