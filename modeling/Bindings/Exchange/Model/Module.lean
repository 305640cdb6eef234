-- SUMMARY: The exchange form of the model's modules, files and source sets.
import Bindings.Model.Module
import Bindings.Exchange.Model.Decl

/-!
# Source sets of the model as exchange values
-/
namespace Bindings.Model

/-! ## Writing -/

mutual

def Module.encode : Module → Value
  | ⟨qualifier, name, shortName, declarations, annotations, submodules, imports⟩ => .object [
      ("qualifier", .option Name.encode qualifier),
      ("name", name.encode),
      ("short_name", shortName.encode),
      ("declarations", .list Decl.encode declarations),
      ("annotations", .list Annotation.encode annotations),
      ("submodules", .array (Module.encodeAll submodules)),
      ("imports", .list Name.encode imports)]

def Module.encodeAll : List Module → List Value
  | [] => []
  | m :: ms => m.encode :: Module.encodeAll ms

end

def File.encode (f : File) : Value := .object [
  ("file_name", .string f.path),
  ("root", f.root.encode),
  ("referenced_files", .list .string f.references)]

def SourceSet.encode (s : SourceSet) : Value := .object [("sources", .list File.encode s.files)]

/-! ## Reading -/

/-- Read a module from a value that is nested no deeper than `depth`. -/
def Module.decodeWithin : (depth : Nat) → Value → Option Module
  | 0, _ => none
  | depth + 1, v => do
    let [qualifier, name, shortName, declarations, annotations, submodules, imports] ←
      v.fields? ["qualifier", "name", "short_name", "declarations", "annotations", "submodules",
        "imports"] | none
    let qualifier ← qualifier.option? Name.decode?
    let name ← Name.decode? name
    let shortName ← Name.decode? shortName
    let declarations ← declarations.list? Decl.decode?
    let annotations ← annotations.list? Annotation.decode?
    let submodules ← submodules.list? (Module.decodeWithin depth)
    let imports ← imports.list? Name.decode?
    return ⟨qualifier, name, shortName, declarations, annotations, submodules, imports⟩

def Module.decode? (v : Value) : Option Module := Module.decodeWithin v.depth v

def File.decode? (v : Value) : Option File := do
  let [path, root, references] ← v.fields? ["file_name", "root", "referenced_files"] | none
  let path ← path.string?
  let root ← Module.decode? root
  let references ← references.list? Value.string?
  return ⟨path, root, references⟩

def SourceSet.decode? (v : Value) : Option SourceSet := do
  let [files] ← v.fields? ["sources"] | none
  let files ← files.list? File.decode?
  return ⟨files⟩

end Bindings.Model
