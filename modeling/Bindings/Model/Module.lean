-- SUMMARY: Modules, files and source sets of the model, with the searches over them.
import Bindings.Model.Decl

/-!
# Modules of the model

A module holds its own declarations and its submodules apart, each in source
order. A source set is a list of files with one root module each; files are
found by their absolute path.
-/
namespace Bindings.Model

structure Module where
  /-- What the module is reached by from outside. -/
  qualifier : Option Name
  name : Name
  shortName : Name
  declarations : List Decl
  annotations : List Annotation
  submodules : List Module
  /-- Filled in after the model is built. -/
  imports : List Name

namespace Module

/-- The first direct declaration whose name is written `name`. -/
def find? (m : Module) (name : String) : Option Decl :=
  m.declarations.find? fun d => d.name.text == name

mutual

/-- Number of declarations in the module and below it. -/
def declarationCount : Module → Nat
  | ⟨_, _, _, declarations, _, submodules, _⟩ => declarations.length + countAll submodules

def countAll : List Module → Nat
  | [] => 0
  | m :: ms => m.declarationCount + countAll ms

end

end Module

/-- What some declarations of a source contribute to a module. -/
structure Contents where
  declarations : List Decl
  submodules : List Module

namespace Contents

def empty : Contents := ⟨[], []⟩

def ofDecl (d : Decl) : Contents := ⟨[d], []⟩

def ofModule (m : Module) : Contents := ⟨[], [m]⟩

/-- Both contributions, each part in order. -/
def append (a b : Contents) : Contents :=
  ⟨a.declarations ++ b.declarations, a.submodules ++ b.submodules⟩

instance : Append Contents := ⟨append⟩

@[simp] theorem declarations_append (a b : Contents) :
    (a ++ b).declarations = a.declarations ++ b.declarations := rfl

@[simp] theorem submodules_append (a b : Contents) :
    (a ++ b).submodules = a.submodules ++ b.submodules := rfl

theorem append_assoc (a b c : Contents) : a ++ b ++ c = a ++ (b ++ c) := by
  show mk (a.declarations ++ b.declarations ++ c.declarations)
      (a.submodules ++ b.submodules ++ c.submodules) = _
  rw [List.append_assoc, List.append_assoc]
  rfl

end Contents

structure File where
  /-- Absolute path in normal form. -/
  path : String
  root : Module
  /-- Absolute paths in normal form. -/
  references : List String

structure SourceSet where
  files : List File

namespace SourceSet

/-- The set with `f` applied to every root module, in file order. -/
def mapRoots (f : Module → Module) (s : SourceSet) : SourceSet :=
  ⟨s.files.map fun file => { file with root := f file.root }⟩

/-- The first file with the given path. -/
def find? (s : SourceSet) (path : String) : Option File :=
  s.files.find? fun file => file.path == path

end SourceSet

end Bindings.Model
