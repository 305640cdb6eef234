-- SUMMARY: Passes over a source set: the walk that visits every interface, single passes and chains of passes.
import Bindings.Source.SourceSet

/-!
# Passes

A pass changes a source set before any model is built. It visits each interface
once, at any depth, in document order, and may then finish the whole set, for
instance by adding a declaration. The walk works in any monad, so that a visit
can also keep a record of what it saw; a pass without effects lives in `Id`.
-/
namespace Bindings.Source

/-- Where an interface stands: its file, and the module directly around it. -/
structure Scope where
  path : String
  package : Name
  deriving DecidableEq, Repr

/-! ## The walk -/

section Walk

variable {μ : Type → Type} [Monad μ] (visit : Scope → Interface → μ Interface)

mutual

/-- Visit every interface of a module of the file `path`. -/
def Module.walk (path : String) : Module → μ Module
  | ⟨package, declarations, qualifier, binding⟩ => do
    let declarations ← Decl.walkAll ⟨path, package⟩ declarations
    return ⟨package, declarations, qualifier, binding⟩

/-- Visit a declaration that stands in `scope`, and those inside it. -/
def Decl.walk (scope : Scope) : Decl → μ Decl
  | .interfaceDecl i => .interfaceDecl <$> visit scope i
  | .moduleDecl m => .moduleDecl <$> m.walk scope.path
  | .classDecl c => return .classDecl c
  | .functionDecl f => return .functionDecl f
  | .variableDecl v => return .variableDecl v
  | .enumDecl e => return .enumDecl e
  | .objectDecl o => return .objectDecl o
  | .aliasDecl a => return .aliasDecl a
  | .importEquals i => return .importEquals i
  | .exportAssignment e => return .exportAssignment e

def Decl.walkAll (scope : Scope) : List Decl → μ (List Decl)
  | [] => return []
  | d :: ds => do
    let d ← d.walk scope
    let ds ← Decl.walkAll scope ds
    return d :: ds

end

def File.walk (f : File) : μ File := do
  let root ← f.root.walk visit f.path
  return { f with root := root }

def File.walkAll : List File → μ (List File)
  | [] => return []
  | f :: fs => do
    let f ← f.walk visit
    let fs ← File.walkAll fs
    return f :: fs

/-- Visit every interface of the set, file by file. -/
def SourceSet.walk (s : SourceSet) : μ SourceSet := do
  let files ← File.walkAll visit s.files
  return ⟨files⟩

end Walk

end Bindings.Source

/-! ## Passes and chains -/

namespace Bindings

open Source (Scope Interface SourceSet)

/-- A change to be made to source sets. -/
structure Pass (μ : Type → Type) where
  name : String
  visit : Scope → Interface → μ Interface
  finish : SourceSet → SourceSet

namespace Pass

variable {μ : Type → Type} [Monad μ]

/-- The pass that changes nothing but what `visit` does. -/
def ofVisit (name : String) (visit : Scope → Interface → μ Interface) : Pass μ :=
  ⟨name, visit, id⟩

/-- Visit every interface, then finish the set. -/
def apply (p : Pass μ) (s : SourceSet) : μ SourceSet := do
  let s ← s.walk p.visit
  return p.finish s

/-- Apply each pass to the outcome of the one before it. -/
def applyAll : List (Pass μ) → SourceSet → μ SourceSet
  | [], s => return s
  | p :: ps, s => do
    let s ← p.apply s
    applyAll ps s

end Pass

end Bindings
