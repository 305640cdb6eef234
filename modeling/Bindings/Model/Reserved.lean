-- SUMMARY: Reserved names and the removal of declarations that carry one.
import Bindings.Model.Module

/-!
# Reserved names

A declaration whose name the target's standard library already provides must not
be emitted again. A name under the library root is looked up by its last
segment, any other name as a whole. Only declarations of modules are removed;
members are never inspected.
-/
namespace Bindings.Model

/-! ## Registries -/

/-- The names that may not be declared. -/
structure Registry where
  names : List Name
  deriving DecidableEq, Repr

namespace Registry

/-- Names the target's standard library provides. -/
def platformNames : List String :=
  ["Any", "Array", "Boolean", "Byte", "Char", "CharSequence", "Comparable", "Console", "Date",
    "Double", "Enum", "Float", "Function", "Int", "Iterable", "Iterator", "JSON", "Json", "List",
    "Long", "Map", "Nothing", "Number", "Pair", "Promise", "RegExp", "RegExpMatch", "Set", "Short",
    "String", "Throwable", "Triple", "Unit", "console"]

/-- The names of the standard library. -/
def platform : Registry := ⟨platformNames.map Name.ofDotted⟩

/-- The standard library and the given dotted paths. -/
def withExtra (extra : List String) : Registry :=
  ⟨platform.names ++ extra.map Name.ofDotted⟩

/-- What either registry reserves. -/
def union (a b : Registry) : Registry := ⟨a.names ++ b.names⟩

def contains (r : Registry) (n : Name) : Bool := r.names.contains n

@[simp] theorem contains_eq_true_iff (r : Registry) (n : Name) :
    r.contains n = true ↔ n ∈ r.names :=
  List.contains_iff_mem

/-- Whether a declaration of this name collides with a reserved one. -/
def reserves (r : Registry) (n : Name) : Bool :=
  if n.leftMost = libRoot then r.contains (.ident n.rightMost) else r.contains n

end Registry

/-! ## Removal -/

namespace Module

mutual

/-- The module without reserved declarations, at any depth. -/
def withoutReserved (r : Registry) : Module → Module
  | ⟨qualifier, name, shortName, declarations, annotations, submodules, imports⟩ =>
    ⟨qualifier, name, shortName, declarations.filter fun d => !r.reserves d.name, annotations,
      allWithoutReserved r submodules, imports⟩

def allWithoutReserved (r : Registry) : List Module → List Module
  | [] => []
  | m :: ms => m.withoutReserved r :: allWithoutReserved r ms

end

theorem allWithoutReserved_eq_map (r : Registry) (ms : List Module) :
    allWithoutReserved r ms = ms.map (withoutReserved r) := by
  induction ms with
  | nil => rfl
  | cons m ms ih => rw [allWithoutReserved, ih, List.map_cons]

end Module

def SourceSet.withoutReserved (r : Registry) (s : SourceSet) : SourceSet :=
  s.mapRoots (Module.withoutReserved r)

end Bindings.Model
