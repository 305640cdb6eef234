-- SUMMARY: Configurations, the settings they resolve to, and the checks on the way.
import Bindings.Name
import Bindings.Path
import Bindings.Text.Blank

/-!
# Configuration

Every part of a configuration may be absent. Resolving it applies the defaults
and checks what was given: the root package, then the working directory, then
the reserved names. The first check that fails is the one reported.
-/
namespace Bindings

/-- Switches of single passes. -/
structure PassOptions where
  itemArrayLike : Option Bool
  deriving DecidableEq, Repr

/-- What a configuration says. -/
structure Config where
  /-- Dotted package of the declarations that passes add. -/
  libRootPackage : Option String
  workingDirectory : Option String
  /-- Dotted names to reserve on top of the target's standard library. -/
  reservedNames : Option (List String)
  passes : Option PassOptions
  deriving DecidableEq, Repr

/-- A configuration with every default applied. -/
structure Settings where
  libRootPackage : Name
  workingDirectory : String
  reservedNames : List String
  itemArrayLike : Bool
  deriving DecidableEq, Repr

namespace Config

/-- The configuration that says nothing. -/
def empty : Config := ⟨none, none, none, none⟩

/-- The package that is used unless another one is configured. -/
def defaultPackage : String := "<LIBROOT>.org.w3c.dom"

/-- Why a configuration cannot be used. -/
inductive Invalid where
  | blankPackageSegment (package : String)
  | blankWorkingDirectory
  | emptyNameSegment (entry : String)
  deriving DecidableEq, Repr

def Invalid.message : Invalid → String
  | blankPackageSegment package =>
    "invalid libRootPackage '" ++ package ++ "': empty path segment"
  | blankWorkingDirectory => "workingDirectory must not be empty"
  | emptyNameSegment entry => "invalid reservedNames entry '" ++ entry ++ "'"

/-- Whether some segment of a dotted text is blank. -/
def hasBlankSegment (dotted : String) : Bool := (Text.segments '.' dotted).any Text.isBlankText

/-- Whether some segment of a dotted text is empty. -/
def hasEmptySegment (dotted : String) : Bool := (Text.segments '.' dotted).any String.isEmpty

/-- The root package, each of whose segments must have a visible character. -/
def package (c : Config) : Except Invalid Name :=
  let dotted := c.libRootPackage.getD defaultPackage
  if hasBlankSegment dotted then .error (.blankPackageSegment dotted)
  else .ok (.ofDotted dotted)

/-- The working directory, seen from the current one. -/
def directory (c : Config) (current : String) : Except Invalid String :=
  match c.workingDirectory with
  | none => .ok current
  | some given =>
    if Text.isBlankText given then .error .blankWorkingDirectory
    else .ok (Path.joinText current given)

/-- The reserved names, none of which may have an empty segment. -/
def names (c : Config) : Except Invalid (List String) :=
  let given := c.reservedNames.getD []
  match given.find? hasEmptySegment with
  | some entry => .error (.emptyNameSegment entry)
  | none => .ok given

/-- Whether the item-array-like pass runs; it does unless it is switched off. -/
def runsItemArrayLike (c : Config) : Bool :=
  (c.passes.bind PassOptions.itemArrayLike).getD true

/-- Apply defaults and check the parts in order. -/
def resolve (c : Config) (current : String) : Except Invalid Settings := do
  let package ← c.package
  let directory ← c.directory current
  let names ← c.names
  return ⟨package, directory, names, c.runsItemArrayLike⟩

/-! ## Switches -/

/-- A switch given as a word. -/
def switch? (s : String) : Option Bool :=
  match Text.word s with
  | "true" => some true
  | "1" => some true
  | "yes" => some true
  | "on" => some true
  | "false" => some false
  | "0" => some false
  | "no" => some false
  | "off" => some false
  | _ => none

end Config

/-- Whether the root package lies under the library root. -/
def Settings.isUnderLibRoot (s : Settings) : Bool := s.libRootPackage.leftMost == libRoot

end Bindings
