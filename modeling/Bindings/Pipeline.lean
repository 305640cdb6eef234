-- SUMMARY: The whole way from a source set to its model: passes, assembly, removal of reserved declarations.
import Bindings.Assembly
import Bindings.Config.Basic
import Bindings.Model.Reserved
import Bindings.Pass.ItemArrayLike

/-!
# The pipeline

A source set goes through the passes in order, is assembled into a model, and
loses the declarations whose names are reserved. The pipeline never fails;
what could not be handled is reported.
-/
namespace Bindings

/-- Passes, assembler and reserved names of a run. -/
structure Pipeline where
  passes : List (Pass Id)
  assembler : Assembler
  reserved : Model.Registry

namespace Pipeline

def ofSettings (s : Settings) : Pipeline where
  passes := if s.itemArrayLike then [ItemArrayLike.pass s.libRootPackage] else []
  assembler := ⟨s.workingDirectory⟩
  reserved := .withExtra s.reservedNames

/-- The pipeline of a configuration, if that is valid. -/
def ofConfig (c : Config) (current : String) : Except Config.Invalid Pipeline :=
  ofSettings <$> c.resolve current

/-- One more pass, after the others. -/
def withPass (p : Pipeline) (pass : Pass Id) : Pipeline :=
  { p with passes := p.passes ++ [pass] }

def passNames (p : Pipeline) : List String := p.passes.map Pass.name

/-- Run every stage. -/
def run (p : Pipeline) (s : Source.SourceSet) : Reported Model.SourceSet :=
  Model.SourceSet.withoutReserved p.reserved <$> p.assembler.assemble (Pass.applyAll p.passes s).run

end Pipeline

end Bindings
