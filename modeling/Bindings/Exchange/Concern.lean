-- SUMMARY: The exchange form of concerns.
import Bindings.Diagnostics
import Bindings.Exchange.Value

/-!
# Concerns as exchange values

Concerns are only written. A kind is written, and named in requests, by its label.
-/
namespace Bindings

/-- The kind with the given label. -/
def Concern.Kind.ofLabel? : String → Option Concern.Kind
  | "UnknownTypeExpression" => some .unknownTypeExpression
  | "UnknownDeclaration" => some .unknownDeclaration
  | "UnresolvedName" => some .unresolvedName
  | _ => none

theorem Concern.Kind.ofLabel?_label (k : Concern.Kind) : ofLabel? k.label = some k := by
  cases k <;> rfl

def Concern.encode (c : Concern) : Value := .object [
  ("kind", .string c.kind.label),
  ("message", .string c.message)]

end Bindings
