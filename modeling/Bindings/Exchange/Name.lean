-- SUMMARY: The exchange form of names.
import Bindings.Name
import Bindings.Exchange.Value

/-!
# Names as exchange values

The parts of a qualified name belong to the variant itself, not to a record of
their own, so they are read from an object only.
-/
namespace Bindings.Name

def encode : Name → Value
  | ident s => .variant "Identifier" (.string s)
  | qualified outer s =>
    .variant "Qualifier" (.object [("left", outer.encode), ("right", .string s)])

/-- Read a name from a value that is nested no deeper than `depth`. -/
def decodeWithin : (depth : Nat) → Value → Option Name
  | 0, _ => none
  | depth + 1, v => do
    let (kind, payload) ← v.variant?
    match kind with
    | "Identifier" => ident <$> payload.string?
    | "Qualifier" =>
      let [left, right] ← payload.objectFields? ["left", "right"] | none
      let left ← decodeWithin depth left
      let right ← right.string?
      return qualified left right
    | _ => none

def decode? (v : Value) : Option Name := decodeWithin v.depth v

end Bindings.Name
