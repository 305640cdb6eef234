-- SUMMARY: Sets of characters given by the code points where membership changes.

/-!
# Character sets

A property of characters is tabulated by its edges: the first code point that has
it, the first after that which has it no longer, and so on. A character has the
property when an odd number of edges lie at or below it.
-/
namespace Bindings.Text

/-- The code points where membership changes, in increasing order. -/
structure CharSet where
  edges : List Nat

namespace CharSet

/-- A set whose edges are laid out in rows. -/
def ofRows (rows : List (List Nat)) : CharSet := ⟨rows.flatten⟩

def contains (s : CharSet) (c : Char) : Bool :=
  s.edges.countP (fun edge => decide (edge ≤ c.toNat)) % 2 == 1

end CharSet

end Bindings.Text
