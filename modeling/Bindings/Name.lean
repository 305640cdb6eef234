-- SUMMARY: Qualified names: a single identifier or a name followed by one more segment.
import Bindings.Text.Segments

/-!
# Names

Declarations, packages and type references are named by a `Name`. `a.b.c` is
`((a).b).c`: qualification nests to the left. Two names are equal when they have
the same segments, which dotted text cannot always tell: a single segment may
hold a dot.
-/
namespace Bindings

/-- An identifier, or a name and one segment below it. -/
inductive Name where
  | ident (segment : String)
  | qualified (outer : Name) (segment : String)
  deriving DecidableEq, Repr, Inhabited

namespace Name

/-- The name one segment below `n`. -/
def append (n : Name) (segment : String) : Name := .qualified n segment

/-- The first segment. -/
def leftMost : Name → String
  | ident s => s
  | qualified outer _ => outer.leftMost

/-- The last segment. -/
def rightMost : Name → String
  | ident s => s
  | qualified _ s => s

/-- Segments from left to right. -/
def segments : Name → List String
  | ident s => [s]
  | qualified outer s => outer.segments ++ [s]

/-- The segments with dots between them. -/
def text : Name → String
  | ident s => s
  | qualified outer s => outer.text ++ "." ++ s

/-- The same text, put together from the list of segments. -/
def dotted (n : Name) : String := Text.joined "." n.segments

/-- Read a dotted path. Empty segments are kept. -/
def ofDotted (path : String) : Name :=
  let (first, rest) := Text.cut '.' path.toList
  rest.foldl (fun n segment => n.append (String.ofList segment)) (ident (String.ofList first))

/-- Whether `n` is the single identifier `s`. -/
def isIdent (n : Name) (s : String) : Bool :=
  match n with
  | ident t => t == s
  | qualified _ _ => false

theorem segments_append (n : Name) (s : String) :
    (n.append s).segments = n.segments ++ [s] := rfl

theorem segments_ne_nil (n : Name) : n.segments ≠ [] := by
  cases n <;> simp [segments]

/-- A name is its segments. -/
theorem segments_inj {m n : Name} : m.segments = n.segments ↔ m = n := by
  constructor
  · intro h
    induction m generalizing n with
    | ident s =>
      cases n with
      | ident t => simpa [segments] using h
      | qualified outer t => simp [segments, List.singleton_eq_append_iff, segments_ne_nil] at h
    | qualified outer s ih =>
      cases n with
      | ident t => simp [segments, List.append_eq_singleton_iff, segments_ne_nil] at h
      | qualified outer' t =>
        obtain ⟨houter, hlast⟩ := List.append_inj' h rfl
        rw [ih houter, List.singleton_inj.mp hlast]
  · rintro rfl
    rfl

/-- Where no segment holds a dot, the dots of the text are those between segments. -/
theorem segments_text {n : Name} (h : ∀ s ∈ n.segments, '.' ∉ s.toList) :
    Text.segments '.' n.text = n.segments := by
  induction n with
  | ident s => exact Text.segments_of_not_mem (h s (List.mem_singleton_self s))
  | qualified outer s ih =>
    have houter := ih fun t ht => h t (List.mem_append_left [s] ht)
    have hmem : s ∈ outer.segments ++ [s] := List.mem_append_right _ (List.mem_singleton_self s)
    have hlast := Text.segments_of_not_mem (h s hmem)
    rw [text, segments, ← houter, ← hlast]
    exact Text.segments_append '.' outer.text s

theorem isIdent_iff {n : Name} {s : String} : n.isIdent s = true ↔ n = ident s := by
  cases n <;> simp [isIdent]

end Name

/-! ## Well-known names -/

/-- Pseudo package that holds the declarations of the standard library. -/
def libRoot : String := "<LIBROOT>"

/-- The catch-all type, used where a structure has no direct counterpart. -/
def dynamicName : String := "dynamic"

end Bindings
