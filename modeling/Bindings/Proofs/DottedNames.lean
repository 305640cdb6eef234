-- SUMMARY: Dotted text and names: every text is read and written back unchanged, a name only if none of its segments holds a dot.
import Bindings.Name

/-!
# Names and dotted text

Reading cuts a text at its dots, and writing joins the segments of a name with dots
again. So a text is always what is written for the name read from it, but a name is
read back from its text only if the dots of the text are the ones between segments.
-/
namespace Bindings.Name

/-! ## Segments -/

theorem head?_segments (n : Name) : n.segments.head? = some n.leftMost := by
  induction n with
  | ident s => rfl
  | qualified outer s ih =>
    rw [segments, List.head?_append, ih]
    rfl

theorem getLast?_segments (n : Name) : n.segments.getLast? = some n.rightMost := by
  cases n with
  | ident s => rfl
  | qualified outer s => exact List.getLast?_concat

/-! ## Writing and reading -/

/-- Writing a name along its qualifications gives its segments with dots between. -/
theorem text_eq_dotted (n : Name) : n.text = n.dotted := by
  induction n with
  | ident s => rfl
  | qualified outer s ih =>
    rw [text, ih, dotted, dotted, segments, Text.joined_concat outer.segments_ne_nil]

theorem segments_foldl_append (pieces : List (List Char)) (n : Name) :
    (pieces.foldl (fun n piece => n.append (String.ofList piece)) n).segments =
      n.segments ++ pieces.map String.ofList := by
  induction pieces generalizing n with
  | nil => exact (List.append_nil _).symm
  | cons piece pieces ih =>
    rw [List.foldl_cons, ih, segments_append, List.append_assoc, List.map_cons,
      List.singleton_append]

/-- The segments of the name read from a text are those of the text. -/
theorem segments_ofDotted (s : String) : (ofDotted s).segments = Text.segments '.' s :=
  segments_foldl_append _ _

theorem dotted_ofDotted (s : String) : (ofDotted s).dotted = s := by
  rw [dotted, segments_ofDotted]
  exact Text.joined_segments '.' s

/-- A name is read back from its text if and only if no segment holds a dot. -/
theorem ofDotted_dotted_iff (n : Name) :
    ofDotted n.dotted = n ↔ ∀ s ∈ n.segments, '.' ∉ s.toList := by
  constructor
  · intro h s hs
    rw [← h, segments_ofDotted] at hs
    exact Text.not_mem_of_mem_segments hs
  · intro h
    rw [← segments_inj, segments_ofDotted, ← text_eq_dotted, segments_text h]

/-- Every text is what is written for the name read from it. A name is read back from its
text if and only if no segment holds a dot. Both ways of writing a name agree. A name begins
and ends with its first and its last segment, gets one more at the end, and is told from
others by its segments. -/
theorem dotted_segments :
    (∀ s : String, (ofDotted s).dotted = s ∧ (ofDotted s).segments = Text.segments '.' s) ∧
      ∀ n : Name,
        (ofDotted n.dotted = n ↔ ∀ s ∈ n.segments, '.' ∉ s.toList) ∧
          n.text = n.dotted ∧
          n.segments.head? = some n.leftMost ∧
          n.segments.getLast? = some n.rightMost ∧
          (∀ s : String, (n.append s).segments = n.segments ++ [s]) ∧
          ∀ m : Name, m = n ↔ m.segments = n.segments := by
  constructor
  · intro s
    exact ⟨dotted_ofDotted s, segments_ofDotted s⟩
  · intro n
    refine ⟨ofDotted_dotted_iff n, text_eq_dotted n, head?_segments n, getLast?_segments n,
      segments_append n, ?_⟩
    intro m
    exact segments_inj.symm

/-- A single segment `a.b` is read back as two. -/
example : (ident "a.b").dotted = "a.b" ∧ ofDotted "a.b" = (ident "a").append "b" := by decide

end Bindings.Name
