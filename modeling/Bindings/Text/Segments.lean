-- SUMMARY: Cutting a text at every occurrence of a separator, and joining texts with one between.

/-!
# Segments of a text

`Text.segments sep s` are the pieces of `s` between occurrences of `sep`, empty
pieces included, so that a text of `n` separators has `n + 1` segments.
`Text.joined` puts a separator text between the pieces again.
-/
namespace Bindings.Text

/-! ## Cutting -/

/-- The segment before the first `sep`, and the segments after it. -/
def cut (sep : Char) : List Char → List Char × List (List Char)
  | [] => ([], [])
  | c :: cs =>
    let (first, rest) := cut sep cs
    if c = sep then ([], first :: rest) else (c :: first, rest)

/-- The pieces of `s` between occurrences of `sep`. -/
def segments (sep : Char) (s : String) : List String :=
  let (first, rest) := cut sep s.toList
  String.ofList first :: rest.map String.ofList

/-! ## Joining -/

/-- The texts one after the other, with `sep` between neighbours. -/
def joined (sep : String) : List String → String
  | [] => ""
  | [s] => s
  | s :: t :: rest => s ++ sep ++ joined sep (t :: rest)

/-! ## Cutting what was joined -/

theorem cut_append (sep : Char) (cs ds : List Char) :
    cut sep (cs ++ sep :: ds) =
      ((cut sep cs).1, (cut sep cs).2 ++ (cut sep ds).1 :: (cut sep ds).2) := by
  induction cs with
  | nil => simp [cut]
  | cons c cs ih =>
    simp only [List.cons_append, cut, ih]
    split <;> simp

theorem cut_of_not_mem {sep : Char} {cs : List Char} (h : sep ∉ cs) : cut sep cs = (cs, []) := by
  induction cs with
  | nil => rfl
  | cons c cs ih =>
    simp only [List.mem_cons, not_or] at h
    simp [cut, ih h.2, Ne.symm h.1]

theorem not_mem_cut (sep : Char) (cs : List Char) :
    sep ∉ (cut sep cs).1 ∧ ∀ piece ∈ (cut sep cs).2, sep ∉ piece := by
  induction cs with
  | nil => simp [cut]
  | cons c cs ih =>
    simp only [cut]
    split
    next h => simpa using ih
    next h => simpa [Ne.symm h] using ih

/-- A separator between two texts only adds up their segments. -/
theorem segments_append (sep : Char) (s t : String) :
    segments sep (s ++ String.ofList [sep] ++ t) = segments sep s ++ segments sep t := by
  simp [segments, cut_append]

theorem segments_of_not_mem {sep : Char} {s : String} (h : sep ∉ s.toList) :
    segments sep s = [s] := by
  simp [segments, cut_of_not_mem h]

/-- No segment holds the separator. -/
theorem not_mem_of_mem_segments {sep : Char} {s piece : String} (h : piece ∈ segments sep s) :
    sep ∉ piece.toList := by
  have hcut := not_mem_cut sep s.toList
  simp only [segments, List.mem_cons, List.mem_map] at h
  rcases h with rfl | ⟨cs, hcs, rfl⟩
  · simpa using hcut.1
  · simpa using hcut.2 cs hcs

/-- Texts without the separator are the segments of what they are joined to. -/
theorem segments_joined {sep : Char} {pieces : List String} (hne : pieces ≠ [])
    (h : ∀ piece ∈ pieces, sep ∉ piece.toList) :
    segments sep (joined (String.ofList [sep]) pieces) = pieces := by
  induction pieces with
  | nil => exact absurd rfl hne
  | cons piece pieces ih =>
    have hpiece := segments_of_not_mem (h piece List.mem_cons_self)
    cases pieces with
    | nil => exact hpiece
    | cons next rest =>
      have hrest := ih (List.cons_ne_nil next rest) fun p hp => h p (List.mem_cons_of_mem _ hp)
      rw [joined, segments_append, hpiece, hrest, List.singleton_append]

/-! ## Joining what was cut -/

/-- What is in front of the first text is in front of the joined texts. -/
theorem joined_append_cons (sep s t : String) (rest : List String) :
    joined sep ((s ++ t) :: rest) = s ++ joined sep (t :: rest) := by
  cases rest with
  | nil => rfl
  | cons u rest => simp only [joined, String.append_assoc]

theorem joined_concat {texts : List String} (hne : texts ≠ []) (sep s : String) :
    joined sep (texts ++ [s]) = joined sep texts ++ sep ++ s := by
  induction texts with
  | nil => exact absurd rfl hne
  | cons t texts ih =>
    cases texts with
    | nil => rfl
    | cons u texts =>
      have hrest := ih (List.cons_ne_nil u texts)
      show t ++ sep ++ joined sep (u :: texts ++ [s]) = _
      rw [hrest, joined]
      simp only [String.append_assoc]

theorem joined_cut (sep : Char) (cs : List Char) :
    joined (String.ofList [sep])
      (String.ofList (cut sep cs).1 :: (cut sep cs).2.map String.ofList) = String.ofList cs := by
  induction cs with
  | nil => rfl
  | cons c cs ih =>
    have hc : String.ofList (c :: cs) = String.ofList [c] ++ String.ofList cs := by
      rw [← String.ofList_append, List.singleton_append]
    rw [hc, ← ih]
    by_cases h : c = sep
    · subst h
      simp [cut, joined]
    · rw [← joined_append_cons, ← String.ofList_append]
      simp [cut, h]

/-- The segments of a text are joined to the text. -/
theorem joined_segments (sep : Char) (s : String) :
    joined (String.ofList [sep]) (segments sep s) = s := by
  have h := joined_cut sep s.toList
  rwa [String.ofList_toList] at h

end Bindings.Text
