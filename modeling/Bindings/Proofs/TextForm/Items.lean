-- SUMMARY: Names and lists of items can be told from what follows them, as long as names hold no punctuation.
import Bindings.Name

/-!
# Names and lists in a text

In the text form of types a name ends where the first punctuation stands, and an item of
a list where a comma or the closing bracket stands. If each item can be told from what
follows it, then so can the list.
-/
namespace Bindings

/-! ## Plain names -/

/-- The characters of the text form that are not part of names. -/
def punctuation : List Char := ['.', '<', '>', ',', '?', '(', ')', ':', '-', ' ']

/-- Whether the text is not empty and free of punctuation. -/
def IsPlainText (s : String) : Prop := s ≠ "" ∧ ∀ c ∈ s.toList, c ∉ punctuation

def Name.IsPlain (n : Name) : Prop := ∀ s ∈ n.segments, IsPlainText s

instance (s : String) : Decidable (IsPlainText s) :=
  decidable_of_iff ((s != "" && s.toList.all fun c => !punctuation.contains c) = true) (by
    simp [IsPlainText])

instance (n : Name) : Decidable n.IsPlain :=
  decidable_of_iff ((n.segments.all fun s => decide (IsPlainText s)) = true) (by
    simp [Name.IsPlain])

/-- The characters of dotted names. -/
def isNameChar (c : Char) : Bool := c == '.' || !punctuation.contains c

theorem IsPlainText.isNameChar {s : String} (h : IsPlainText s) :
    ∀ c ∈ s.toList, isNameChar c = true := by
  intro c hc
  have hnot := h.2 c hc
  simp [Bindings.isNameChar, hnot]

theorem IsPlainText.exists_head {s : String} (h : IsPlainText s) :
    ∃ c cs, s.toList = c :: cs ∧ Bindings.isNameChar c = true := by
  cases hs : s.toList with
  | nil => exact absurd (String.toList_eq_nil_iff.mp hs) h.1
  | cons c cs => exact ⟨c, cs, rfl, h.isNameChar c (by rw [hs]; exact .head cs)⟩

namespace Name.IsPlain

variable {n : Name}

theorem isNameChar (h : n.IsPlain) : ∀ c ∈ n.text.toList, isNameChar c = true := by
  induction n with
  | ident s => exact (h s (List.mem_singleton_self s)).isNameChar
  | qualified outer s ih =>
    intro c hc
    have houter := ih fun t ht => h t (List.mem_append_left [s] ht)
    have hlast := (h s (List.mem_append_right _ (List.mem_singleton_self s))).isNameChar
    simp only [Name.text, String.toList_append, List.mem_append] at hc
    obtain (hc | hc) | hc := hc
    · exact houter c hc
    · obtain rfl := List.mem_singleton.mp hc
      rfl
    · exact hlast c hc

theorem exists_head (h : n.IsPlain) :
    ∃ c cs, n.text.toList = c :: cs ∧ Bindings.isNameChar c = true := by
  induction n with
  | ident s => exact (h s (List.mem_singleton_self s)).exists_head
  | qualified outer s ih =>
    obtain ⟨c, cs, hhead, hc⟩ := ih fun t ht => h t (List.mem_append_left [s] ht)
    refine ⟨c, cs ++ ".".toList ++ s.toList, ?_, hc⟩
    simp only [Name.text, String.toList_append, hhead, List.cons_append]

theorem text_inj {m : Name} (hm : m.IsPlain) (hn : n.IsPlain) (h : m.text = n.text) : m = n := by
  have hdot {n : Name} (hn : n.IsPlain) : ∀ s ∈ n.segments, '.' ∉ s.toList := by
    intro s hs hdot
    exact (hn s hs).2 '.' hdot (.head _)
  rw [← Name.segments_inj, ← Name.segments_text (hdot hm), ← Name.segments_text (hdot hn), h]

end Name.IsPlain

/-! ## What follows -/

/-- Whether a name that stands before the text ends there. -/
def Breaks (rest : List Char) : Prop := ∀ c ∈ rest.head?, isNameChar c = false

/-- Whether a type that stands before the text ends there. -/
def Ends (rest : List Char) : Prop := ∀ c ∈ rest.head?, c = ',' ∨ c = '>' ∨ c = ')'

theorem Ends.breaks {rest : List Char} (h : Ends rest) : Breaks rest := by
  intro c hc
  obtain rfl | rfl | rfl := h c hc <;> rfl

/-- Whether the text begins like a name or in a bracket. -/
def Opens (cs : List Char) : Prop := ∃ c ds, cs = c :: ds ∧ (isNameChar c = true ∨ c = '(')

theorem Opens.not_ends_append {cs : List Char} (h : Opens cs) (rest : List Char) :
    ¬ Ends (cs ++ rest) := by
  intro hends
  obtain ⟨c, ds, rfl, hc⟩ := h
  obtain rfl | rfl | rfl := hends c rfl <;> revert hc <;> decide

theorem breaks_cons {c : Char} {cs : List Char} (h : isNameChar c = false) : Breaks (c :: cs) := by
  intro d hd
  obtain rfl := Option.some.inj hd
  exact h

/-- A name is all there is up to the first character that is not part of names. -/
theorem name_append_inj {cs cs' rest rest' : List Char} (hcs : ∀ c ∈ cs, isNameChar c = true)
    (hcs' : ∀ c ∈ cs', isNameChar c = true) (hrest : Breaks rest) (hrest' : Breaks rest')
    (h : cs ++ rest = cs' ++ rest') : cs = cs' ∧ rest = rest' := by
  have htake {cs rest : List Char} (hcs : ∀ c ∈ cs, isNameChar c = true) (hrest : Breaks rest) :
      (cs ++ rest).takeWhile isNameChar = cs := by
    rw [List.takeWhile_append_of_pos hcs]
    cases rest with
    | nil => simp
    | cons c rest => simp [hrest c rfl]
  have heq : cs = cs' := by rw [← htake hcs hrest, h, htake hcs' hrest']
  subst heq
  exact ⟨rfl, List.append_cancel_left h⟩

/-! ## Lists of items -/

/-- The items after the first one of a list. -/
def continued (texts : List String) : List Char := texts.flatMap fun s => ',' :: ' ' :: s.toList

theorem toList_joined_cons (s : String) (texts : List String) :
    (Text.joined ", " (s :: texts)).toList = s.toList ++ continued texts := by
  induction texts generalizing s with
  | nil => simp [Text.joined, continued]
  | cons t texts ih =>
    rw [Text.joined, String.toList_append, String.toList_append, ih]
    simp [continued]

section Items

variable {α β : Type} (text : α → String) (shown : α → β) (ok : α → Prop)

/-- Whether the text of an item, wherever it ends, is that of no other item. -/
def Legible (a : α) : Prop :=
  ∀ a', ok a' → ∀ rest rest', Ends rest → Ends rest' →
    (text a).toList ++ rest = (text a').toList ++ rest' → shown a = shown a' ∧ rest = rest'

variable {text shown ok} {close : Char} {rest rest' : List Char}

theorem ends_continued (hclose : close = '>' ∨ close = ')') (texts : List String) :
    Ends (continued texts ++ close :: rest) := by
  intro c hc
  cases texts with
  | nil =>
    obtain rfl := Option.some.inj hc
    exact .inr hclose
  | cons s texts =>
    obtain rfl := Option.some.inj hc
    exact .inl rfl

theorem continued_append_inj (hclose : close = '>' ∨ close = ')') {as as' : List α}
    (has : ∀ a ∈ as, Legible text shown ok a) (has' : ∀ a ∈ as', ok a)
    (h : continued (as.map text) ++ close :: rest = continued (as'.map text) ++ close :: rest') :
    as.map shown = as'.map shown ∧ rest = rest' := by
  have hcomma : close ≠ ',' := by
    rintro rfl
    simp at hclose
  induction as generalizing as' with
  | nil =>
    cases as' with
    | nil => simpa [continued] using h
    | cons a' as' =>
      obtain ⟨hhead, -⟩ := List.cons.inj h
      exact absurd hhead hcomma
  | cons a as ih =>
    cases as' with
    | nil =>
      obtain ⟨hhead, -⟩ := List.cons.inj h
      exact absurd hhead.symm hcomma
    | cons a' as' =>
      have hitem : (text a).toList ++ (continued (as.map text) ++ close :: rest) =
          (text a').toList ++ (continued (as'.map text) ++ close :: rest') := by
        simpa [continued] using h
      obtain ⟨ha, htail⟩ := has a (.head as) a' (has' a' (.head as')) _ _
        (ends_continued hclose _) (ends_continued hclose _) hitem
      obtain ⟨has, hrest⟩ := ih (fun b hb => has b (.tail a hb)) (fun b hb => has' b (.tail a' hb))
        htail
      exact ⟨by rw [List.map_cons, List.map_cons, ha, has], hrest⟩

/-- The items of a list can be told apart, and its end from the items. -/
theorem joined_append_inj (hopens : ∀ a, ok a → Opens (text a).toList)
    (hclose : close = '>' ∨ close = ')') {as as' : List α} (hok : ∀ a ∈ as, ok a)
    (has : ∀ a ∈ as, Legible text shown ok a) (has' : ∀ a ∈ as', ok a)
    (h : (Text.joined ", " (as.map text)).toList ++ close :: rest =
      (Text.joined ", " (as'.map text)).toList ++ close :: rest') :
    as.map shown = as'.map shown ∧ rest = rest' := by
  have hends (rest : List Char) : Ends (close :: rest) := ends_continued hclose []
  cases as with
  | nil =>
    cases as' with
    | nil => simpa [Text.joined] using h
    | cons a' as' =>
      rw [List.map_cons, toList_joined_cons, List.append_assoc] at h
      have hnot := (hopens a' (has' a' (.head as'))).not_ends_append
        (continued (as'.map text) ++ close :: rest')
      rw [← h] at hnot
      exact absurd (hends rest) hnot
  | cons a as =>
    cases as' with
    | nil =>
      rw [List.map_cons, toList_joined_cons, List.append_assoc] at h
      have hnot := (hopens a (hok a (.head as))).not_ends_append
        (continued (as.map text) ++ close :: rest)
      rw [h] at hnot
      exact absurd (hends rest') hnot
    | cons a' as' =>
      rw [List.map_cons, List.map_cons, toList_joined_cons, toList_joined_cons] at h
      -- A comma before the first items makes them items like the others.
      have hcontinued : continued ((a :: as).map text) ++ close :: rest =
          continued ((a' :: as').map text) ++ close :: rest' := by
        simpa [continued] using h
      exact continued_append_inj hclose has has' hcontinued

end Items

end Bindings
