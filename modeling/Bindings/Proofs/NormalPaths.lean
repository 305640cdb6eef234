-- SUMMARY: Normal forms of paths: what they keep, that joining and going to the parent respect them, how they are written.
import Bindings.Path

/-!
# Normal paths

A normal form can be taken before a path is joined to another one or after, and the
parent of a path that ends in a name can be taken before or after the normal form.
A path from the root has no step up in its normal form, so that its text names one
directory after the other. Reading the text of a path gives the path back.
-/
namespace Bindings

/-! ## Names -/

/-- Whether the segment is the name of a file or directory. -/
def Path.IsName (s : String) : Prop := s ≠ "" ∧ s ≠ "." ∧ s ≠ ".." ∧ '/' ∉ s.toList

namespace Step

/-- Whether the step is the step of a segment. -/
def IsRead : Step → Prop
  | up => True
  | into name => Path.IsName name

theorem ofSegment?_eq_into_iff {s name : String} :
    ofSegment? s = some (.into name) ↔ s = name ∧ s ≠ "" ∧ s ≠ "." ∧ s ≠ ".." := by
  unfold ofSegment?
  split <;> simp_all

theorem isRead_of_ofSegment? {s : String} {step : Step} (hs : '/' ∉ s.toList)
    (h : ofSegment? s = some step) : step.IsRead := by
  cases step with
  | up => trivial
  | into name =>
    obtain ⟨rfl, hempty, hdot, hdots⟩ := ofSegment?_eq_into_iff.mp h
    exact ⟨hempty, hdot, hdots, hs⟩

theorem IsRead.ofSegment?_text {step : Step} (h : step.IsRead) :
    ofSegment? step.text = some step := by
  cases step with
  | up => rfl
  | into name =>
    obtain ⟨hempty, hdot, hdots, -⟩ := h
    exact ofSegment?_eq_into_iff.mpr ⟨rfl, hempty, hdot, hdots⟩

theorem IsRead.not_mem_text {step : Step} (h : step.IsRead) : '/' ∉ step.text.toList := by
  cases step with
  | up => decide
  | into name => exact h.2.2.2

theorem IsRead.text_ne_empty {step : Step} (h : step.IsRead) : step.text ≠ "" := by
  cases step with
  | up => decide
  | into name => exact h.1

theorem IsRead.text_ne_dot {step : Step} (h : step.IsRead) : step.text ≠ "." := by
  cases step with
  | up => decide
  | into name => exact h.2.1

end Step

namespace Path

/-! ## Texts of paths -/

/-- Whether every step is the step of a segment. -/
def IsRead (p : Path) : Prop := ∀ step ∈ p.steps, step.IsRead

theorem isRead_ofText (s : String) : (ofText s).IsRead := by
  intro step hstep
  obtain ⟨segment, hsegment, hread⟩ := List.mem_filterMap.mp hstep
  exact Step.isRead_of_ofSegment? (Text.not_mem_of_mem_segments hsegment) hread

theorem filterMap_ofSegment?_text {steps : List Step} (h : ∀ step ∈ steps, step.IsRead) :
    (steps.map Step.text).filterMap Step.ofSegment? = steps := by
  induction steps with
  | nil => rfl
  | cons step rest ih =>
    have hstep := (h step List.mem_cons_self).ofSegment?_text
    have hrest := ih fun s hs => h s (List.mem_cons_of_mem _ hs)
    rw [List.map_cons, List.filterMap_cons_some hstep, hrest]

theorem steps_ofText_append (s t : String) :
    (ofText (s ++ "/" ++ t)).steps = (ofText s).steps ++ (ofText t).steps := by
  show (Text.segments '/' (s ++ String.ofList ['/'] ++ t)).filterMap Step.ofSegment? = _
  rw [Text.segments_append, List.filterMap_append]
  rfl

/-- The segments of steps joined by slashes are the texts of the steps. -/
theorem segments_joined_text {steps : List Step} (hne : steps ≠ [])
    (h : ∀ step ∈ steps, step.IsRead) :
    Text.segments '/' (Text.joined "/" (steps.map Step.text)) = steps.map Step.text := by
  have hpieces : ∀ piece ∈ steps.map Step.text, '/' ∉ piece.toList := by
    intro piece hpiece
    obtain ⟨step, hstep, rfl⟩ := List.mem_map.mp hpiece
    exact (h step hstep).not_mem_text
  exact Text.segments_joined (by simpa using hne) hpieces

theorem steps_ofText_joined {steps : List Step} (h : ∀ step ∈ steps, step.IsRead) :
    (ofText (Text.joined "/" (steps.map Step.text))).steps = steps := by
  cases steps with
  | nil => rfl
  | cons step rest =>
    rw [ofText, segments_joined_text (List.cons_ne_nil step rest) h, filterMap_ofSegment?_text h]

theorem startsAtRoot_append {s : String} (hs : s ≠ "") (t : String) :
    startsAtRoot (s ++ t) = startsAtRoot s := by
  have hne : s.toList ≠ [] := by simpa using hs
  obtain ⟨c, cs, hcs⟩ := List.exists_cons_of_ne_nil hne
  simp [startsAtRoot, hcs]

theorem startsAtRoot_joined {steps : List Step} (h : ∀ step ∈ steps, step.IsRead) :
    startsAtRoot (Text.joined "/" (steps.map Step.text)) = false := by
  cases steps with
  | nil => rfl
  | cons step rest =>
    have hread := h step List.mem_cons_self
    have hstep : startsAtRoot step.text = false := by
      simpa [startsAtRoot] using fun hhead =>
        hread.not_mem_text (List.mem_of_mem_head? hhead)
    cases rest with
    | nil => exact hstep
    | cons next rest =>
      rw [List.map_cons, List.map_cons, Text.joined, String.append_assoc,
        startsAtRoot_append hread.text_ne_empty, hstep]

theorem ofText_eq {s : String} {p : Path} (hroot : startsAtRoot s = p.isAbsolute)
    (hsteps : (ofText s).steps = p.steps) : ofText s = p := by
  obtain ⟨isAbsolute, steps⟩ := p
  exact congr (congrArg Path.mk hroot) hsteps

/-- Reading what is written for a path gives the path back. -/
theorem ofText_text {p : Path} (h : p.IsRead) : ofText p.text = p := by
  have hsteps := steps_ofText_joined h
  obtain ⟨isAbsolute, steps⟩ := p
  cases isAbsolute with
  | false =>
    have htext : text ⟨false, steps⟩ = Text.joined "/" (steps.map Step.text) := String.empty_append
    rw [htext]
    exact ofText_eq (startsAtRoot_joined h) hsteps
  | true =>
    have htext : text ⟨true, steps⟩ = "" ++ "/" ++ Text.joined "/" (steps.map Step.text) := rfl
    refine ofText_eq (startsAtRoot_append (s := "/") (by decide) _) ?_
    rw [htext, steps_ofText_append, hsteps]
    rfl

/-! ## Joining -/

@[simp] theorem isAbsolute_ofText (s : String) : (ofText s).isAbsolute = startsAtRoot s := rfl

theorem join_of_isAbsolute (p : Path) {q : Path} (h : q.isAbsolute = true) : p.join q = q :=
  if_pos h

theorem join_of_relative (p : Path) {q : Path} (h : q.isAbsolute = false) :
    p.join q = ⟨p.isAbsolute, p.steps ++ q.steps⟩ :=
  if_neg (by simp [h])

theorem isAbsolute_join {p : Path} (h : p.isAbsolute = true) (q : Path) :
    (p.join q).isAbsolute = true := by
  cases hq : q.isAbsolute with
  | true => rw [join_of_isAbsolute _ hq, hq]
  | false => rw [join_of_relative _ hq, h]

theorem join_assoc (p q r : Path) : (p.join q).join r = p.join (q.join r) := by
  cases hr : r.isAbsolute with
  | true => rw [join_of_isAbsolute _ hr, join_of_isAbsolute _ hr, join_of_isAbsolute _ hr]
  | false =>
    rw [join_of_relative _ hr, join_of_relative _ hr]
    cases hq : q.isAbsolute with
    | true => rw [join_of_isAbsolute _ hq, join_of_isAbsolute _ rfl, hq]
    | false => rw [join_of_relative _ hq, join_of_relative _ rfl, List.append_assoc]

theorem steps_ofText_slash {base : String} (h : base.toList.getLast? = some '/') (s : String) :
    (ofText (base ++ s)).steps = (ofText base).steps ++ (ofText s).steps := by
  obtain ⟨front, hfront⟩ := List.getLast?_eq_some_iff.mp h
  have hbase : base = String.ofList front ++ "/" ++ "" := by
    rw [← String.toList_inj]
    simp [hfront]
  have hslash : (ofText base).steps = (ofText (String.ofList front)).steps := by
    rw [hbase, steps_ofText_append]
    exact List.append_nil _
  rw [hslash, ← steps_ofText_append, hbase, String.append_empty]

/-- The text of joined texts is read as the joined paths. -/
theorem ofText_joinText (base s : String) :
    ofText (joinText base s) = (ofText base).join (ofText s) := by
  unfold joinText
  split
  next h => rw [join_of_isAbsolute _ h]
  next h =>
    have hrel : (ofText s).isAbsolute = false := by simpa using h
    rw [join_of_relative _ hrel]
    split
    next hcond =>
      by_cases hempty : base = ""
      · subst hempty
        rw [String.empty_append]
        exact ofText_eq hrel rfl
      · have hlast : base.toList.getLast? = some '/' := by simpa [hempty] using hcond
        exact ofText_eq (startsAtRoot_append hempty s) (steps_ofText_slash hlast s)
    next hcond =>
      have hne : base ≠ "" := by
        rintro rfl
        exact hcond rfl
      refine ofText_eq ?_ (steps_ofText_append base s)
      rw [String.append_assoc]
      exact startsAtRoot_append hne _

/-! ## Normal form -/

/-- Whether no step of `kept`, which has the latest step first, can be resolved: steps up
only stand before all others, and none stands at the root. -/
def Settled (isAbsolute : Bool) : List Step → Prop
  | [] => True
  | .into _ :: before => Settled isAbsolute before
  | .up :: before => isAbsolute = false ∧ ∀ step ∈ before, step = .up

theorem settled_ups {kept : List Step} (h : ∀ step ∈ kept, step = .up) : Settled false kept := by
  cases kept with
  | nil => trivial
  | cons step before =>
    obtain rfl := h step List.mem_cons_self
    exact ⟨rfl, fun s hs => h s (List.mem_cons_of_mem _ hs)⟩

/-- One more step leaves nothing to be resolved. -/
theorem Settled.advance {isAbsolute : Bool} {kept : List Step} (h : Settled isAbsolute kept)
    (step : Step) : Settled isAbsolute (advance isAbsolute kept step) := by
  cases step with
  | into name => exact h
  | up =>
    cases kept with
    | nil => cases isAbsolute <;> simp [Path.advance, Settled]
    | cons last before =>
      cases last with
      | into name => exact h
      | up =>
        obtain ⟨hrel, hups⟩ := h
        refine ⟨hrel, ?_⟩
        simpa using hups

theorem settled_foldl {isAbsolute : Bool} {kept : List Step} (h : Settled isAbsolute kept)
    (steps : List Step) : Settled isAbsolute (steps.foldl (Path.advance isAbsolute) kept) := by
  induction steps generalizing kept with
  | nil => exact h
  | cons step rest ih => exact ih (h.advance step)

theorem settled_steps (isAbsolute : Bool) (steps : List Step) :
    Settled isAbsolute (steps.foldl (Path.advance isAbsolute) []) := by
  have hnil : Settled isAbsolute [] := trivial
  exact settled_foldl hnil steps

/-- A step that cannot be resolved is kept. -/
theorem advance_of_settled {isAbsolute : Bool} {step : Step} {kept : List Step}
    (h : Settled isAbsolute (step :: kept)) : advance isAbsolute kept step = step :: kept := by
  cases step with
  | into name => rfl
  | up =>
    obtain ⟨rfl, hups⟩ := h
    cases kept with
    | nil => rfl
    | cons last before =>
      obtain rfl := hups last List.mem_cons_self
      rfl

theorem Settled.tail {isAbsolute : Bool} {step : Step} {kept : List Step}
    (h : Settled isAbsolute (step :: kept)) : Settled isAbsolute kept := by
  cases step with
  | into name => exact h
  | up =>
    obtain ⟨rfl, hups⟩ := h
    exact settled_ups hups

/-- Steps that leave nothing to be resolved are kept as they are. -/
theorem foldl_reverse_of_settled {isAbsolute : Bool} {kept : List Step}
    (h : Settled isAbsolute kept) : kept.reverse.foldl (advance isAbsolute) [] = kept := by
  induction kept with
  | nil => rfl
  | cons step kept ih =>
    rw [List.reverse_cons, List.foldl_append, ih h.tail]
    exact advance_of_settled h

/-- The normal form of the first path may be taken before the second is joined to it. -/
theorem normal_join_normal (p q : Path) : (p.normal.join q).normal = (p.join q).normal := by
  unfold join
  split
  next h => rfl
  next h =>
    have hkept := settled_steps p.isAbsolute p.steps
    simp only [normal, List.foldl_append, foldl_reverse_of_settled hkept]

theorem settled_normal (p : Path) : Settled p.normal.isAbsolute p.normal.steps.reverse := by
  show Settled p.isAbsolute (List.reverse (List.reverse _))
  rw [List.reverse_reverse]
  exact settled_steps p.isAbsolute p.steps

/-- A path that leaves nothing to be resolved is its own normal form. -/
theorem normal_of_settled {p : Path} (h : Settled p.isAbsolute p.steps.reverse) :
    p.normal = p := by
  have hkept := foldl_reverse_of_settled h
  rw [List.reverse_reverse] at hkept
  rw [normal, hkept, List.reverse_reverse]

theorem normal_normal (p : Path) : p.normal.normal = p.normal :=
  normal_of_settled p.settled_normal

/-- What a path resolves by itself stays resolved behind any other steps: one more step
after those in `own` is the same as going the steps that are kept after it. -/
theorem advance_foldl_reverse (isAbsolute : Bool) (kept own : List Step) (step : Step) :
    advance isAbsolute (own.reverse.foldl (advance isAbsolute) kept) step =
      (advance false own step).reverse.foldl (advance isAbsolute) kept := by
  cases step with
  | into name => simp [advance]
  | up =>
    cases own with
    | nil => rfl
    | cons last before =>
      cases last with
      | into name => simp [advance]
      | up => simp [advance]

theorem foldl_advance_reverse (isAbsolute : Bool) (kept own steps : List Step) :
    steps.foldl (advance isAbsolute) (own.reverse.foldl (advance isAbsolute) kept) =
      (steps.foldl (advance false) own).reverse.foldl (advance isAbsolute) kept := by
  induction steps generalizing own with
  | nil => rfl
  | cons step rest ih => rw [List.foldl_cons, List.foldl_cons, advance_foldl_reverse, ih]

/-- The normal form of the second path may be taken before it is joined to the first. -/
theorem normal_join_normal_right (p q : Path) : (p.join q.normal).normal = (p.join q).normal := by
  cases hq : q.isAbsolute with
  | true =>
    have hnormal : q.normal.isAbsolute = true := hq
    rw [join_of_isAbsolute _ hnormal, join_of_isAbsolute _ hq, normal_normal]
  | false =>
    have hnormal : q.normal.isAbsolute = false := hq
    have hown := foldl_advance_reverse p.isAbsolute (p.steps.foldl (advance p.isAbsolute) []) []
      q.steps
    rw [join_of_relative _ hnormal, join_of_relative _ hq]
    simp only [normal, List.foldl_append, hq, ← hown]
    rfl

/-! ## Steps of normal forms -/

theorem sublist_advance (isAbsolute : Bool) (kept : List Step) (step : Step) :
    (advance isAbsolute kept step).Sublist (step :: kept) := by
  cases step with
  | into name => exact List.Sublist.refl _
  | up =>
    cases kept with
    | nil =>
      cases isAbsolute with
      | true => exact List.nil_sublist _
      | false => exact List.Sublist.refl _
    | cons last before =>
      cases last with
      | into name => simp [advance]
      | up => exact List.Sublist.refl _

theorem sublist_foldl_advance (isAbsolute : Bool) (kept steps : List Step) :
    (steps.foldl (advance isAbsolute) kept).Sublist (steps.reverse ++ kept) := by
  induction steps generalizing kept with
  | nil => exact List.Sublist.refl _
  | cons step rest ih =>
    have hstep := (sublist_advance isAbsolute kept step).append_left rest.reverse
    rw [List.reverse_cons, List.append_assoc]
    exact (ih _).trans hstep

/-- A normal form has no steps of its own, and keeps those it has in order. -/
theorem sublist_steps_normal (p : Path) : p.normal.steps.Sublist p.steps := by
  have h := sublist_foldl_advance p.isAbsolute [] p.steps
  rw [List.append_nil] at h
  rw [← List.reverse_sublist]
  show (List.reverse (List.reverse _)).Sublist _
  rwa [List.reverse_reverse]

theorem IsRead.join {p q : Path} (hp : p.IsRead) (hq : q.IsRead) : (p.join q).IsRead := by
  cases h : q.isAbsolute with
  | true => rwa [join_of_isAbsolute _ h]
  | false =>
    rw [join_of_relative _ h]
    intro step hstep
    rcases List.mem_append.mp hstep with hstep | hstep
    · exact hp step hstep
    · exact hq step hstep

theorem IsRead.normal {p : Path} (h : p.IsRead) : p.normal.IsRead :=
  fun step hstep => h step (p.sublist_steps_normal.subset hstep)

theorem not_up_of_settled {kept : List Step} (h : Settled true kept) : .up ∉ kept := by
  induction kept with
  | nil => simp
  | cons step kept ih =>
    cases step with
    | into name => simpa using ih h
    | up => exact absurd h.1 (by decide)

/-- Nothing leads up from the root. -/
theorem not_up_of_mem_normal {p : Path} (h : p.isAbsolute = true) : .up ∉ p.normal.steps := by
  have hkept := not_up_of_settled (settled_steps true p.steps)
  simpa [Path.normal, h] using hkept

/-! ## Texts of normal forms -/

theorem ofText_normalText (s : String) : ofText (normalText s) = (ofText s).normal :=
  ofText_text (isRead_ofText s).normal

@[simp] theorem startsAtRoot_normalText (s : String) :
    startsAtRoot (normalText s) = startsAtRoot s :=
  congrArg isAbsolute (ofText_normalText s)

/-- A normal form is its own normal form, to the letter. -/
theorem normalText_normalText (s : String) : normalText (normalText s) = normalText s := by
  rw [normalText, ofText_normalText, normal_normal, normalText]

/-! ## Parents -/

theorem parent?_eq_some_iff {p parent : Path} :
    p.parent? = some parent ↔
      parent.isAbsolute = p.isAbsolute ∧ ∃ step, p.steps = parent.steps ++ [step] := by
  constructor
  · intro h
    unfold parent? at h
    split at h
    next => cases h
    next hsteps =>
      cases h
      have hne : p.steps ≠ [] := by simpa using hsteps
      exact ⟨rfl, _, (List.dropLast_concat_getLast hne).symm⟩
  · rintro ⟨hroot, step, hsteps⟩
    simp [parent?, hsteps, ← hroot]

@[simp] theorem isAbsolute_getD_parent? (p : Path) :
    (p.parent?.getD p).isAbsolute = p.isAbsolute := by
  unfold parent?
  split <;> rfl

theorem IsRead.getD_parent? {p : Path} (h : p.IsRead) : (p.parent?.getD p).IsRead := by
  unfold parent?
  split
  next => exact h
  next => exact fun step hstep => h step (List.dropLast_subset _ hstep)

/-- The parent may be taken before another path is put in front. -/
theorem parent?_join (p : Path) {q parent : Path} (h : q.parent? = some parent) :
    (p.join q).parent? = some (p.join parent) := by
  obtain ⟨hroot, step, hsteps⟩ := parent?_eq_some_iff.mp h
  rw [parent?_eq_some_iff]
  cases hq : q.isAbsolute with
  | true =>
    rw [join_of_isAbsolute _ hq, join_of_isAbsolute _ (hroot.trans hq)]
    exact ⟨hroot, step, hsteps⟩
  | false =>
    rw [join_of_relative _ hq, join_of_relative _ (hroot.trans hq)]
    exact ⟨rfl, step, by simp [hsteps]⟩

/-- Whether the last step of the path is to a name. -/
def EndsInName (p : Path) : Prop := ∃ name, p.steps.getLast? = some (.into name)

theorem EndsInName.exists_parent? {p : Path} (h : p.EndsInName) :
    ∃ parent, p.parent? = some parent := by
  obtain ⟨name, hlast⟩ := h
  obtain ⟨before, hsteps⟩ := List.getLast?_eq_some_iff.mp hlast
  exact ⟨⟨p.isAbsolute, before⟩, parent?_eq_some_iff.mpr ⟨rfl, _, hsteps⟩⟩

theorem EndsInName.join (p : Path) {q : Path} (h : q.EndsInName) : (p.join q).EndsInName := by
  obtain ⟨name, hlast⟩ := h
  cases hq : q.isAbsolute with
  | true => exact ⟨name, by rw [join_of_isAbsolute _ hq, hlast]⟩
  | false => exact ⟨name, by simp [join_of_relative _ hq, hlast]⟩

/-- The parent of a path that ends in a name may be taken before its normal form. -/
theorem EndsInName.parent?_normal {p parent : Path} (h : p.EndsInName)
    (hparent : p.parent? = some parent) : p.normal.parent? = some parent.normal := by
  obtain ⟨name, hlast⟩ := h
  obtain ⟨hroot, step, hsteps⟩ := parent?_eq_some_iff.mp hparent
  obtain rfl : step = .into name := by simpa [hsteps] using hlast
  refine parent?_eq_some_iff.mpr ⟨hroot, .into name, ?_⟩
  -- The name is the last step to be kept, and is kept whatever stands before it.
  simp [normal, hsteps, hroot, List.foldl_append, advance]

end Path

end Bindings
