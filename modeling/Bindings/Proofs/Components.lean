-- SUMMARY: The components of a normal path: the root or steps up, then names that the path had before, in their order.
import Bindings.Proofs.NormalPaths

/-!
# Components of normal paths

The components of a path are its steps and what stands in front of them: the root, or a
dot that a relative path is written with. The normal form of a path has the root or some
steps up in front, and after these nothing but names. It has no names of its own and keeps
the order of those it takes over. A path with components of this form has them still
after it is resolved, and no other path does.
-/
namespace Bindings

/-- One component of a path as it is written. -/
inductive Component where
  | root
  | current
  | up
  | into (name : String)
  deriving DecidableEq, Repr

namespace Component

def ofStep : Step → Component
  | .up => .up
  | .into name => .into name

def name? : Component → Option String
  | .root => none
  | .current => none
  | .up => none
  | .into name => some name

/-- Whether only names follow the root, or some steps up in front. -/
inductive IsNormal : List Component → Prop
  | fromRoot (names : List String) : IsNormal (.root :: names.map .into)
  | relative (ups : Nat) (names : List String) :
      IsNormal (List.replicate ups .up ++ names.map .into)

theorem ofStep_inj {s t : Step} : ofStep s = ofStep t ↔ s = t := by
  cases s <;> cases t <;> simp [ofStep]

theorem map_ofStep_inj {ss ts : List Step} : ss.map ofStep = ts.map ofStep ↔ ss = ts :=
  List.map_inj_right fun _ _ => ofStep_inj.mp

end Component

namespace Path

open Component (ofStep)

/-! ## Components -/

/-- What stands in front of the steps. A dot counts only if a relative path starts with it. -/
def front (s : String) : List Component :=
  if startsAtRoot s then [.root]
  else if (Text.segments '/' s).head? = some "." then [.current]
  else []

def components (s : String) : List Component := front s ++ (ofText s).steps.map ofStep

example : components "./a//.././b/" = [.current, .into "a", .up, .into "b"] := by decide

/-- The names on the way, in order. -/
def names (s : String) : List String := (components s).filterMap Component.name?

theorem names_eq (s : String) :
    names s = ((ofText s).steps.map ofStep).filterMap Component.name? := by
  have hfront : (front s).filterMap Component.name? = [] := by
    unfold front
    split
    next => rfl
    next => split <;> rfl
  rw [names, components, List.filterMap_append, hfront, List.nil_append]

/-- A relative path in normal form does not start with a dot. -/
theorem head?_segments_normalText {s : String} (h : startsAtRoot s = false) :
    (Text.segments '/' (normalText s)).head? ≠ some "." := by
  have hread := (isRead_ofText s).normal
  have htext : normalText s = Text.joined "/" ((ofText s).normal.steps.map Step.text) := by
    have hrelative : (ofText s).normal.isAbsolute = false := h
    simp [normalText, text, hrelative]
  rw [htext]
  cases hsteps : (ofText s).normal.steps with
  | nil => decide
  | cons step rest =>
    rw [IsRead, hsteps] at hread
    rw [segments_joined_text (List.cons_ne_nil step rest) hread]
    simpa using (hread step List.mem_cons_self).text_ne_dot

theorem front_normalText (s : String) :
    front (normalText s) = if startsAtRoot s then [.root] else [] := by
  rw [front, startsAtRoot_normalText]
  cases hroot : startsAtRoot s with
  | true => rw [if_pos rfl, if_pos rfl]
  | false =>
    rw [if_neg Bool.false_ne_true, if_neg Bool.false_ne_true,
      if_neg (head?_segments_normalText hroot)]

/-! ## Settled steps -/

theorem Settled.exists_names {kept : List Step} (h : Settled true kept) :
    ∃ names : List String, kept.reverse = names.map .into := by
  induction kept with
  | nil => exact ⟨[], rfl⟩
  | cons step before ih =>
    cases step with
    | into name =>
      obtain ⟨names, hnames⟩ := ih h
      exact ⟨names ++ [name], by simp [hnames]⟩
    | up => exact absurd h.1 (by decide)

theorem Settled.exists_ups_names {kept : List Step} (h : Settled false kept) :
    ∃ (ups : Nat) (names : List String),
      kept.reverse = List.replicate ups .up ++ names.map .into := by
  induction kept with
  | nil => exact ⟨0, [], rfl⟩
  | cons step before ih =>
    cases step with
    | into name =>
      obtain ⟨ups, names, hnames⟩ := ih h
      exact ⟨ups, names ++ [name], by simp [hnames]⟩
    | up =>
      have hups : before = List.replicate before.length .up := List.eq_replicate_of_mem h.2
      refine ⟨before.length + 1, [], ?_⟩
      rw [List.reverse_cons, hups]
      simp [List.replicate_succ']

theorem Settled.names_append {isAbsolute : Bool} {kept : List Step} (h : Settled isAbsolute kept)
    (names : List String) : Settled isAbsolute ((names.map Step.into).reverse ++ kept) := by
  induction names generalizing kept with
  | nil => exact h
  | cons name names ih =>
    have hnext : Settled isAbsolute (.into name :: kept) := h
    simpa using ih hnext

/-! ## Normal forms -/

theorem components_normalText (s : String) :
    components (normalText s) =
      (if startsAtRoot s then [.root] else []) ++ (ofText s).normal.steps.map ofStep := by
  rw [components, front_normalText, ofText_normalText]

/-- Whether `t` has the components of a normal form, with names that `s` has. -/
structure IsNormalFormOf (t s : String) : Prop where
  startsAtRoot : startsAtRoot t = startsAtRoot s
  fromRoot : Path.startsAtRoot s = true →
    ∃ names : List String, components t = .root :: names.map .into
  relative : Path.startsAtRoot s = false →
    ∃ (ups : Nat) (names : List String),
      components t = List.replicate ups .up ++ names.map .into
  names : (Path.names t).Sublist (Path.names s)

theorem isNormalFormOf_normalText (s : String) : IsNormalFormOf (normalText s) s where
  startsAtRoot := startsAtRoot_normalText s
  fromRoot := by
    intro hroot
    have hsettled := (ofText s).settled_normal
    have habsolute : (ofText s).normal.isAbsolute = true := hroot
    rw [habsolute] at hsettled
    obtain ⟨names, hnames⟩ := hsettled.exists_names
    rw [List.reverse_reverse] at hnames
    refine ⟨names, ?_⟩
    rw [components_normalText, hroot, hnames, List.map_map]
    rfl
  relative := by
    intro hroot
    have hsettled := (ofText s).settled_normal
    have hrelative : (ofText s).normal.isAbsolute = false := hroot
    rw [hrelative] at hsettled
    obtain ⟨ups, names, hnames⟩ := hsettled.exists_ups_names
    rw [List.reverse_reverse] at hnames
    refine ⟨ups, names, ?_⟩
    rw [components_normalText, hroot, hnames, List.map_append, List.map_map, List.map_replicate]
    rfl
  names := by
    rw [names_eq, names_eq, ofText_normalText]
    exact ((ofText s).sublist_steps_normal.map ofStep).filterMap Component.name?

theorem IsNormalFormOf.isNormal {t s : String} (h : IsNormalFormOf t s) :
    Component.IsNormal (components t) := by
  cases hroot : Path.startsAtRoot s with
  | true =>
    obtain ⟨names, hnames⟩ := h.fromRoot hroot
    rw [hnames]
    exact .fromRoot names
  | false =>
    obtain ⟨ups, names, hnames⟩ := h.relative hroot
    rw [hnames]
    exact .relative ups names

theorem Settled.of_names (isAbsolute : Bool) (names : List String) :
    Settled isAbsolute (names.map Step.into).reverse := by
  have hnil : Settled isAbsolute [] := trivial
  simpa using hnil.names_append names

theorem Settled.of_ups_names (ups : Nat) (names : List String) :
    Settled false (List.replicate ups Step.up ++ names.map Step.into).reverse := by
  have hups : Settled false (List.replicate ups Step.up) :=
    settled_ups fun _ hstep => List.eq_of_mem_replicate hstep
  rw [List.reverse_append, List.reverse_replicate]
  exact hups.names_append names

theorem front_of_startsAtRoot {s : String} (h : startsAtRoot s = true) : front s = [.root] :=
  if_pos h

theorem front_of_relative {s : String} (h : startsAtRoot s = false) :
    front s = [.current] ∨ front s = [] := by
  rw [front, if_neg (by simp [h])]
  split
  next => exact .inl rfl
  next => exact .inr rfl

theorem root_mem_components_iff {s : String} : .root ∈ components s ↔ startsAtRoot s = true := by
  have hsteps : .root ∉ (ofText s).steps.map ofStep := by
    intro hmem
    obtain ⟨step, -, hstep⟩ := List.mem_map.mp hmem
    cases step <;> cases hstep
  rw [components, List.mem_append, or_iff_left hsteps]
  cases hroot : startsAtRoot s with
  | true => simp [front_of_startsAtRoot hroot]
  | false =>
    obtain hfront | hfront := front_of_relative hroot
    · simp [hfront]
    · simp [hfront]

/-- Names behind the root are steps that cannot be resolved. -/
theorem of_components_fromRoot {s : String} {names : List String}
    (h : components s = .root :: names.map .into) :
    startsAtRoot s = true ∧ (ofText s).steps = names.map .into := by
  have hroot : startsAtRoot s = true := by
    rw [← root_mem_components_iff, h]
    exact List.mem_cons_self
  refine ⟨hroot, ?_⟩
  rw [components, front_of_startsAtRoot hroot, List.singleton_append] at h
  rw [← Component.map_ofStep_inj, (List.cons.inj h).2, List.map_map]
  rfl

theorem of_components_relative {s : String} {ups : Nat} {names : List String}
    (h : components s = List.replicate ups .up ++ names.map .into) :
    startsAtRoot s = false ∧ front s = [] ∧
      (ofText s).steps = List.replicate ups .up ++ names.map .into := by
  have hroot : startsAtRoot s = false := by
    rw [← Bool.not_eq_true, ← root_mem_components_iff, h]
    simp
  have hfront : front s = [] := by
    obtain hdot | hnone := front_of_relative hroot
    · have hmem : .current ∈ components s := by simp [components, hdot]
      simp [h] at hmem
    · exact hnone
  refine ⟨hroot, hfront, ?_⟩
  rw [components, hfront, List.nil_append] at h
  rw [← Component.map_ofStep_inj, h, List.map_append, List.map_replicate, List.map_map]
  rfl

theorem components_normalText_of_isNormal {s : String} (h : Component.IsNormal (components s)) :
    components (normalText s) = components s := by
  generalize hcomponents : components s = cs at h
  cases h with
  | fromRoot names =>
    obtain ⟨hroot, hsteps⟩ := of_components_fromRoot hcomponents
    have hsettled : Settled (ofText s).isAbsolute (ofText s).steps.reverse := by
      rw [hsteps]
      exact .of_names _ names
    rw [← hcomponents, components_normalText, normal_of_settled hsettled, if_pos hroot, components,
      front_of_startsAtRoot hroot]
  | relative ups names =>
    obtain ⟨hroot, hfront, hsteps⟩ := of_components_relative hcomponents
    have hsettled : Settled (ofText s).isAbsolute (ofText s).steps.reverse := by
      rw [hsteps, isAbsolute_ofText, hroot]
      exact .of_ups_names ups names
    rw [← hcomponents, components_normalText, normal_of_settled hsettled, hroot, components, hfront]
    rfl

/-- The normal form of a path has names of the path only, in their order, behind the root
or some steps up; it starts at the root exactly if the path does. A path whose components
have this form has the same components in its normal form, and no other path has. A normal
form is its own normal form. -/
theorem normalText_isNormalForm (s : String) :
    IsNormalFormOf (normalText s) s ∧
      (components (normalText s) = components s ↔ Component.IsNormal (components s)) ∧
      normalText (normalText s) = normalText s := by
  refine ⟨isNormalFormOf_normalText s, ⟨?_, components_normalText_of_isNormal⟩,
    normalText_normalText s⟩
  intro h
  rw [← h]
  exact (isNormalFormOf_normalText s).isNormal

/-- A step up at the start of a relative path is kept. -/
example : components (normalText "a/../../b/./c/..") = [.up, .into "b"] := by decide +kernel

end Path

end Bindings
