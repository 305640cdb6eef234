-- SUMMARY: What re-splitting makes of a class and those nested in it, and that it leaves a class alone whose statics stand apart.
import Mathlib.Data.List.Forall2
import Bindings.Build.Module

/-!
# Re-splitting

A class of the model that becomes a member again is split once more: its own statics
and those of the classes nested in it go behind the members of their companions.
`Class.Resplits` says so without the function. A class is left as it is exactly if
there is nothing to move, so that splitting twice is splitting once. The model of a
class has nothing to move, and comes back unchanged when it is made a member.
-/
namespace Bindings

namespace Model

/-! ## Nested classes -/

mutual

/-- What holds of a class whenever it holds of the classes among its members and among
those of its companion holds of all classes. -/
@[elab_as_elim] theorem Class.induct {motive : Class → Prop}
    (step : ∀ c, (∀ d, .nested d ∈ c.members → motive d) →
      (∀ d, .nested d ∈ c.companion.members → motive d) → motive c) (c : Class) : motive c := by
  obtain ⟨name, members, ⟨companionName, statics, parents⟩, primary, typeParams, heritage,
    annotations⟩ := c
  exact step _ (Member.induct_nested step members) (Member.induct_nested step statics)

private theorem Member.induct_class {motive : Class → Prop}
    (step : ∀ c, (∀ d, .nested d ∈ c.members → motive d) →
      (∀ d, .nested d ∈ c.companion.members → motive d) → motive c) (m : Member) :
    ∀ d, m = .nested d → motive d := by
  intro d hd
  cases m with
  | nested c =>
    cases hd
    exact Class.induct step d
  | _ => cases hd

private theorem Member.induct_nested {motive : Class → Prop}
    (step : ∀ c, (∀ d, .nested d ∈ c.members → motive d) →
      (∀ d, .nested d ∈ c.companion.members → motive d) → motive c) (ms : List Member) :
    ∀ d, .nested d ∈ ms → motive d := by
  intro d hd
  cases ms with
  | nil => cases hd
  | cons m ms =>
    have hm := Member.induct_class step m
    have hms := Member.induct_nested step ms
    rcases List.mem_cons.mp hd with hd | hd
    · exact hm d hd.symm
    · exact hms d hd

end

/-! ## Members of a re-split class -/

@[simp] theorem Member.isStatic_resplit (m : Member) : m.resplit.isStatic = m.isStatic := by
  cases m <;> rfl

/-- Statics are moved, not changed. -/
theorem Member.resplit_of_isStatic {m : Member} (h : m.isStatic = true) : m.resplit = m := by
  cases m with
  | nested c => cases h
  | _ => rfl

theorem Member.resplit_eq_nested_iff {m : Member} {d : Class} :
    m.resplit = .nested d ↔ ∃ c, m = .nested c ∧ d = c.resplit := by
  cases m <;> simp [Member.resplit, eq_comm]

theorem Class.members_resplit (c : Class) :
    c.resplit.members = (c.members.filter fun m => !m.isStatic).map Member.resplit := by
  obtain ⟨name, members, companion, primary, typeParams, parents, annotations⟩ := c
  simp [Class.resplit, Split.ofMembers, Member.resplitAll_eq_map, List.filter_map,
    Function.comp_def]

theorem Member.filter_isStatic_resplit (ms : List Member) :
    (ms.map Member.resplit).filter Member.isStatic = ms.filter Member.isStatic := by
  have hself : ∀ m ∈ ms.filter Member.isStatic, m.resplit = id m :=
    fun m hm => Member.resplit_of_isStatic (List.of_mem_filter hm)
  have hstatic : Member.isStatic ∘ Member.resplit = Member.isStatic :=
    funext Member.isStatic_resplit
  rw [List.filter_map, hstatic, List.map_congr_left hself, List.map_id]

theorem Class.companion_resplit (c : Class) :
    c.resplit.companion = ⟨c.companion.name,
      c.companion.members ++ c.members.filter Member.isStatic, c.companion.parents⟩ := by
  obtain ⟨name, members, companion, primary, typeParams, parents, annotations⟩ := c
  simp [Class.resplit, Split.ofMembers, Member.resplitAll_eq_map, Member.filter_isStatic_resplit]

/-- Re-splitting changes a class in its members and in its companion only. -/
theorem Class.resplit_eq_self_of {c : Class} (hmembers : c.resplit.members = c.members)
    (hcompanion : c.resplit.companion = c.companion) : c.resplit = c := by
  obtain ⟨name, members, companion, primary, typeParams, parents, annotations⟩ := c
  simp only [Class.resplit] at hmembers hcompanion ⊢
  rw [hmembers, hcompanion]

/-! ## Split classes -/

/-- Whether the second class is the first, or is nested in it by way of members only. -/
inductive Class.Reaches : Class → Class → Prop
  | self {c : Class} : Class.Reaches c c
  | member {c d e : Class} (hd : .nested d ∈ c.members) (h : Class.Reaches d e) :
      Class.Reaches c e

/-- Whether no static is among the members of the class. -/
def Class.IsApart (c : Class) : Prop := ∀ m ∈ c.members, m.isStatic = false

/-- Whether no static is among the members of the class or of those it reaches. -/
def Class.IsSplit (c : Class) : Prop := ∀ d, c.Reaches d → d.IsApart

theorem Class.isSplit_iff {c : Class} :
    c.IsSplit ↔ c.IsApart ∧ ∀ d, .nested d ∈ c.members → d.IsSplit := by
  constructor
  · intro h
    exact ⟨h c .self, fun d hd e he => h e (.member hd he)⟩
  · rintro ⟨hself, hnested⟩ d hd
    cases hd with
    | self => exact hself
    | member he h => exact hnested _ he d h

theorem Class.isApart_resplit (c : Class) : c.resplit.IsApart := by
  intro m hm
  rw [Class.members_resplit] at hm
  obtain ⟨m₀, hm₀, rfl⟩ := List.mem_map.mp hm
  simpa using (List.mem_filter.mp hm₀).2

/-- The classes among the members are those that were there, re-split. -/
theorem Class.nested_mem_resplit_iff {c d : Class} :
    .nested d ∈ c.resplit.members ↔ ∃ d₀, .nested d₀ ∈ c.members ∧ d = d₀.resplit := by
  rw [Class.members_resplit]
  constructor
  · intro hd
    obtain ⟨m, hm, hnested⟩ := List.mem_map.mp hd
    obtain ⟨d₀, rfl, rfl⟩ := Member.resplit_eq_nested_iff.mp hnested
    exact ⟨d₀, List.mem_of_mem_filter hm, rfl⟩
  · rintro ⟨d₀, hd₀, rfl⟩
    exact List.mem_map.mpr ⟨.nested d₀, List.mem_filter.mpr ⟨hd₀, rfl⟩, rfl⟩

theorem Class.isSplit_resplit (c : Class) : c.resplit.IsSplit := by
  induction c using Class.induct with
  | step c ih _ =>
    rw [Class.isSplit_iff]
    refine ⟨c.isApart_resplit, ?_⟩
    intro d hd
    obtain ⟨d₀, hd₀, rfl⟩ := Class.nested_mem_resplit_iff.mp hd
    exact ih d₀ hd₀

theorem Class.IsApart.filter_members {c : Class} (h : c.IsApart) :
    (c.members.filter fun m => !m.isStatic) = c.members :=
  List.filter_eq_self.mpr fun m hm => by simp [h m hm]

/-- Exactly the classes without a static to be moved are left as they are. -/
theorem Class.resplit_eq_self_iff (c : Class) : c.resplit = c ↔ c.IsSplit := by
  constructor
  · intro h
    rw [← h]
    exact c.isSplit_resplit
  · intro h
    induction c using Class.induct with
    | step c ih _ =>
      obtain ⟨hapart, hnested⟩ := Class.isSplit_iff.mp h
      have hself : ∀ m ∈ c.members, m.resplit = id m := by
        intro m hm
        cases m with
        | nested d => exact congrArg Member.nested (ih d hm (hnested d hm))
        | _ => rfl
      have hstatics : c.members.filter Member.isStatic = [] :=
        List.filter_eq_nil_iff.mpr fun m hm => by simp [hapart m hm]
      have hmembers : c.resplit.members = c.members := by
        rw [Class.members_resplit, hapart.filter_members, List.map_congr_left hself, List.map_id]
      have hcompanion : c.resplit.companion = c.companion := by
        rw [Class.companion_resplit, hstatics, List.append_nil]
        cases c.companion
        rfl
      exact Class.resplit_eq_self_of hmembers hcompanion

/-! ## What becomes of a class -/

mutual

/-- Whether the second class is the first with its statics behind the members of its
companion, the classes among its members being such classes as well. -/
inductive Class.Resplits : Class → Class → Prop
  | intro {c c' : Class}
      (name : c'.name = c.name)
      (members :
        List.Forall₂ Member.Resplits (c.members.filter fun m => !m.isStatic) c'.members)
      (companionName : c'.companion.name = c.companion.name)
      (companionMembers : c'.companion.members =
        c.companion.members ++ c.members.filter fun m => m.isStatic)
      (companionParents : c'.companion.parents = c.companion.parents)
      (primaryConstructor : c'.primaryConstructor = c.primaryConstructor)
      (typeParams : c'.typeParams = c.typeParams)
      (parents : c'.parents = c.parents)
      (annotations : c'.annotations = c.annotations) :
      Class.Resplits c c'

inductive Member.Resplits : Member → Member → Prop
  | constructor {c : Constructor} : Member.Resplits (.constructor c) (.constructor c)
  | method {m : Method} : Member.Resplits (.method m) (.method m)
  | property {p : Property} : Member.Resplits (.property p) (.property p)
  | nested {c c' : Class} (h : Class.Resplits c c') : Member.Resplits (.nested c) (.nested c')

end

theorem Class.resplits_resplit (c : Class) : c.Resplits c.resplit := by
  induction c using Class.induct with
  | step c ih _ =>
    have hmembers : List.Forall₂ Member.Resplits (c.members.filter fun m => !m.isStatic)
        c.resplit.members := by
      rw [Class.members_resplit, List.forall₂_map_right_iff, List.forall₂_same]
      intro m hm
      cases m with
      | nested d => exact .nested (ih d (List.mem_of_mem_filter hm))
      | constructor c => exact .constructor
      | method m => exact .method
      | property p => exact .property
    have hcompanion := c.companion_resplit
    obtain ⟨name, members, companion, primary, typeParams, parents, annotations⟩ := c
    exact .intro rfl hmembers (by rw [hcompanion]) (by rw [hcompanion]) (by rw [hcompanion])
      rfl rfl rfl rfl

end Model

namespace Source

/-! ## Models that become members -/

/-- A class among the models of members was built before, and is re-split. -/
theorem Member.value_toModel_eq_nested_iff {m : Member} {d : Model.Class} :
    m.toModel.value = .nested d ↔ ∃ c, m = .built c ∧ d = c.resplit := by
  cases m <;> simp [Member.toModel, eq_comm]

theorem Member.nested_mem_models_iff {ms : List Member} {d : Model.Class} :
    .nested d ∈ ms.map (fun m => m.toModel.value) ↔ ∃ c, .built c ∈ ms ∧ d = c.resplit := by
  constructor
  · intro hd
    obtain ⟨m, hm, hnested⟩ := List.mem_map.mp hd
    obtain ⟨c, rfl, rfl⟩ := Member.value_toModel_eq_nested_iff.mp hnested
    exact ⟨c, hm, rfl⟩
  · rintro ⟨c, hc, rfl⟩
    exact List.mem_map.mpr ⟨.built c, hc, rfl⟩

theorem Member.isStatic_of_mem_instances {ms : List Member} :
    ∀ m ∈ (Member.toSplit ms).value.instances, m.isStatic = false := by
  intro m hm
  rw [Member.value_toSplit] at hm
  simpa using List.of_mem_filter hm

theorem Member.nested_mem_instances_iff {ms : List Member} {d : Model.Class} :
    .nested d ∈ (Member.toSplit ms).value.instances ↔ ∃ c, .built c ∈ ms ∧ d = c.resplit := by
  rw [Member.value_toSplit, ← Member.nested_mem_models_iff]
  exact List.mem_filter.trans (and_iff_left rfl)

/-- The model of a class has its statics apart, and so have the classes it reaches. -/
theorem Class.isSplit_toModel (c : Class) : c.toModel.value.IsSplit := by
  rw [Model.Class.isSplit_iff]
  refine ⟨Member.isStatic_of_mem_instances, ?_⟩
  intro d hd
  obtain ⟨c₀, -, rfl⟩ := Member.nested_mem_instances_iff.mp hd
  exact c₀.isSplit_resplit

/-- Re-splitting moves every static of the members to the companion, and nothing else;
it changes only classes that have one; once is enough; and the model of a class comes
back unchanged as a member. -/
theorem Class.resplit_settles :
    (∀ c : Model.Class, (c.resplit = c ↔ c.IsSplit) ∧ c.resplit.resplit = c.resplit ∧
      c.Resplits c.resplit) ∧
    ∀ c : Class, (Member.built c.toModel.value).toModel = pure (.nested c.toModel.value) := by
  constructor
  · intro c
    exact ⟨c.resplit_eq_self_iff, c.resplit.resplit_eq_self_iff.mpr c.isSplit_resplit,
      c.resplits_resplit⟩
  · intro c
    have hself := c.toModel.value.resplit_eq_self_iff.mpr c.isSplit_toModel
    rw [Member.toModel, hself]

end Source

end Bindings
