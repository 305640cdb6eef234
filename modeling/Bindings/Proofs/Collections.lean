-- SUMMARY: Which interfaces the item-array-like pass marks, and what marking does to their models and concerns.
import Bindings.Pass.ItemArrayLike
import Bindings.Proofs.Concerns.SourceSet

/-!
# Collections and their models

`Gains` says in terms of members and parents when an interface is a collection that
the pass marks, and which of its getters has the items. The model of a marked
interface has one parent more than that of the interface itself, and everything
else in common with it.
-/
namespace Bindings.ItemArrayLike

open Source (Property Getter Heritage Interface Ty Member)

/-! ## Collections -/

/-- Whether a property is a read-only length of instances. -/
def IsLengthProperty (p : Property) : Prop :=
  p.name = "length" ∧ p.readonly = true ∧ p.isStatic = false ∧
    p.ty = .named (.ident "unsignedlong")

def IsItemGetter (g : Getter) : Prop :=
  g.name = "item" ∧ g.key.ty = .named (.ident "unsignedlong")

/-- Whether the interface is a collection that is not marked yet, with `g` as the first
getter of items. -/
structure Gains (i : Interface) (g : Getter) : Prop where
  name : i.name ≠ .ident "ItemArrayLike"
  parents : ∀ parent ∈ i.parents, ∀ n, parent.symbol = .name n → n.text ≠ "ItemArrayLike"
  length : ∃ p, .property p ∈ i.members ∧ IsLengthProperty p
  isItem : IsItemGetter g
  isFirst : ∃ before after, i.members = before ++ .getter g :: after ∧
    ∀ g', .getter g' ∈ before → ¬ IsItemGetter g'

/-- The first getter of items, if the pass marks the interface. -/
def gain? (i : Interface) : Option Getter :=
  if isMarked i then none
  else if i.properties.any isLength then i.getters.find? isItem
  else none

theorem isLength_iff (p : Property) : isLength p = true ↔ IsLengthProperty p := by
  unfold isLength IsLengthProperty unsignedLong
  simp [Ty.isBare_iff, and_assoc]

theorem isItem_iff (g : Getter) : isItem g = true ↔ IsItemGetter g := by
  unfold isItem IsItemGetter unsignedLong
  simp [Ty.isBare_iff]

theorem refersTo_eq_false_iff (parent : Heritage) (s : String) :
    parent.refersTo s = false ↔ ∀ n, parent.symbol = .name n → n.text ≠ s := by
  unfold Heritage.refersTo
  split
  next n h => simp [h]
  next h => simp [h]

theorem isMarked_eq_false_iff (i : Interface) :
    isMarked i = false ↔ i.name ≠ .ident "ItemArrayLike" ∧
      ∀ parent ∈ i.parents, ∀ n, parent.symbol = .name n → n.text ≠ "ItemArrayLike" := by
  have hname : i.name.isIdent markerName = false ↔ i.name ≠ .ident "ItemArrayLike" := by
    rw [← Bool.not_eq_true, Name.isIdent_iff]
    rfl
  unfold isMarked
  rw [Bool.or_eq_false_iff, hname, List.any_eq_false]
  simp only [Bool.not_eq_true, refersTo_eq_false_iff, markerName]

theorem mem_properties_iff (i : Interface) (p : Property) :
    p ∈ i.properties ↔ .property p ∈ i.members := by
  unfold Interface.properties
  rw [List.mem_filterMap]
  constructor
  · rintro ⟨m, hm, h⟩
    cases m with
    | property q =>
      obtain rfl := Option.some.inj h
      exact hm
    | _ => cases h
  · intro h
    exact ⟨_, h, rfl⟩

theorem any_isLength_iff (i : Interface) :
    i.properties.any isLength = true ↔ ∃ p, .property p ∈ i.members ∧ IsLengthProperty p := by
  rw [List.any_eq_true]
  simp only [mem_properties_iff, isLength_iff]

theorem find?_getters_eq_some_iff (i : Interface) (g : Getter) :
    i.getters.find? isItem = some g ↔ IsItemGetter g ∧
      ∃ before after, i.members = before ++ .getter g :: after ∧
        ∀ g', .getter g' ∈ before → ¬ IsItemGetter g' := by
  unfold Interface.getters
  rw [List.find?_filterMap, Option.bind_eq_some_iff]
  constructor
  · rintro ⟨m, hm, hg⟩
    obtain ⟨hitem, before, after, hmembers, hbefore⟩ := List.find?_eq_some_iff_append.mp hm
    cases m with
    | getter g' =>
      obtain rfl := Option.some.inj hg
      refine ⟨(isItem_iff g').mp hitem, before, after, hmembers, ?_⟩
      intro g'' hg'' hitem''
      have hnot := hbefore _ hg''
      simp [(isItem_iff g'').mpr hitem''] at hnot
    | _ => cases hg
  · rintro ⟨hitem, before, after, hmembers, hbefore⟩
    refine ⟨.getter g, List.find?_eq_some_iff_append.mpr ⟨?_, before, after, hmembers, ?_⟩, rfl⟩
    · exact (isItem_iff g).mpr hitem
    · -- The search passes over every member that is not a getter.
      intro m hm
      cases m with
      | getter g' => simpa [← isItem_iff] using hbefore g' hm
      | _ => rfl

theorem gain?_eq_some_iff (i : Interface) (g : Getter) : gain? i = some g ↔ Gains i g := by
  unfold gain?
  constructor
  · intro h
    split at h
    next => cases h
    next hmarked =>
      split at h
      next hlength =>
        obtain ⟨hname, hparents⟩ := (isMarked_eq_false_iff i).mp (by simpa using hmarked)
        obtain ⟨hitem, hfirst⟩ := (find?_getters_eq_some_iff i g).mp h
        exact ⟨hname, hparents, (any_isLength_iff i).mp hlength, hitem, hfirst⟩
      next => cases h
  · intro h
    have hmarked := (isMarked_eq_false_iff i).mpr ⟨h.name, h.parents⟩
    have hlength := (any_isLength_iff i).mpr h.length
    rw [hmarked, hlength]
    exact (find?_getters_eq_some_iff i g).mpr ⟨h.isItem, h.isFirst⟩

/-! ## Marked interfaces -/

/-- The heritage that the model of the interface gains. -/
def addedParents (i : Interface) : List Model.Heritage :=
  (gain? i).toList.map fun g =>
    ⟨.simple (.ident "ItemArrayLike"), [(g.value.nonNullable.toModel .general).value], none⟩

/-- The concerns of the items, which are modelled once more as an argument. -/
def addedConcerns (i : Interface) : List Concern :=
  (gain? i).toList.flatMap fun g => g.value.concerns

/-- The model of an interface with the heritage that the interface gains. -/
def extendedInterface (i : Interface) (off : Model.Interface) : Model.Interface :=
  { off with parents := off.parents ++ addedParents i }

theorem mark_eq (i : Interface) :
    mark i = { i with
      parents := i.parents ++ (gain? i).toList.map fun g =>
        .ofName (.ident markerName) [g.value.nonNullable] } := by
  have hunchanged : i = { i with parents := i.parents ++ [] } := by rw [List.append_nil]
  unfold mark gain? itemType?
  cases isMarked i with
  | true => exact hunchanged
  | false =>
    cases i.properties.any isLength with
    | false => exact hunchanged
    | true =>
      cases i.getters.find? isItem with
      | none => exact hunchanged
      | some g => rfl

/-- The model of an interface with other parents differs in the parents only. -/
theorem value_toModel_withParents (i : Interface) (parents : List Heritage) :
    (Interface.toModel { i with parents := parents }).value =
      { i.toModel.value with parents := (Heritage.toModels parents).value } := rfl

theorem value_toModel_mark (i : Interface) :
    (mark i).toModel.value = extendedInterface i i.toModel.value := by
  have hparents (added : List Heritage) : (Heritage.toModels (i.parents ++ added)).value =
      i.toModel.value.parents ++ added.map fun h => h.toModel.value := by
    show _ = (Heritage.toModels i.parents).value ++ _
    unfold Heritage.toModels
    rw [Reported.value_each, Reported.value_each, List.map_append]
  rw [mark_eq, value_toModel_withParents, hparents, List.map_map]
  rfl

/-- Whether `null` is allowed has no part in what a type reports. -/
theorem concerns_nonNullable (t : Ty) : t.nonNullable.concerns = t.concerns := by
  obtain ⟨shape, nullable, tag⟩ := t
  cases shape <;> rfl

theorem concerns_mark (i : Interface) : (mark i).concerns = i.concerns ++ addedConcerns i := by
  rw [mark_eq]
  unfold addedConcerns
  cases gain? i with
  | none => simp [Interface.concerns]
  | some g =>
    simp [Interface.concerns, Heritage.concerns, Heritage.ofName,
      Source.HeritageSymbol.concerns, concerns_nonNullable]

end Bindings.ItemArrayLike
