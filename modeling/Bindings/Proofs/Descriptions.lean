-- SUMMARY: The descriptions of all references and function types of a module: null defaults stand directly in function types only.
import Bindings.Proofs.Everywhere

/-!
# Descriptions

The description of a reference or function type is decided by its tag. Where no tag
decides, it is decided by the position: a nullable type defaults to `null` if it
stands directly in a function type, as a parameter or as the result, and has no
description anywhere else. Arguments of a reference are not in a function type even
where the reference is; the parameters of a function type are, wherever that stands.
-/
namespace Bindings.Source

/-! ## The rule -/

def Ty.IsNamed (t : Ty) : Prop := ∃ name args, t.shape = .named name args

def Ty.IsFunction (t : Ty) : Prop := ∃ params result, t.shape = .function params result

def Ty.IsGenerated (t : Ty) : Prop := ∃ name typeParams, t.shape = .generated name typeParams

/-- Whether the model of a type that stands at `position` has the right description. -/
structure Ty.Described (position : Position) (t : Ty) (t' : Model.Ty) : Prop where
  byPosition :
    t.IsNamed ∨ t.IsFunction → t.tag ≠ some .receiver → t.tag ≠ some .mute →
      (∀ members, t.tag ≠ some (.intersection members)) → ¬ t.IsStringLiteral →
        t'.description =
          if t.nullable = true ∧ position = .signature then some "= null" else none
  mute :
    t.IsNamed ∨ t.IsFunction ∨ t.IsGenerated → t.tag = some .mute → t'.description = none
  receiver :
    t.IsNamed ∨ t.IsFunction ∨ t.IsGenerated → t.tag = some .receiver →
      t'.description = some "this"
  generated : t.IsGenerated → t.tag = none → t'.description = none

/-! ## Single types -/

theorem Ty.description_toModel {t : Ty} (position : Position) (h : t.IsNamed ∨ t.IsFunction)
    (hliteral : ¬ t.IsStringLiteral) :
    (t.toModel position).value.description = (Tag.describe position t.nullable t.tag).value := by
  obtain ⟨shape, nullable, tag⟩ := t
  obtain ⟨name, args, rfl⟩ | ⟨params, result, rfl⟩ := h
  · rw [Ty.toModel, Tag.namedToken?_eq_none hliteral]
    rfl
  · rw [Ty.toModel]
    rfl

/-- A generated reference is described as if it never stood in a function type. -/
theorem Ty.description_toModel_generated {t : Ty} (position : Position) (h : t.IsGenerated) :
    (t.toModel position).value.description = (Tag.describe .general t.nullable t.tag).value := by
  obtain ⟨shape, nullable, tag⟩ := t
  obtain ⟨name, typeParams, rfl⟩ := h
  rfl

/-- A tag that settles the description does so wherever the type stands. -/
theorem Ty.description_toModel_of_tag {t : Ty} {tag : Tag} {description : Option String}
    (position : Position) (h : t.IsNamed ∨ t.IsFunction ∨ t.IsGenerated)
    (htag : t.tag = some tag) (htoken : tag.token? = none)
    (hdescribe : ∀ position nullable, (Tag.describe position nullable (some tag)).value =
      description) :
    (t.toModel position).value.description = description := by
  have hliteral : ¬ t.IsStringLiteral := by
    rintro ⟨_, token, hstring⟩
    rw [htag] at hstring
    obtain rfl := Option.some.inj hstring
    cases htoken
  obtain h | h | h := h
  · rw [Ty.description_toModel position (.inl h) hliteral, htag, hdescribe]
  · rw [Ty.description_toModel position (.inr h) hliteral, htag, hdescribe]
  · rw [Ty.description_toModel_generated position h, htag, hdescribe]

theorem Position.nullDescription_eq (position : Position) (nullable : Bool) :
    position.nullDescription nullable =
      if nullable = true ∧ position = .signature then some "= null" else none := by
  cases position <;> cases nullable <;> rfl

theorem Ty.described_toModel (position : Position) (t : Ty) :
    t.Described position (t.toModel position).value where
  byPosition := by
    intro h hreceiver hmute hintersection hliteral
    rw [Ty.description_toModel position h hliteral, ← Position.nullDescription_eq]
    cases htag : t.tag with
    | none => rfl
    | some tag =>
      cases tag with
      | receiver => exact absurd htag hreceiver
      | intersection members => exact absurd htag (hintersection members)
      | mute => exact absurd htag hmute
      | stringLiteral token => rfl
  mute := by
    intro h htag
    exact Ty.description_toModel_of_tag position h htag rfl fun _ _ => rfl
  receiver := by
    intro h htag
    exact Ty.description_toModel_of_tag position h htag rfl fun _ _ => rfl
  generated := by
    intro h htag
    rw [Ty.description_toModel_generated position h, htag]
    rfl

/-! ## Modules -/

/-- Every reference and function type of a module is described by the rule, at the
position where it stands. -/
theorem Module.everywhere_described (m : Module) : m.Everywhere Ty.Described m.toModel.value :=
  Module.everywhere_toModel Ty.described_toModel m

/-- In `(p: List<Key?, () -> Value?>) -> Unit` the argument `Key?` has no default, but the
result `Value?` of the inner function type has. -/
example :
    (Ty.toModel .general (.plain (.function
      [.plain "p" (.generic (.ident "List")
        [(Ty.named (.ident "Key")).withNullable true,
          .plain (.function [] ((Ty.named (.ident "Value")).withNullable true))])]
      (.named (.ident "Unit"))))).value =
    .function
      [⟨"p", .ref ⟨.ident "List",
        [.ref ⟨.ident "Key", [], none, true⟩,
          .function [] (.ref ⟨.ident "Value", [], some "= null", true⟩) none false], none, false⟩,
        none, false, false⟩]
      (.ref (.simple (.ident "Unit"))) none false := by
  rfl

end Bindings.Source
