-- SUMMARY: The position of a type decides its own description at most: its models at two positions agree below.
import Bindings.Proofs.Concerns.SourceSet
import Bindings.Proofs.Spellings

/-!
# Positions

The position of a type is no context that is handed down. Arguments stand at the general
position wherever the type around them stands, and parameters and results of a function
type at that of a signature. So the models of a type at the two positions are the same
below their own descriptions, and these differ where a default of `null` is the only thing
to be said: the type is nullable, and neither its shape nor its tag says something else.
-/
namespace Bindings

namespace Model

/-- Whether two types are the same but for the descriptions they have themselves. The types
inside them have the same descriptions. -/
inductive Ty.AgreeBelow : Ty → Ty → Prop
  | ref {name : Name} {args : List Ty} {nullable : Bool}
      (description description' : Option String) :
      Ty.AgreeBelow (.ref ⟨name, args, description, nullable⟩)
        (.ref ⟨name, args, description', nullable⟩)
  | function {params : List Param} {result : Ty} {nullable : Bool}
      (description description' : Option String) :
      Ty.AgreeBelow (.function params result description nullable)
        (.function params result description' nullable)

/-- Whether two parameters are the same but for the descriptions of their types. -/
structure Param.AgreeBelow (p p' : Param) : Prop where
  name : p.name = p'.name
  ty : p.ty.AgreeBelow p'.ty
  initializer : p.initializer = p'.initializer
  vararg : p.vararg = p'.vararg
  isOptional : p.isOptional = p'.isOptional

end Model

namespace Source

/-! ## Defaults -/

/-- Whether the type is described as defaulting to `null` where its position asks for it. -/
structure Ty.TakesDefault (t : Ty) : Prop where
  shape : t.IsNamed ∨ t.IsFunction
  nullable : t.nullable = true
  tag : t.tag = none ∨ ∃ token, t.tag = some (.stringLiteral token)
  notLiteral : ¬ t.IsStringLiteral

/-- Whether the types, the first one outside of function types and the second one directly
in one, differ by a default that `t` takes, and by nothing else. -/
structure Ty.ApartByDefault (t : Ty) (outside inside : Model.Ty) : Prop where
  below : outside.AgreeBelow inside
  description_ne_iff : outside.description ≠ inside.description ↔ t.TakesDefault
  descriptions :
    t.TakesDefault → outside.description = none ∧ inside.description = some "= null"

/-! ## One type at two positions -/

theorem Ty.agreeBelow_toModel (t : Ty) :
    (t.toModel .general).value.AgreeBelow (t.toModel .signature).value := by
  obtain ⟨shape, nullable, tag⟩ := t
  cases shape with
  | named name args =>
    rw [Ty.toModel, Ty.toModel]
    cases Tag.namedToken? name tag with
    | some token => exact .ref _ _
    | none => exact .ref _ _
  | function params result => exact .function _ _
  | generated name typeParams => exact .ref _ _
  | union members => exact .ref _ _
  | tuple elements => exact .ref _ _
  | intersection members => exact .ref _ _
  | literal token => exact .ref _ _

theorem Ty.TakesDefault.description_toModel {t : Ty} (h : t.TakesDefault) (position : Position) :
    (t.toModel position).value.description =
      if position = .signature then some "= null" else none := by
  have hdefault : (Tag.describe position t.nullable t.tag).value =
      position.nullDescription t.nullable := by
    obtain htag | ⟨token, htag⟩ := h.tag
    · rw [htag]
      rfl
    · rw [htag]
      rfl
  rw [Ty.description_toModel position h.shape h.notLiteral, hdefault,
    Position.nullDescription_eq, h.nullable]
  simp

/-- Where no default of `null` is taken the position has no say. -/
theorem Tag.value_describe_eq {nullable : Bool} {tag : Option Tag}
    (h : nullable = true → tag ≠ none ∧ ∀ token, tag ≠ some (.stringLiteral token)) :
    (Tag.describe .general nullable tag).value = (Tag.describe .signature nullable tag).value := by
  have hnull (hsilent : nullable = false) :
      Position.nullDescription .general nullable =
        Position.nullDescription .signature nullable := by
    rw [hsilent]
    rfl
  cases tag with
  | none => exact hnull (by simpa using fun hnullable => (h hnullable).1 rfl)
  | some tag =>
    cases tag with
    | stringLiteral token =>
      exact hnull (by simpa using fun hnullable => (h hnullable).2 token rfl)
    | receiver => rfl
    | intersection members => rfl
    | mute => rfl

theorem Ty.description_toModel_eq {t : Ty} (h : ¬ t.TakesDefault) :
    (t.toModel .general).value.description = (t.toModel .signature).value.description := by
  by_cases hliteral : t.IsStringLiteral
  · obtain ⟨shape, nullable, tag⟩ := t
    obtain ⟨⟨args, rfl⟩, token, rfl⟩ := hliteral
    simp only [Ty.description_toModel_eq_descriptor, Ty.descriptor]
  · have htag (hshape : t.IsNamed ∨ t.IsFunction) (hnullable : t.nullable = true) :
        t.tag ≠ none ∧ ∀ token, t.tag ≠ some (.stringLiteral token) := by
      constructor
      · intro hnone
        exact h ⟨hshape, hnullable, .inl hnone, hliteral⟩
      · intro token htoken
        exact h ⟨hshape, hnullable, .inr ⟨token, htoken⟩, hliteral⟩
    have hdescribe (hshape : t.IsNamed ∨ t.IsFunction) :
        (t.toModel .general).value.description = (t.toModel .signature).value.description := by
      rw [Ty.description_toModel _ hshape hliteral, Ty.description_toModel _ hshape hliteral]
      exact Tag.value_describe_eq (htag hshape)
    obtain ⟨shape, nullable, tag⟩ := t
    cases shape with
    | named name args => exact hdescribe (.inl ⟨name, args, rfl⟩)
    | function params result => exact hdescribe (.inr ⟨params, result, rfl⟩)
    | generated name typeParams => rfl
    | union members => rfl
    | tuple elements => rfl
    | intersection members => rfl
    | literal token => rfl

theorem Ty.apartByDefault_toModel (t : Ty) :
    t.ApartByDefault (t.toModel .general).value (t.toModel .signature).value where
  below := t.agreeBelow_toModel
  description_ne_iff := by
    constructor
    · intro hne
      by_contra h
      exact hne (Ty.description_toModel_eq h)
    · intro h
      rw [h.description_toModel, h.description_toModel]
      simp
  descriptions := by
    intro h
    exact ⟨h.description_toModel .general, h.description_toModel .signature⟩

/-! ## Parameters -/

/-- Whether the parameters, the first one outside of function types and the second one of
one, differ by a default that the type of `p` takes, and by nothing else. -/
structure Param.ApartByDefault (p : Param) (outside inside : Model.Param) : Prop where
  below : outside.AgreeBelow inside
  ty : p.ty.ApartByDefault outside.ty inside.ty

theorem Param.apartByDefault_toModel (p : Param) :
    p.ApartByDefault (p.toModel .general).value (p.toModel .signature).value := by
  obtain ⟨name, ty, initializer, vararg, isOptional⟩ := p
  have hty := ty.apartByDefault_toModel
  exact ⟨⟨rfl, hty.below, rfl, rfl, rfl⟩, hty⟩

/-! ## Outcomes -/

/-- Whatever the log holds, a type raises the same concerns at both positions, and its
models differ by a default that it takes, and by nothing else. So does a parameter. -/
theorem positions_apartByDefault :
    (∀ (t : Ty) (log : Log),
      (t.toModel .general).concerns = (t.toModel .signature).concerns ∧
        ((t.toModel .general).into log).2 = ((t.toModel .signature).into log).2 ∧
        t.ApartByDefault ((t.toModel .general).into log).1 ((t.toModel .signature).into log).1) ∧
    ∀ (p : Param) (log : Log),
      (p.toModel .general).concerns = (p.toModel .signature).concerns ∧
        ((p.toModel .general).into log).2 = ((p.toModel .signature).into log).2 ∧
        p.ApartByDefault ((p.toModel .general).into log).1 ((p.toModel .signature).into log).1 := by
  constructor
  · intro t log
    have hconcerns : (t.toModel .general).concerns = (t.toModel .signature).concerns := by
      rw [Ty.concerns_toModel, Ty.concerns_toModel]
    refine ⟨hconcerns, ?_, t.apartByDefault_toModel⟩
    rw [Reported.into_eq, Reported.into_eq, hconcerns]
  · intro p log
    have hconcerns : (p.toModel .general).concerns = (p.toModel .signature).concerns := by
      rw [Param.concerns_toModel, Param.concerns_toModel]
    refine ⟨hconcerns, ?_, p.apartByDefault_toModel⟩
    rw [Reported.into_eq, Reported.into_eq, hconcerns]

/-- Of `List<Key?>?` in a function type only the list itself gets a default. -/
example :
    (((Ty.generic (.ident "List") [(Ty.named (.ident "Key")).withNullable true]).withNullable
        true).toModel .signature).value =
      .ref ⟨.ident "List", [.ref ⟨.ident "Key", [], none, true⟩], some "= null", true⟩ := by
  rfl

end Source

end Bindings
