-- SUMMARY: The concerns a source type raises, in source order, and the proof that modelling it raises exactly those.
import Bindings.Build.Ty

/-!
# Concerns of types

`Ty.concerns` reads the concerns off a source type alone: no position, no model,
no log. It says which parts of a type are visited at all. The members of an
intersection, the type variables of a generated reference and the arguments of a
string literal are not, and a string literal in a union is not either.
-/
namespace Bindings.Source

/-! ## What a type reports -/

mutual

/-- The concerns of a type and of the types inside it, in source order. -/
def Ty.concerns : Ty → List Concern
  | ⟨.named name args, _, tag⟩ =>
    match name, tag with
    | .ident "String", some (.stringLiteral _) => []
    | _, _ => Ty.allConcerns args ++ Tag.concerns tag
  | ⟨.union members, _, _⟩ => Ty.unionConcerns members
  | ⟨.tuple elements, _, _⟩ => Ty.allConcerns elements
  | ⟨.function params result, _, tag⟩ =>
    Param.allConcerns params ++ result.concerns ++ Tag.concerns tag
  | ⟨.generated _ _, _, tag⟩ => Tag.concerns tag
  | ⟨.intersection _, _, _⟩ =>
    [⟨.unknownTypeExpression, "unable to translate type expression Intersection"⟩]
  | ⟨.literal _, _, _⟩ =>
    [⟨.unknownTypeExpression, "unable to translate type expression Literal"⟩]

/-- Only the members of an intersection tag are types that have to be modelled. -/
def Tag.concerns : Option Tag → List Concern
  | some (.intersection members) => Ty.allConcerns members
  | some .receiver => []
  | some .mute => []
  | some (.stringLiteral _) => []
  | none => []

def Ty.allConcerns : List Ty → List Concern
  | [] => []
  | t :: ts => t.concerns ++ Ty.allConcerns ts

/-- A member tagged as a string literal is silent, whatever its shape. -/
def Ty.unionConcerns : List Ty → List Concern
  | [] => []
  | t :: ts =>
    match t.tag with
    | some (.stringLiteral _) => Ty.unionConcerns ts
    | _ => t.concerns ++ Ty.unionConcerns ts

/-- A default value is a name, so that only the type can raise concerns. -/
def Param.concerns : Param → List Concern
  | ⟨_, ty, _, _, _⟩ => ty.concerns

def Param.allConcerns : List Param → List Concern
  | [] => []
  | p :: ps => p.concerns ++ Param.allConcerns ps

end

/-- The concerns of the bounds. -/
def TypeParam.concerns (p : TypeParam) : List Concern := p.constraints.flatMap Ty.concerns

/-! ## What modelling a type reports -/

/-- A reference that stands for a string literal reports nothing. -/
private theorem Ty.concerns_named_of_token {name : Name} {args : List Ty} {nullable : Bool}
    {tag : Option Tag} {token : String} (h : Tag.namedToken? name tag = some token) :
    Ty.concerns ⟨.named name args, nullable, tag⟩ = [] := by
  obtain ⟨rfl, rfl⟩ := Tag.namedToken?_eq_some_iff.mp h
  simp [Ty.concerns]

private theorem Ty.concerns_named_of_no_token {name : Name} {args : List Ty} {nullable : Bool}
    {tag : Option Tag} (h : Tag.namedToken? name tag = none) :
    Ty.concerns ⟨.named name args, nullable, tag⟩ = Ty.allConcerns args ++ Tag.concerns tag := by
  rw [Ty.concerns]
  exact Tag.ne_stringLiteral_of_namedToken? h

mutual

/-- The position of a type has no part in what it reports. -/
@[simp] theorem Ty.concerns_toModel (position : Position) (t : Ty) :
    (t.toModel position).concerns = t.concerns := by
  obtain ⟨shape, nullable, tag⟩ := t
  cases shape with
  | named name args =>
    rw [Ty.toModel]
    -- A token stands for the whole reference: neither arguments nor tag are visited.
    split
    next token h => rw [Ty.concerns_named_of_token h]; rfl
    next h =>
      have hargs := Ty.concerns_toModels args
      have htag := Tag.concerns_describe position nullable tag
      rw [Ty.concerns_named_of_no_token h]
      simp [hargs, htag]
  | union members =>
    have hmembers := Ty.concerns_unionTexts members
    simp [Ty.toModel, Ty.concerns, hmembers]
  | tuple elements =>
    have helements := Ty.concerns_toModels elements
    simp [Ty.toModel, Ty.concerns, helements]
  | function params result =>
    have hparams := Param.concerns_toModels .signature params
    have hresult := Ty.concerns_toModel .signature result
    have htag := Tag.concerns_describe position nullable tag
    simp [Ty.toModel, Ty.concerns, hparams, hresult, htag]
  | generated name typeParams =>
    have htag := Tag.concerns_describe .general nullable tag
    simp [Ty.toModel, Ty.concerns, htag]
  | intersection members =>
    simp [Ty.toModel, Ty.concerns, Ty.withoutRule, Ty.kind, Recovered.resolve]
  | literal token => simp [Ty.toModel, Ty.concerns, Ty.withoutRule, Ty.kind, Recovered.resolve]

private theorem Tag.concerns_describe (position : Position) (nullable : Bool) (tag : Option Tag) :
    (Tag.describe position nullable tag).concerns = Tag.concerns tag := by
  cases tag with
  | none => rfl
  | some tag =>
    cases tag with
    | intersection members =>
      have hmembers := Ty.concerns_toModels members
      simp [Tag.describe, Tag.concerns, hmembers]
    | receiver => rfl
    | mute => rfl
    | stringLiteral _ => rfl

private theorem Ty.concerns_toModels (ts : List Ty) :
    (Ty.toModels ts).concerns = Ty.allConcerns ts := by
  cases ts with
  | nil => rfl
  | cons t ts =>
    have ht := Ty.concerns_toModel .general t
    have hts := Ty.concerns_toModels ts
    simp [Ty.toModels, Ty.allConcerns, ht, hts]

private theorem Ty.concerns_unionTexts (ts : List Ty) :
    (Ty.unionTexts ts).concerns = Ty.unionConcerns ts := by
  cases ts with
  | nil => rfl
  | cons t ts =>
    have ht := Ty.concerns_toModel .general t
    have hts := Ty.concerns_unionTexts ts
    obtain ⟨shape, nullable, tag⟩ := t
    cases tag with
    | none => simp [Ty.unionTexts, Ty.unionConcerns, Ty.literalToken?, ht, hts]
    | some tag =>
      cases tag <;> simp [Ty.unionTexts, Ty.unionConcerns, Ty.literalToken?, Tag.token?, ht, hts]

@[simp] theorem Param.concerns_toModel (position : Position) (p : Param) :
    (p.toModel position).concerns = p.concerns := by
  obtain ⟨name, ty, initializer, vararg, isOptional⟩ := p
  have hty := Ty.concerns_toModel position ty
  simp [Param.toModel, Param.concerns, hty]

private theorem Param.concerns_toModels (position : Position) (ps : List Param) :
    (Param.toModels position ps).concerns = Param.allConcerns ps := by
  cases ps with
  | nil => rfl
  | cons p ps =>
    have hp := Param.concerns_toModel position p
    have hps := Param.concerns_toModels position ps
    simp [Param.toModels, Param.allConcerns, hp, hps]

end

/-- An intersection is reported without its members, and a string literal of a union
not at all. -/
example :
    ((Ty.union [.plain (.intersection [.plain (.literal "1")]), .stringLiteral "a",
        .plain (.literal "2")]).toModel .general).concerns =
      [⟨.unknownTypeExpression, "unable to translate type expression Intersection"⟩,
        ⟨.unknownTypeExpression, "unable to translate type expression Literal"⟩] := by
  decide

end Bindings.Source
