-- SUMMARY: The model of source types, parameters and type parameters.
import Bindings.Diagnostics
import Bindings.Source.Ty
import Bindings.Model.Ty

/-!
# Models of types

Named types and function types have counterparts in the model. Unions and tuples
become `dynamic`, and only a description spells out what they were.
Intersections and literals have no rule; they become `dynamic` without a
description and leave a concern.

The position of a type matters for one thing: a nullable type that stands
directly as a parameter or as the result of a function type is described as
defaulting to `null`.
-/
namespace Bindings

open Model (Reference)

/-- The description of a type that defaults to `null`. -/
def nullDefault : String := "= null"

namespace Source

/-- Where a type expression stands. -/
inductive Position where
  /-- Anywhere but directly in a function type. -/
  | general
  /-- Parameter or result of a function type. -/
  | signature
  deriving DecidableEq, Repr, Inhabited

/-- The description of a type without a tag that decides it. -/
def Position.nullDescription (position : Position) (nullable : Bool) : Option String :=
  match position with
  | .general => none
  | .signature => if nullable then some nullDefault else none

/-- The default value of a parameter is a reference without arguments. -/
def Initializer.toModel (i : Initializer) : Reference :=
  ⟨i.value, [], i.description, i.nullable⟩

/-- The token of a reference to the identifier `String` that stands for a string
literal. Arguments and nullability of such a reference mean nothing. -/
def Tag.namedToken? (name : Name) (tag : Option Tag) : Option String :=
  if name.isIdent "String" then tag.bind Tag.token? else none

/-- The outcome for a type that has no rule. -/
def Ty.withoutRule (t : Ty) : Recovered Model.Ty :=
  .degraded (.ref (.dynamic none))
    ⟨.unknownTypeExpression, "unable to translate type expression " ++ t.kind⟩

mutual

/-- The model of a type that stands at `position`. -/
def Ty.toModel (position : Position) : Ty → Reported Model.Ty
  | ⟨.named name args, nullable, tag⟩ =>
    match Tag.namedToken? name tag with
    | some token => return .ref ⟨name, [], some token, false⟩
    | none => do
      let args ← Ty.toModels args
      let description ← Tag.describe position nullable tag
      return .ref ⟨name, args, description, nullable⟩
  | ⟨.union members, _, _⟩ => do
    let texts ← Ty.unionTexts members
    return .ref (.dynamic (some (Text.joined " | " texts)))
  | ⟨.tuple elements, _, _⟩ => do
    let elements ← Ty.toModels elements
    let description := Text.joined ", " (elements.map Model.Ty.text)
    return .ref (.dynamic (some ("JsTuple<" ++ description ++ ">")))
  | ⟨.function params result, nullable, tag⟩ => do
    let params ← Param.toModels .signature params
    let result ← result.toModel .signature
    let description ← Tag.describe position nullable tag
    return .function params result description nullable
  | ⟨.generated name typeParams, nullable, tag⟩ => do
    let description ← Tag.describe .general nullable tag
    let args := typeParams.map fun p => Model.Ty.ref (.simple p.name)
    return .ref ⟨.ident name, args, description, nullable⟩
  | ⟨.intersection members, nullable, tag⟩ =>
    (Ty.withoutRule ⟨.intersection members, nullable, tag⟩).resolve
  | ⟨.literal token, nullable, tag⟩ =>
    (Ty.withoutRule ⟨.literal token, nullable, tag⟩).resolve

/-- The description of a reference or function type at `position`. -/
def Tag.describe (position : Position) (nullable : Bool) : Option Tag → Reported (Option String)
  | some .receiver => return some "this"
  | some (.intersection members) => do
    let members ← Ty.toModels members
    return some (Text.joined " & " (members.map Model.Ty.text))
  | some .mute => return none
  | some (.stringLiteral _) => return position.nullDescription nullable
  | none => return position.nullDescription nullable

/-- The models of types that stand anywhere but directly in a function type. -/
def Ty.toModels : List Ty → Reported (List Model.Ty)
  | [] => return []
  | t :: ts => do
    let t ← t.toModel .general
    let ts ← Ty.toModels ts
    return t :: ts

/-- The members of a union as text. A string literal keeps its token. -/
def Ty.unionTexts : List Ty → Reported (List String)
  | [] => return []
  | t :: ts =>
    match t.literalToken? with
    | some token => do
      let texts ← Ty.unionTexts ts
      return token :: texts
    | none => do
      let t ← t.toModel .general
      let texts ← Ty.unionTexts ts
      return t.text :: texts

/-- The model of a parameter whose type stands at `position`. -/
def Param.toModel (position : Position) : Param → Reported Model.Param
  | ⟨name, ty, initializer, vararg, isOptional⟩ => do
    let ty ← ty.toModel position
    return ⟨name, ty, initializer.map Initializer.toModel, vararg, isOptional⟩

def Param.toModels (position : Position) : List Param → Reported (List Model.Param)
  | [] => return []
  | p :: ps => do
    let p ← p.toModel position
    let ps ← Param.toModels position ps
    return p :: ps

end

/-- The model of a type variable and its bounds. -/
def TypeParam.toModel (p : TypeParam) : Reported Model.TypeParam := do
  let constraints ← Ty.toModels p.constraints
  return ⟨p.name, constraints⟩

def TypeParam.toModels : List TypeParam → Reported (List Model.TypeParam) :=
  Reported.each TypeParam.toModel

theorem Tag.namedToken?_eq_some_iff {name : Name} {tag : Option Tag} {token : String} :
    Tag.namedToken? name tag = some token ↔
      name = .ident "String" ∧ tag = some (.stringLiteral token) := by
  unfold Tag.namedToken?
  split
  next h =>
    rw [Name.isIdent_iff] at h
    cases tag with
    | none => simp
    | some tag => cases tag <;> simp [h, Tag.token?]
  next h =>
    rw [Name.isIdent_iff] at h
    simp [h]

theorem Tag.ne_stringLiteral_of_namedToken? {name : Name} {tag : Option Tag}
    (h : Tag.namedToken? name tag = none) (token : String) (hname : name = .ident "String") :
    tag ≠ some (.stringLiteral token) := by
  intro htag
  rw [Tag.namedToken?_eq_some_iff.mpr ⟨hname, htag⟩] at h
  cases h

theorem Ty.toModels_eq_each (ts : List Ty) :
    Ty.toModels ts = Reported.each (Ty.toModel .general) ts := by
  induction ts with
  | nil => rfl
  | cons t ts ih => rw [Ty.toModels, Reported.each, ih]

theorem Param.toModels_eq_each (position : Position) (ps : List Param) :
    Param.toModels position ps = Reported.each (Param.toModel position) ps := by
  induction ps with
  | nil => rfl
  | cons p ps ih => rw [Param.toModels, Reported.each, ih]

end Source

end Bindings
