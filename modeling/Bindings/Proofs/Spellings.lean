-- SUMMARY: The text form and the description of the model of a type, read off the source type.
import Bindings.Proofs.Descriptions

/-!
# Spellings

What the model of a type looks like in text can be said without building it.
`Ty.spelling` is its text form, `Ty.descriptor` its description. Descriptions are made
of the text forms of parts, and no description is ever part of a text form: a union
inside another type is written `dynamic` there, whatever its own description says.
-/
namespace Bindings.Source

/-! ## Text forms -/

/-- A name with arguments in angle brackets, and a question mark if it is nullable. -/
def applied (name : String) (args : List String) (nullable : Bool) : String :=
  name ++ (if args.isEmpty then "" else "<" ++ Text.joined ", " args ++ ">") ++
    (if nullable then "?" else "")

mutual

/-- How the model of a type is written. -/
def Ty.spelling : Ty → String
  | ⟨.named name args, nullable, tag⟩ =>
    match name, tag with
    | .ident "String", some (.stringLiteral _) => "String"
    | _, _ => applied name.text (Ty.spellings args) nullable
  | ⟨.function params result, nullable, _⟩ =>
    let arrow := "(" ++ Text.joined ", " (Param.spellings params) ++ ") -> " ++ result.spelling
    if nullable then "(" ++ arrow ++ ")?" else arrow
  | ⟨.generated name typeParams, nullable, _⟩ =>
    applied name (typeParams.map fun p => p.name.text) nullable
  | ⟨.union _, _, _⟩ => "dynamic"
  | ⟨.tuple _, _, _⟩ => "dynamic"
  | ⟨.intersection _, _, _⟩ => "dynamic"
  | ⟨.literal _, _, _⟩ => "dynamic"

def Param.spelling : Param → String
  | ⟨name, ty, _, vararg, _⟩ => (if vararg then "vararg " else "") ++ name ++ ": " ++ ty.spelling

def Ty.spellings : List Ty → List String
  | [] => []
  | t :: ts => t.spelling :: Ty.spellings ts

def Param.spellings : List Param → List String
  | [] => []
  | p :: ps => p.spelling :: Param.spellings ps

end

theorem Ty.spellings_eq_map (ts : List Ty) : Ty.spellings ts = ts.map Ty.spelling := by
  induction ts with
  | nil => rfl
  | cons t ts ih => rw [Ty.spellings, ih, List.map_cons]

/-! ## Descriptions -/

/-- How a type is written as a member of a union: a string literal as its token, whatever
shape it has. -/
def Ty.memberSpelling (t : Ty) : String :=
  match t.tag with
  | some (.stringLiteral token) => token
  | _ => t.spelling

/-- The description of a reference or a function type at `position`. -/
def Tag.descriptor (position : Position) (nullable : Bool) : Option Tag → Option String
  | some .receiver => some "this"
  | some (.intersection members) => some (Text.joined " & " (members.map Ty.spelling))
  | some .mute => none
  | _ => if nullable = true ∧ position = .signature then some "= null" else none

/-- The description of the model of a type at `position`. -/
def Ty.descriptor (position : Position) : Ty → Option String
  | ⟨.named name _, nullable, tag⟩ =>
    match name, tag with
    | .ident "String", some (.stringLiteral token) => some token
    | _, _ => Tag.descriptor position nullable tag
  | ⟨.function _ _, nullable, tag⟩ => Tag.descriptor position nullable tag
  | ⟨.generated _ _, nullable, tag⟩ => Tag.descriptor .general nullable tag
  | ⟨.union members, _, _⟩ => some (Text.joined " | " (members.map Ty.memberSpelling))
  | ⟨.tuple elements, _, _⟩ =>
    some ("JsTuple<" ++ Text.joined ", " (elements.map Ty.spelling) ++ ">")
  | ⟨.intersection _, _, _⟩ => none
  | ⟨.literal _, _, _⟩ => none

/-- Whether a type of the model is written and described as the source type says. -/
structure Ty.Spelled (position : Position) (t : Ty) (t' : Model.Ty) : Prop where
  text : t'.text = t.spelling
  description : t'.description = t.descriptor position

/-! ## The text form of a model -/

theorem text_ref (name : Name) (args : List Model.Ty) (description : Option String)
    (nullable : Bool) :
    Model.Ty.text (.ref ⟨name, args, description, nullable⟩) =
      applied name.text (Model.Ty.texts args) nullable := by
  have hempty : (Model.Ty.texts args).isEmpty = args.isEmpty := by cases args <;> rfl
  rw [Model.Ty.text, Model.Reference.text, applied, hempty]

/-- A string literal is written like any other reference to its name without arguments. -/
private theorem Ty.spelling_named_of_token {name : Name} {args : List Ty} {nullable : Bool}
    {tag : Option Tag} {token : String} (h : Tag.namedToken? name tag = some token) :
    Ty.spelling ⟨.named name args, nullable, tag⟩ = applied name.text [] false := by
  obtain ⟨rfl, rfl⟩ := Tag.namedToken?_eq_some_iff.mp h
  rw [Ty.spelling]
  rfl

private theorem Ty.spelling_named_of_no_token {name : Name} {args : List Ty} {nullable : Bool}
    {tag : Option Tag} (h : Tag.namedToken? name tag = none) :
    Ty.spelling ⟨.named name args, nullable, tag⟩ =
      applied name.text (Ty.spellings args) nullable := by
  rw [Ty.spelling]
  exact Tag.ne_stringLiteral_of_namedToken? h

mutual

theorem Ty.text_toModel (position : Position) (t : Ty) :
    (t.toModel position).value.text = t.spelling := by
  obtain ⟨shape, nullable, tag⟩ := t
  cases shape with
  | named name args =>
    rw [Ty.toModel]
    split
    next token h =>
      rw [Ty.spelling_named_of_token h]
      exact text_ref name [] (some token) false
    next h =>
      have hargs := Ty.texts_toModels args
      rw [Ty.spelling_named_of_no_token h, ← hargs]
      exact text_ref name _ _ nullable
  | function params result =>
    have hparams := Param.texts_toModels params
    have hresult := Ty.text_toModel .signature result
    rw [Ty.toModel, Ty.spelling, ← hparams, ← hresult]
    rfl
  | generated name typeParams =>
    have hargs : Model.Ty.texts (typeParams.map fun p => .ref (.simple p.name)) =
        typeParams.map fun p => p.name.text := by
      rw [Model.Ty.texts_eq_map, List.map_map]
      simp [Model.Ty.text, Model.Reference.simple, Model.Reference.text]
    rw [Ty.spelling, ← hargs]
    exact text_ref (.ident name) _ _ nullable
  | union members => rfl
  | tuple elements => rfl
  | intersection members => rfl
  | literal token => rfl

private theorem Ty.texts_toModels (ts : List Ty) :
    Model.Ty.texts (Ty.toModels ts).value = Ty.spellings ts := by
  cases ts with
  | nil => rfl
  | cons t ts =>
    have ht := Ty.text_toModel .general t
    have hts := Ty.texts_toModels ts
    rw [Ty.spellings, ← ht, ← hts]
    rfl

private theorem Param.text_toModel (position : Position) (p : Param) :
    (p.toModel position).value.text = p.spelling := by
  obtain ⟨name, ty, initializer, vararg, isOptional⟩ := p
  have hty := Ty.text_toModel position ty
  rw [Param.spelling, ← hty]
  rfl

private theorem Param.texts_toModels (ps : List Param) :
    Model.Ty.paramTexts (Param.toModels .signature ps).value = Param.spellings ps := by
  cases ps with
  | nil => rfl
  | cons p ps =>
    have hp := Param.text_toModel .signature p
    have hps := Param.texts_toModels ps
    rw [Param.spellings, ← hp, ← hps]
    rfl

end

/-! ## The description of a model -/

theorem Ty.map_text_toModels (ts : List Ty) :
    (Ty.toModels ts).value.map Model.Ty.text = ts.map Ty.spelling := by
  rw [← Model.Ty.texts_eq_map, Ty.texts_toModels, Ty.spellings_eq_map]

theorem Ty.value_unionTexts (ts : List Ty) :
    (Ty.unionTexts ts).value = ts.map Ty.memberSpelling := by
  induction ts with
  | nil => rfl
  | cons t ts ih =>
    have ht := Ty.text_toModel .general t
    obtain ⟨shape, nullable, tag⟩ := t
    rw [Ty.unionTexts, List.map_cons, ← ih]
    -- Only the tag of a string literal has a token.
    cases tag with
    | none => simp [Ty.literalToken?, Ty.memberSpelling, ht]
    | some tag =>
      cases tag <;> simp [Ty.literalToken?, Tag.token?, Ty.memberSpelling, ht]

theorem Tag.value_describe (position : Position) (nullable : Bool) (tag : Option Tag) :
    (Tag.describe position nullable tag).value = Tag.descriptor position nullable tag := by
  have hnull := Position.nullDescription_eq position nullable
  cases tag with
  | none => exact hnull
  | some tag =>
    cases tag with
    | receiver => rfl
    | mute => rfl
    | stringLiteral token => exact hnull
    | intersection members =>
      rw [Tag.describe, Reported.value_bind, Reported.value_pure, Ty.map_text_toModels]
      rfl

/-- A token decides the description, whatever else the reference has. -/
private theorem Ty.descriptor_named_of_token {position : Position} {name : Name} {args : List Ty}
    {nullable : Bool} {tag : Option Tag} {token : String}
    (h : Tag.namedToken? name tag = some token) :
    Ty.descriptor position ⟨.named name args, nullable, tag⟩ = some token := by
  obtain ⟨rfl, rfl⟩ := Tag.namedToken?_eq_some_iff.mp h
  rw [Ty.descriptor]

private theorem Ty.descriptor_named_of_no_token {position : Position} {name : Name}
    {args : List Ty} {nullable : Bool} {tag : Option Tag} (h : Tag.namedToken? name tag = none) :
    Ty.descriptor position ⟨.named name args, nullable, tag⟩ =
      Tag.descriptor position nullable tag := by
  rw [Ty.descriptor]
  exact Tag.ne_stringLiteral_of_namedToken? h

theorem Ty.description_toModel_eq_descriptor (position : Position) (t : Ty) :
    (t.toModel position).value.description = t.descriptor position := by
  obtain ⟨shape, nullable, tag⟩ := t
  cases shape with
  | named name args =>
    rw [Ty.toModel]
    split
    next token h =>
      rw [Ty.descriptor_named_of_token h]
      rfl
    next h =>
      rw [Ty.descriptor_named_of_no_token h]
      exact Tag.value_describe position nullable tag
  | function params result => exact Tag.value_describe position nullable tag
  | generated name typeParams => exact Tag.value_describe .general nullable tag
  | union members =>
    rw [Ty.descriptor, ← Ty.value_unionTexts]
    rfl
  | tuple elements =>
    rw [Ty.descriptor, ← Ty.map_text_toModels]
    rfl
  | intersection members => rfl
  | literal token => rfl

theorem Ty.spelled_toModel (position : Position) (t : Ty) :
    t.Spelled position (t.toModel position).value where
  text := Ty.text_toModel position t
  description := Ty.description_toModel_eq_descriptor position t

/-- Text form and description of the model of a type can be read off the type, whatever
the log holds that the concerns are added to. So can those of all models inside it, and
of all types of a module. -/
theorem everywhere_spelled :
    (∀ (position : Position) (t : Ty) (log : Log),
      ((t.toModel position).into log).1.text = t.spelling ∧
        Ty.Everywhere Ty.Spelled position t ((t.toModel position).into log).1) ∧
      ∀ m : Module, m.Everywhere Ty.Spelled m.toModel.value := by
  constructor
  · intro position t log
    exact ⟨Ty.text_toModel position t, Ty.everywhere_toModel Ty.spelled_toModel position t⟩
  · intro m
    exact Module.everywhere_toModel Ty.spelled_toModel m

/-- The description of a tuple does not get into that of the union around it. -/
example :
    ((Ty.union [.stringLiteral "a", .tuple [.named (.ident "B")],
        .generic (.ident "List") [.tuple []]]).toModel .general).value.description =
      some "a | dynamic | List<dynamic>" := by
  rfl

end Bindings.Source
