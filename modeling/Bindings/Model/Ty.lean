-- SUMMARY: Types of the model: references with arguments and function types, with their text form.
import Bindings.Name

/-!
# Types of the model

The model has only two shapes of type: a reference to a named type and a
function type. Where a source type had another structure, the reference is to
`dynamic` and a free-form `description` spells the structure out for whoever
prints the type. The text form shows everything but descriptions, initializers
and optionality.
-/
namespace Bindings.Model

mutual

/-- A type expression of the model. -/
inductive Ty where
  | ref (reference : Reference)
  | function (params : List Param) (result : Ty) (description : Option String) (nullable : Bool)

/-- A named type with its arguments. -/
structure Reference where
  name : Name
  args : List Ty
  description : Option String
  nullable : Bool

/-- A parameter of a function or of a function type. -/
structure Param where
  name : String
  ty : Ty
  initializer : Option Reference
  vararg : Bool
  isOptional : Bool

end

/-- A type variable and the types that bound it. -/
structure TypeParam where
  name : Name
  constraints : List Ty

/-! ## Building -/

/-- A reference without arguments or description that is not nullable. -/
def Reference.simple (name : Name) : Reference := ⟨name, [], none, false⟩

/-- The reference that stands for a structure without a counterpart. -/
def Reference.dynamic (description : Option String) : Reference :=
  ⟨.ident dynamicName, [], description, false⟩

/-! ## Views -/

def Ty.description : Ty → Option String
  | .ref r => r.description
  | .function _ _ description _ => description

def Ty.isNullable : Ty → Bool
  | .ref r => r.nullable
  | .function _ _ _ nullable => nullable

def Ty.isDynamic : Ty → Bool
  | .ref r => r.name.isIdent dynamicName
  | .function _ _ _ _ => false

/-- The reference, unless the type is a function type. -/
def Ty.reference? : Ty → Option Reference
  | .ref r => some r
  | .function _ _ _ _ => none

/-! ## Text form -/

mutual

/-- `Name<A, B>?` for a reference, `(a: A, vararg b: B) -> R` for a function
type, in parentheses and with `?` when that is nullable. -/
def Ty.text : Ty → String
  | .ref r => r.text
  | .function params result _ nullable =>
    let arrow := "(" ++ Text.joined ", " (Ty.paramTexts params) ++ ") -> " ++ result.text
    if nullable then "(" ++ arrow ++ ")?" else arrow

def Reference.text : Reference → String
  | ⟨name, args, _, nullable⟩ =>
    name.text
      ++ (if args.isEmpty then "" else "<" ++ Text.joined ", " (Ty.texts args) ++ ">")
      ++ (if nullable then "?" else "")

def Param.text : Param → String
  | ⟨name, ty, _, vararg, _⟩ => (if vararg then "vararg " else "") ++ name ++ ": " ++ ty.text

def Ty.texts : List Ty → List String
  | [] => []
  | t :: ts => t.text :: Ty.texts ts

def Ty.paramTexts : List Param → List String
  | [] => []
  | p :: ps => p.text :: Ty.paramTexts ps

end

theorem Ty.texts_eq_map (ts : List Ty) : Ty.texts ts = ts.map Ty.text := by
  induction ts with
  | nil => rfl
  | cons t ts ih => rw [Ty.texts, ih, List.map_cons]

theorem Ty.paramTexts_eq_map (ps : List Param) : Ty.paramTexts ps = ps.map Param.text := by
  induction ps with
  | nil => rfl
  | cons p ps ih => rw [Ty.paramTexts, ih, List.map_cons]

end Bindings.Model
