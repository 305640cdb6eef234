-- SUMMARY: Type expressions as they are read from a source, with their annotations.
import Bindings.Name

/-!
# Types of a source

A source type is a shape together with two facts that every shape can carry:
whether `null` is allowed, and a tag left by whoever read the source or by an
earlier pass.
-/
namespace Bindings.Source

/-- The default value of a parameter. -/
structure Initializer where
  value : Name
  description : Option String
  nullable : Bool
  deriving DecidableEq, Repr

mutual

/-- A type expression of a source. -/
structure Ty where
  shape : Shape
  nullable : Bool
  tag : Option Tag

inductive Shape where
  | named (name : Name) (args : List Ty)
  | union (members : List Ty)
  | intersection (members : List Ty)
  | tuple (elements : List Ty)
  | function (params : List Param) (result : Ty)
  /-- An interface that an earlier pass made up, named before it is declared. -/
  | generated (name : String) (typeParams : List TypeParam)
  /-- A literal as a type; the token keeps its quotes. -/
  | literal (token : String)

/-- What a type expression additionally stands for. -/
inductive Tag where
  /-- The type of the receiver, in an interface that was made up. -/
  | receiver
  /-- The intersection of the given types. -/
  | intersection (members : List Ty)
  /-- A reference that must not be described as defaulting to `null`. -/
  | mute
  /-- A string literal type; the token keeps its quotes. -/
  | stringLiteral (token : String)

/-- A parameter of a function or of a function type. -/
structure Param where
  name : String
  ty : Ty
  initializer : Option Initializer
  vararg : Bool
  isOptional : Bool

/-- A type variable and the types that bound it. -/
structure TypeParam where
  name : Name
  constraints : List Ty

end

/-- The token of a string literal. -/
def Tag.token? : Tag → Option String
  | .receiver => none
  | .intersection _ => none
  | .mute => none
  | .stringLiteral token => some token

/-! ## Building -/

namespace Ty

/-- A type of the given shape that is not nullable and has no tag. -/
def plain (shape : Shape) : Ty := ⟨shape, false, none⟩

/-- A reference to `name` with arguments. -/
def generic (name : Name) (args : List Ty) : Ty := plain (.named name args)

/-- A reference to `name` without arguments. -/
def named (name : Name) : Ty := generic name []

def union (members : List Ty) : Ty := plain (.union members)

def tuple (elements : List Ty) : Ty := plain (.tuple elements)

/-- A reference to `String` that stands for the literal `token`. -/
def stringLiteral (token : String) : Ty :=
  ⟨.named (.ident "String") [], false, some (.stringLiteral token)⟩

def withNullable (t : Ty) (nullable : Bool) : Ty := { t with nullable := nullable }

def withTag (t : Ty) (tag : Tag) : Ty := { t with tag := some tag }

def nonNullable (t : Ty) : Ty := t.withNullable false

/-! ## Views -/

/-- What the shape is called in messages. -/
def kind (t : Ty) : String :=
  match t.shape with
  | .named _ _ => "NamedReference"
  | .union _ => "Union"
  | .intersection _ => "Intersection"
  | .tuple _ => "Tuple"
  | .function _ _ => "FunctionSignature"
  | .generated _ _ => "GeneratedInterfaceReference"
  | .literal _ => "Literal"

/-- The token of the string literal that the type stands for, whatever its shape. -/
def literalToken? (t : Ty) : Option String := t.tag.bind Tag.token?

/-- Whether the type is a reference to the identifier `s` and nothing more: no
arguments, not nullable, no tag. -/
def isBare (t : Ty) (s : String) : Bool :=
  match t with
  | ⟨.named name [], false, none⟩ => name.isIdent s
  | _ => false

theorem isBare_iff {t : Ty} {s : String} : t.isBare s = true ↔ t = named (.ident s) := by
  unfold isBare
  split
  next name => simp [Name.isIdent_iff, named, generic, plain]
  next h =>
    refine ⟨fun h => (Bool.false_ne_true h).elim, ?_⟩
    rintro rfl
    exact (h (.ident s) rfl).elim

end Ty

/-- A parameter without default value. -/
def Param.plain (name : String) (ty : Ty) : Param := ⟨name, ty, none, false, false⟩

/-- A type variable without bounds. -/
def TypeParam.plain (name : Name) : TypeParam := ⟨name, []⟩

end Bindings.Source
