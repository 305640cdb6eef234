-- SUMMARY: The exchange form of source types.
import Bindings.Source.Ty
import Bindings.Exchange.Name

/-!
# Source types as exchange values

The variant names the shape. Its record has the parts of the shape first, then
nullability and tag.
-/
namespace Bindings.Source

/-! ## Writing -/

def Initializer.encode (i : Initializer) : Value := .object [
  ("value", i.value.encode),
  ("meta", .option .string i.description),
  ("nullable", .bool i.nullable)]

mutual

def Ty.encode : Ty → Value
  | ⟨shape, nullable, tag⟩ =>
    let (kind, parts) := shape.encodeParts
    .variant kind (.object (parts ++
      [("nullable", .bool nullable), ("meta", Ty.encodeTag tag)]))

/-- The name of the shape and the fields it has of its own. -/
def Shape.encodeParts : Shape → String × List (String × Value)
  | .named name args =>
    ("Named", [("name", name.encode), ("params", .array (Ty.encodeAll args))])
  | .union members => ("Union", [("members", .array (Ty.encodeAll members))])
  | .intersection members => ("Intersection", [("members", .array (Ty.encodeAll members))])
  | .tuple elements => ("Tuple", [("elements", .array (Ty.encodeAll elements))])
  | .function params result =>
    ("Function", [
      ("parameters", .array (Param.encodeAll params)),
      ("return_type", result.encode)])
  | .generated name typeParams =>
    ("GeneratedInterfaceReference", [
      ("name", .string name),
      ("type_parameters", .array (TypeParam.encodeAll typeParams))])
  | .literal token => ("Literal", [("token", .string token)])

def Tag.encode : Tag → Value
  | .receiver => .string "ThisType"
  | .intersection members => .variant "Intersection" (.array (Ty.encodeAll members))
  | .mute => .string "Mute"
  | .stringLiteral token => .variant "StringLiteral" (.string token)

def Ty.encodeTag : Option Tag → Value
  | none => .null
  | some tag => tag.encode

def Param.encode : Param → Value
  | ⟨name, ty, initializer, vararg, isOptional⟩ => .object [
      ("name", .string name),
      ("ty", ty.encode),
      ("initializer", .option Initializer.encode initializer),
      ("vararg", .bool vararg),
      ("optional", .bool isOptional)]

def TypeParam.encode : TypeParam → Value
  | ⟨name, constraints⟩ => .object [
      ("name", name.encode),
      ("constraints", .array (Ty.encodeAll constraints))]

def Ty.encodeAll : List Ty → List Value
  | [] => []
  | t :: ts => t.encode :: Ty.encodeAll ts

def Param.encodeAll : List Param → List Value
  | [] => []
  | p :: ps => p.encode :: Param.encodeAll ps

def TypeParam.encodeAll : List TypeParam → List Value
  | [] => []
  | p :: ps => p.encode :: TypeParam.encodeAll ps

end

/-! ## Reading -/

def Initializer.decode? (v : Value) : Option Initializer := do
  let [value, description, nullable] ← v.fields? ["value", "meta", "nullable"] | none
  let value ← Name.decode? value
  let description ← description.option? Value.string?
  let nullable ← nullable.bool?
  return ⟨value, description, nullable⟩

/-- The fields a shape has of its own. -/
def Shape.partNames : String → List String
  | "Named" => ["name", "params"]
  | "Union" => ["members"]
  | "Intersection" => ["members"]
  | "Tuple" => ["elements"]
  | "Function" => ["parameters", "return_type"]
  | "GeneratedInterfaceReference" => ["name", "type_parameters"]
  | "Literal" => ["token"]
  | _ => []

/-- Complete a shape with its nullability and its tag. -/
def Ty.complete? (readTag : Value → Option Tag) (shape : Shape) (nullable tag : Value) :
    Option Ty := do
  let nullable ← nullable.bool?
  let tag ← tag.option? readTag
  return ⟨shape, nullable, tag⟩

mutual

/-- Read a type from a value that is nested no deeper than `depth`. -/
def Ty.decodeWithin : (depth : Nat) → Value → Option Ty
  | 0, _ => none
  | depth + 1, v => do
    let (kind, payload) ← v.variant?
    let fields ← payload.fields? (Shape.partNames kind ++ ["nullable", "meta"])
    match kind, fields with
    | "Named", [name, args, nullable, tag] =>
      let name ← Name.decode? name
      let args ← args.list? (Ty.decodeWithin depth)
      Ty.complete? (Tag.decodeWithin depth) (.named name args) nullable tag
    | "Union", [members, nullable, tag] =>
      let members ← members.list? (Ty.decodeWithin depth)
      Ty.complete? (Tag.decodeWithin depth) (.union members) nullable tag
    | "Intersection", [members, nullable, tag] =>
      let members ← members.list? (Ty.decodeWithin depth)
      Ty.complete? (Tag.decodeWithin depth) (.intersection members) nullable tag
    | "Tuple", [elements, nullable, tag] =>
      let elements ← elements.list? (Ty.decodeWithin depth)
      Ty.complete? (Tag.decodeWithin depth) (.tuple elements) nullable tag
    | "Function", [params, result, nullable, tag] =>
      let params ← params.list? (Param.decodeWithin depth)
      let result ← Ty.decodeWithin depth result
      Ty.complete? (Tag.decodeWithin depth) (.function params result) nullable tag
    | "GeneratedInterfaceReference", [name, typeParams, nullable, tag] =>
      let name ← name.string?
      let typeParams ← typeParams.list? (TypeParam.decodeWithin depth)
      Ty.complete? (Tag.decodeWithin depth) (.generated name typeParams) nullable tag
    | "Literal", [token, nullable, tag] =>
      let token ← token.string?
      Ty.complete? (Tag.decodeWithin depth) (.literal token) nullable tag
    | _, _ => none

def Tag.decodeWithin : (depth : Nat) → Value → Option Tag
  | 0, _ => none
  | depth + 1, v => do
    let (kind, payload) ← v.variant?
    match kind with
    | "ThisType" => (fun _ => .receiver) <$> payload.empty?
    | "Intersection" => .intersection <$> payload.list? (Ty.decodeWithin depth)
    | "Mute" => (fun _ => .mute) <$> payload.empty?
    | "StringLiteral" => .stringLiteral <$> payload.string?
    | _ => none

def Param.decodeWithin : (depth : Nat) → Value → Option Param
  | 0, _ => none
  | depth + 1, v => do
    let [name, ty, initializer, vararg, isOptional] ←
      v.fields? ["name", "ty", "initializer", "vararg", "optional"] | none
    let name ← name.string?
    let ty ← Ty.decodeWithin depth ty
    let initializer ← initializer.option? Initializer.decode?
    let vararg ← vararg.bool?
    let isOptional ← isOptional.bool?
    return ⟨name, ty, initializer, vararg, isOptional⟩

def TypeParam.decodeWithin : (depth : Nat) → Value → Option TypeParam
  | 0, _ => none
  | depth + 1, v => do
    let [name, constraints] ← v.fields? ["name", "constraints"] | none
    let name ← Name.decode? name
    let constraints ← constraints.list? (Ty.decodeWithin depth)
    return ⟨name, constraints⟩

end

def Ty.decode? (v : Value) : Option Ty := Ty.decodeWithin v.depth v

def Tag.decode? (v : Value) : Option Tag := Tag.decodeWithin v.depth v

def Param.decode? (v : Value) : Option Param := Param.decodeWithin v.depth v

def TypeParam.decode? (v : Value) : Option TypeParam := TypeParam.decodeWithin v.depth v

end Bindings.Source
