-- SUMMARY: The exchange form of the model's types.
import Bindings.Model.Ty
import Bindings.Exchange.Name

/-!
# Types of the model as exchange values
-/
namespace Bindings.Model

/-! ## Writing -/

mutual

def Ty.encode : Ty → Value
  | .ref r => .variant "Value" r.encode
  | .function params result description nullable =>
    .variant "Function" (.object [
      ("parameters", .array (Ty.encodeParams params)),
      ("return_type", result.encode),
      ("description", .option .string description),
      ("nullable", .bool nullable)])

def Reference.encode : Reference → Value
  | ⟨name, args, description, nullable⟩ => .object [
      ("value", name.encode),
      ("params", .array (Ty.encodeAll args)),
      ("description", .option .string description),
      ("nullable", .bool nullable)]

def Param.encode : Param → Value
  | ⟨name, ty, initializer, vararg, isOptional⟩ => .object [
      ("name", .string name),
      ("ty", ty.encode),
      ("initializer", Param.encodeInitializer initializer),
      ("vararg", .bool vararg),
      ("optional", .bool isOptional)]

def Param.encodeInitializer : Option Reference → Value
  | none => .null
  | some r => r.encode

def Ty.encodeAll : List Ty → List Value
  | [] => []
  | t :: ts => t.encode :: Ty.encodeAll ts

def Ty.encodeParams : List Param → List Value
  | [] => []
  | p :: ps => p.encode :: Ty.encodeParams ps

end

def TypeParam.encode (p : TypeParam) : Value := .object [
  ("name", p.name.encode),
  ("constraints", .list Ty.encode p.constraints)]

/-! ## Reading -/

mutual

/-- Read a type from a value that is nested no deeper than `depth`. -/
def Ty.decodeWithin : (depth : Nat) → Value → Option Ty
  | 0, _ => none
  | depth + 1, v => do
    let (kind, payload) ← v.variant?
    match kind with
    | "Value" => .ref <$> Reference.decodeWithin depth payload
    | "Function" =>
      let [params, result, description, nullable] ←
        payload.fields? ["parameters", "return_type", "description", "nullable"] | none
      let params ← params.list? (Param.decodeWithin depth)
      let result ← Ty.decodeWithin depth result
      let description ← description.option? Value.string?
      let nullable ← nullable.bool?
      return .function params result description nullable
    | _ => none

def Reference.decodeWithin : (depth : Nat) → Value → Option Reference
  | 0, _ => none
  | depth + 1, v => do
    let [name, args, description, nullable] ←
      v.fields? ["value", "params", "description", "nullable"] | none
    let name ← Name.decode? name
    let args ← args.list? (Ty.decodeWithin depth)
    let description ← description.option? Value.string?
    let nullable ← nullable.bool?
    return ⟨name, args, description, nullable⟩

def Param.decodeWithin : (depth : Nat) → Value → Option Param
  | 0, _ => none
  | depth + 1, v => do
    let [name, ty, initializer, vararg, isOptional] ←
      v.fields? ["name", "ty", "initializer", "vararg", "optional"] | none
    let name ← name.string?
    let ty ← Ty.decodeWithin depth ty
    let initializer ← initializer.option? (Reference.decodeWithin depth)
    let vararg ← vararg.bool?
    let isOptional ← isOptional.bool?
    return ⟨name, ty, initializer, vararg, isOptional⟩

end

def Ty.decode? (v : Value) : Option Ty := Ty.decodeWithin v.depth v

def Reference.decode? (v : Value) : Option Reference := Reference.decodeWithin v.depth v

def Param.decode? (v : Value) : Option Param := Param.decodeWithin v.depth v

def TypeParam.decode? (v : Value) : Option TypeParam := do
  let [name, constraints] ← v.fields? ["name", "constraints"] | none
  let name ← Name.decode? name
  let constraints ← constraints.list? Ty.decode?
  return ⟨name, constraints⟩

end Bindings.Model
