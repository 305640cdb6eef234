-- SUMMARY: The exchange form of the model's declarations.
import Bindings.Model.Decl
import Bindings.Exchange.Model.Ty

/-!
# Declarations of the model as exchange values
-/
namespace Bindings.Model

/-! ## Writing -/

def Annotation.encode (a : Annotation) : Value := .object [
  ("name", .string a.name),
  ("params", .list Name.encode a.args)]

def Heritage.encode (h : Heritage) : Value := .object [
  ("value", h.parent.encode),
  ("type_params", .list Ty.encode h.args),
  ("delegate_to", .option Name.encode h.delegate)]

def Constructor.encode (c : Constructor) : Value := .object [
  ("parameters", .list Param.encode c.params),
  ("type_parameters", .list TypeParam.encode c.typeParams),
  ("generated", .bool c.generated)]

def Method.encode (m : Method) : Value := .object [
  ("name", .string m.name),
  ("parameters", .list Param.encode m.params),
  ("ty", m.ty.encode),
  ("type_parameters", .list TypeParam.encode m.typeParams),
  ("is_static", .bool m.isStatic),
  ("is_override", .bool m.isOverride),
  ("operator", .bool m.isOperator),
  ("annotations", .list Annotation.encode m.annotations),
  ("open", .bool m.isOpen),
  ("defined_externally", .bool m.definedExternally)]

def Property.encode (p : Property) : Value := .object [
  ("name", .string p.name),
  ("ty", p.ty.encode),
  ("type_parameters", .list TypeParam.encode p.typeParams),
  ("is_static", .bool p.isStatic),
  ("is_override", .bool p.isOverride),
  ("readonly", .bool p.readonly),
  ("open", .bool p.isOpen),
  ("defined_externally", .bool p.definedExternally)]

mutual

def Member.encode : Member → Value
  | .constructor c => .variant "Constructor" c.encode
  | .method m => .variant "Method" m.encode
  | .property p => .variant "Property" p.encode
  | .nested c => .variant "Class" c.encode

def Companion.encode : Companion → Value
  | ⟨name, members, parents⟩ => .object [
      ("name", .string name),
      ("members", .array (Member.encodeAll members)),
      ("parent_entities", .list Heritage.encode parents)]

def Class.encode : Class → Value
  | ⟨name, members, companion, primary, typeParams, parents, annotations⟩ => .object [
      ("name", name.encode),
      ("members", .array (Member.encodeAll members)),
      ("companion_object", companion.encode),
      ("primary_constructor", .option Constructor.encode primary),
      ("type_parameters", .list TypeParam.encode typeParams),
      ("parent_entities", .list Heritage.encode parents),
      ("annotations", .list Annotation.encode annotations)]

def Member.encodeAll : List Member → List Value
  | [] => []
  | m :: ms => m.encode :: Member.encodeAll ms

end

def Interface.encode (i : Interface) : Value := .object [
  ("name", i.name.encode),
  ("members", .list Member.encode i.members),
  ("companion_object", i.companion.encode),
  ("type_parameters", .list TypeParam.encode i.typeParams),
  ("parent_entities", .list Heritage.encode i.parents),
  ("annotations", .list Annotation.encode i.annotations)]

def Function.encode (f : Function) : Value := .object [
  ("name", f.name.encode),
  ("parameters", .list Param.encode f.params),
  ("ty", f.ty.encode),
  ("type_parameters", .list TypeParam.encode f.typeParams),
  ("annotations", .list Annotation.encode f.annotations),
  ("export", .bool f.isExported),
  ("inline", .bool f.isInline),
  ("operator", .bool f.isOperator)]

def Variable.encode (v : Variable) : Value := .object [
  ("name", v.name.encode),
  ("ty", v.ty.encode),
  ("type_parameters", .list TypeParam.encode v.typeParams),
  ("annotations", .list Annotation.encode v.annotations),
  ("immutable", .bool v.immutable),
  ("inline", .bool v.isInline),
  ("initializer", .option .string v.initializer)]

def EnumToken.encode (t : EnumToken) : Value := .object [
  ("value", .string t.value),
  ("meta", .option .string t.description)]

def Enum.encode (e : Enum) : Value := .object [
  ("name", e.name.encode),
  ("values", .list EnumToken.encode e.tokens)]

def Object.encode (o : Object) : Value := .object [
  ("name", o.name.encode),
  ("members", .list Member.encode o.members),
  ("parent_entities", .list Heritage.encode o.parents)]

def Alias.encode (a : Alias) : Value := .object [
  ("name", a.name.encode),
  ("type_reference", a.ty.encode),
  ("type_parameters", .list TypeParam.encode a.typeParams)]

def Decl.encode : Decl → Value
  | .classDecl c => .variant "Class" c.encode
  | .interfaceDecl i => .variant "Interface" i.encode
  | .functionDecl f => .variant "Function" f.encode
  | .variableDecl v => .variant "Variable" v.encode
  | .enumDecl e => .variant "Enum" e.encode
  | .objectDecl o => .variant "Object" o.encode
  | .aliasDecl a => .variant "TypeAlias" a.encode

/-! ## Reading -/

def Annotation.decode? (v : Value) : Option Annotation := do
  let [name, args] ← v.fields? ["name", "params"] | none
  let name ← name.string?
  let args ← args.list? Name.decode?
  return ⟨name, args⟩

def Heritage.decode? (v : Value) : Option Heritage := do
  let [parent, args, delegate] ← v.fields? ["value", "type_params", "delegate_to"] | none
  let parent ← Reference.decode? parent
  let args ← args.list? Ty.decode?
  let delegate ← delegate.option? Name.decode?
  return ⟨parent, args, delegate⟩

def Constructor.decode? (v : Value) : Option Constructor := do
  let [params, typeParams, generated] ←
    v.fields? ["parameters", "type_parameters", "generated"] | none
  let params ← params.list? Param.decode?
  let typeParams ← typeParams.list? TypeParam.decode?
  let generated ← generated.bool?
  return ⟨params, typeParams, generated⟩

def Method.decode? (v : Value) : Option Method := do
  let [name, params, ty, typeParams, isStatic, isOverride, isOperator, annotations, isOpen,
      definedExternally] ←
    v.fields? ["name", "parameters", "ty", "type_parameters", "is_static", "is_override",
      "operator", "annotations", "open", "defined_externally"] | none
  let name ← name.string?
  let params ← params.list? Param.decode?
  let ty ← Ty.decode? ty
  let typeParams ← typeParams.list? TypeParam.decode?
  let isStatic ← isStatic.bool?
  let isOverride ← isOverride.bool?
  let isOperator ← isOperator.bool?
  let annotations ← annotations.list? Annotation.decode?
  let isOpen ← isOpen.bool?
  let definedExternally ← definedExternally.bool?
  return ⟨name, params, ty, typeParams, isStatic, isOverride, isOperator, annotations, isOpen,
    definedExternally⟩

def Property.decode? (v : Value) : Option Property := do
  let [name, ty, typeParams, isStatic, isOverride, readonly, isOpen, definedExternally] ←
    v.fields? ["name", "ty", "type_parameters", "is_static", "is_override", "readonly", "open",
      "defined_externally"] | none
  let name ← name.string?
  let ty ← Ty.decode? ty
  let typeParams ← typeParams.list? TypeParam.decode?
  let isStatic ← isStatic.bool?
  let isOverride ← isOverride.bool?
  let readonly ← readonly.bool?
  let isOpen ← isOpen.bool?
  let definedExternally ← definedExternally.bool?
  return ⟨name, ty, typeParams, isStatic, isOverride, readonly, isOpen, definedExternally⟩

mutual

/-- Read a member from a value that is nested no deeper than `depth`. -/
def Member.decodeWithin : (depth : Nat) → Value → Option Member
  | 0, _ => none
  | depth + 1, v => do
    let (kind, payload) ← v.variant?
    match kind with
    | "Constructor" => .constructor <$> Constructor.decode? payload
    | "Method" => .method <$> Method.decode? payload
    | "Property" => .property <$> Property.decode? payload
    | "Class" => .nested <$> Class.decodeWithin depth payload
    | _ => none

def Companion.decodeWithin : (depth : Nat) → Value → Option Companion
  | 0, _ => none
  | depth + 1, v => do
    let [name, members, parents] ← v.fields? ["name", "members", "parent_entities"] | none
    let name ← name.string?
    let members ← members.list? (Member.decodeWithin depth)
    let parents ← parents.list? Heritage.decode?
    return ⟨name, members, parents⟩

def Class.decodeWithin : (depth : Nat) → Value → Option Class
  | 0, _ => none
  | depth + 1, v => do
    let [name, members, companion, primary, typeParams, parents, annotations] ←
      v.fields? ["name", "members", "companion_object", "primary_constructor", "type_parameters",
        "parent_entities", "annotations"] | none
    let name ← Name.decode? name
    let members ← members.list? (Member.decodeWithin depth)
    let companion ← Companion.decodeWithin depth companion
    let primary ← primary.option? Constructor.decode?
    let typeParams ← typeParams.list? TypeParam.decode?
    let parents ← parents.list? Heritage.decode?
    let annotations ← annotations.list? Annotation.decode?
    return ⟨name, members, companion, primary, typeParams, parents, annotations⟩

end

def Member.decode? (v : Value) : Option Member := Member.decodeWithin v.depth v

def Companion.decode? (v : Value) : Option Companion := Companion.decodeWithin v.depth v

def Class.decode? (v : Value) : Option Class := Class.decodeWithin v.depth v

def Interface.decode? (v : Value) : Option Interface := do
  let [name, members, companion, typeParams, parents, annotations] ←
    v.fields? ["name", "members", "companion_object", "type_parameters", "parent_entities",
      "annotations"] | none
  let name ← Name.decode? name
  let members ← members.list? Member.decode?
  let companion ← Companion.decode? companion
  let typeParams ← typeParams.list? TypeParam.decode?
  let parents ← parents.list? Heritage.decode?
  let annotations ← annotations.list? Annotation.decode?
  return ⟨name, members, companion, typeParams, parents, annotations⟩

def Function.decode? (v : Value) : Option Function := do
  let [name, params, ty, typeParams, annotations, isExported, isInline, isOperator] ←
    v.fields? ["name", "parameters", "ty", "type_parameters", "annotations", "export", "inline",
      "operator"] | none
  let name ← Name.decode? name
  let params ← params.list? Param.decode?
  let ty ← Ty.decode? ty
  let typeParams ← typeParams.list? TypeParam.decode?
  let annotations ← annotations.list? Annotation.decode?
  let isExported ← isExported.bool?
  let isInline ← isInline.bool?
  let isOperator ← isOperator.bool?
  return ⟨name, params, ty, typeParams, annotations, isExported, isInline, isOperator⟩

def Variable.decode? (v : Value) : Option Variable := do
  let [name, ty, typeParams, annotations, immutable, isInline, initializer] ←
    v.fields? ["name", "ty", "type_parameters", "annotations", "immutable", "inline",
      "initializer"] | none
  let name ← Name.decode? name
  let ty ← Ty.decode? ty
  let typeParams ← typeParams.list? TypeParam.decode?
  let annotations ← annotations.list? Annotation.decode?
  let immutable ← immutable.bool?
  let isInline ← isInline.bool?
  let initializer ← initializer.option? Value.string?
  return ⟨name, ty, typeParams, annotations, immutable, isInline, initializer⟩

def EnumToken.decode? (v : Value) : Option EnumToken := do
  let [value, description] ← v.fields? ["value", "meta"] | none
  let value ← value.string?
  let description ← description.option? Value.string?
  return ⟨value, description⟩

def Enum.decode? (v : Value) : Option Enum := do
  let [name, tokens] ← v.fields? ["name", "values"] | none
  let name ← Name.decode? name
  let tokens ← tokens.list? EnumToken.decode?
  return ⟨name, tokens⟩

def Object.decode? (v : Value) : Option Object := do
  let [name, members, parents] ← v.fields? ["name", "members", "parent_entities"] | none
  let name ← Name.decode? name
  let members ← members.list? Member.decode?
  let parents ← parents.list? Heritage.decode?
  return ⟨name, members, parents⟩

def Alias.decode? (v : Value) : Option Alias := do
  let [name, ty, typeParams] ← v.fields? ["name", "type_reference", "type_parameters"] | none
  let name ← Name.decode? name
  let ty ← Ty.decode? ty
  let typeParams ← typeParams.list? TypeParam.decode?
  return ⟨name, ty, typeParams⟩

def Decl.decode? (v : Value) : Option Decl := do
  let (kind, payload) ← v.variant?
  match kind with
  | "Class" => .classDecl <$> Class.decode? payload
  | "Interface" => .interfaceDecl <$> Interface.decode? payload
  | "Function" => .functionDecl <$> Function.decode? payload
  | "Variable" => .variableDecl <$> Variable.decode? payload
  | "Enum" => .enumDecl <$> Enum.decode? payload
  | "Object" => .objectDecl <$> Object.decode? payload
  | "TypeAlias" => .aliasDecl <$> Alias.decode? payload
  | _ => none

end Bindings.Model
