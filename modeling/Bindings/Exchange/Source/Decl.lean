-- SUMMARY: The exchange form of source declarations, modules, files and source sets.
import Bindings.Source.SourceSet
import Bindings.Exchange.Model.Decl
import Bindings.Exchange.Source.Ty

/-!
# Source declarations as exchange values
-/
namespace Bindings.Source

/-! ## Writing -/

def Constructor.encode (c : Constructor) : Value := .object [
  ("parameters", .list Param.encode c.params),
  ("type_parameters", .list TypeParam.encode c.typeParams),
  ("generated", .bool c.generated)]

def Method.encode (m : Method) : Value := .object [
  ("name", .string m.name),
  ("parameters", .list Param.encode m.params),
  ("ty", m.ty.encode),
  ("type_parameters", .list TypeParam.encode m.typeParams),
  ("is_static", .bool m.isStatic),
  ("is_override", .bool m.isOverride),
  ("operator", .bool m.isOperator),
  ("annotations", .list Model.Annotation.encode m.annotations),
  ("open", .bool m.isOpen),
  ("defined_externally", .bool m.definedExternally)]

def Property.encode (p : Property) : Value := .object [
  ("name", .string p.name),
  ("ty", p.ty.encode),
  ("type_parameters", .list TypeParam.encode p.typeParams),
  ("is_static", .bool p.isStatic),
  ("is_override", .bool p.isOverride),
  ("readonly", .bool p.readonly),
  ("open", .bool p.isOpen),
  ("defined_externally", .bool p.definedExternally)]

def Getter.encode (g : Getter) : Value := .object [
  ("name", .string g.name),
  ("key", g.key.encode),
  ("value_type", g.value.encode)]

def Member.encode : Member → Value
  | .constructor c => .variant "Constructor" c.encode
  | .method m => .variant "Method" m.encode
  | .property p => .variant "Property" p.encode
  | .getter g => .variant "IndexedGetter" g.encode
  | .built c => .variant "Lowered" c.encode

def HeritageSymbol.encode : HeritageSymbol → Value
  | .name n => .variant "Name" n.encode
  | .expression code => .variant "Expression" (.string code)

def Heritage.encode (h : Heritage) : Value := .object [
  ("name", h.symbol.encode),
  ("type_arguments", .list Ty.encode h.args)]

def Class.encode (c : Class) : Value := .object [
  ("name", c.name.encode),
  ("members", .list Member.encode c.members),
  ("primary_constructor", .option Constructor.encode c.primaryConstructor),
  ("type_parameters", .list TypeParam.encode c.typeParams),
  ("parent_entities", .list Heritage.encode c.parents),
  ("annotations", .list Model.Annotation.encode c.annotations)]

def Interface.encode (i : Interface) : Value := .object [
  ("name", i.name.encode),
  ("members", .list Member.encode i.members),
  ("type_parameters", .list TypeParam.encode i.typeParams),
  ("parent_entities", .list Heritage.encode i.parents),
  ("annotations", .list Model.Annotation.encode i.annotations),
  ("generated", .bool i.generated)]

def Function.encode (f : Function) : Value := .object [
  ("name", f.name.encode),
  ("parameters", .list Param.encode f.params),
  ("ty", f.ty.encode),
  ("type_parameters", .list TypeParam.encode f.typeParams),
  ("annotations", .list Model.Annotation.encode f.annotations),
  ("export", .bool f.isExported),
  ("inline", .bool f.isInline),
  ("operator", .bool f.isOperator)]

def Variable.encode (v : Variable) : Value := .object [
  ("name", v.name.encode),
  ("ty", v.ty.encode),
  ("type_parameters", .list TypeParam.encode v.typeParams),
  ("annotations", .list Model.Annotation.encode v.annotations),
  ("immutable", .bool v.immutable),
  ("inline", .bool v.isInline),
  ("initializer", .option .string v.initializer)]

def Object.encode (o : Object) : Value := .object [
  ("name", o.name.encode),
  ("members", .list Member.encode o.members),
  ("parent_entities", .list Heritage.encode o.parents)]

def Alias.encode (a : Alias) : Value := .object [
  ("name", a.name.encode),
  ("type_reference", a.ty.encode),
  ("type_parameters", .list Name.encode a.typeParams),
  ("can_be_translated", .bool a.hasCounterpart)]

def ImportEquals.encode (i : ImportEquals) : Value := .object [
  ("name", .string i.name),
  ("module_reference", i.reference.encode)]

def ExportAssignment.encode (e : ExportAssignment) : Value := .object [
  ("expression", .string e.expression),
  ("is_export_equals", .bool e.isExportEquals)]

def Binding.encode : Binding → Value
  | .inner => .string "Qualifier"
  | .external => .string "Module"
  | .global => .string "Global"

mutual

def Decl.encode : Decl → Value
  | .classDecl c => .variant "Class" c.encode
  | .interfaceDecl i => .variant "Interface" i.encode
  | .functionDecl f => .variant "Function" f.encode
  | .variableDecl v => .variant "Variable" v.encode
  | .enumDecl e => .variant "Enum" e.encode
  | .objectDecl o => .variant "Object" o.encode
  | .aliasDecl a => .variant "TypeAlias" a.encode
  | .moduleDecl m => .variant "Module" m.encode
  | .importEquals i => .variant "ImportEquals" i.encode
  | .exportAssignment e => .variant "ExportAssignment" e.encode

def Module.encode : Module → Value
  | ⟨package, declarations, qualifier, binding⟩ => .object [
      ("package_name", package.encode),
      ("declarations", .array (Decl.encodeAll declarations)),
      ("qualifier", .option Name.encode qualifier),
      ("qualifier_kind", binding.encode)]

def Decl.encodeAll : List Decl → List Value
  | [] => []
  | d :: ds => d.encode :: Decl.encodeAll ds

end

def File.encode (f : File) : Value := .object [
  ("file_name", .string f.path),
  ("root", f.root.encode),
  ("referenced_files", .list .string f.references)]

def SourceSet.encode (s : SourceSet) : Value := .object [("files", .list File.encode s.files)]

/-! ## Reading members -/

def Constructor.decode? (v : Value) : Option Constructor := do
  let [params, typeParams, generated] ←
    v.fields? ["parameters", "type_parameters", "generated"] | none
  let params ← params.list? Param.decode?
  let typeParams ← typeParams.list? TypeParam.decode?
  let generated ← generated.bool?
  return ⟨params, typeParams, generated⟩

def Method.decode? (v : Value) : Option Method := do
  let [name, params, ty, typeParams, isStatic, isOverride, isOperator, annotations, isOpen,
      definedExternally] ←
    v.fields? ["name", "parameters", "ty", "type_parameters", "is_static", "is_override",
      "operator", "annotations", "open", "defined_externally"] | none
  let name ← name.string?
  let params ← params.list? Param.decode?
  let ty ← Ty.decode? ty
  let typeParams ← typeParams.list? TypeParam.decode?
  let isStatic ← isStatic.bool?
  let isOverride ← isOverride.bool?
  let isOperator ← isOperator.bool?
  let annotations ← annotations.list? Model.Annotation.decode?
  let isOpen ← isOpen.bool?
  let definedExternally ← definedExternally.bool?
  return ⟨name, params, ty, typeParams, isStatic, isOverride, isOperator, annotations, isOpen,
    definedExternally⟩

def Property.decode? (v : Value) : Option Property := do
  let [name, ty, typeParams, isStatic, isOverride, readonly, isOpen, definedExternally] ←
    v.fields? ["name", "ty", "type_parameters", "is_static", "is_override", "readonly", "open",
      "defined_externally"] | none
  let name ← name.string?
  let ty ← Ty.decode? ty
  let typeParams ← typeParams.list? TypeParam.decode?
  let isStatic ← isStatic.bool?
  let isOverride ← isOverride.bool?
  let readonly ← readonly.bool?
  let isOpen ← isOpen.bool?
  let definedExternally ← definedExternally.bool?
  return ⟨name, ty, typeParams, isStatic, isOverride, readonly, isOpen, definedExternally⟩

def Getter.decode? (v : Value) : Option Getter := do
  let [name, key, value] ← v.fields? ["name", "key", "value_type"] | none
  let name ← name.string?
  let key ← Param.decode? key
  let value ← Ty.decode? value
  return ⟨name, key, value⟩

def Member.decode? (v : Value) : Option Member := do
  let (kind, payload) ← v.variant?
  match kind with
  | "Constructor" => .constructor <$> Constructor.decode? payload
  | "Method" => .method <$> Method.decode? payload
  | "Property" => .property <$> Property.decode? payload
  | "IndexedGetter" => .getter <$> Getter.decode? payload
  | "Lowered" => .built <$> Model.Class.decode? payload
  | _ => none

def HeritageSymbol.decode? (v : Value) : Option HeritageSymbol := do
  let (kind, payload) ← v.variant?
  match kind with
  | "Name" => .name <$> Name.decode? payload
  | "Expression" => .expression <$> payload.string?
  | _ => none

def Heritage.decode? (v : Value) : Option Heritage := do
  let [symbol, args] ← v.fields? ["name", "type_arguments"] | none
  let symbol ← HeritageSymbol.decode? symbol
  let args ← args.list? Ty.decode?
  return ⟨symbol, args⟩

/-! ## Reading declarations -/

def Class.decode? (v : Value) : Option Class := do
  let [name, members, primary, typeParams, parents, annotations] ←
    v.fields? ["name", "members", "primary_constructor", "type_parameters", "parent_entities",
      "annotations"] | none
  let name ← Name.decode? name
  let members ← members.list? Member.decode?
  let primary ← primary.option? Constructor.decode?
  let typeParams ← typeParams.list? TypeParam.decode?
  let parents ← parents.list? Heritage.decode?
  let annotations ← annotations.list? Model.Annotation.decode?
  return ⟨name, members, primary, typeParams, parents, annotations⟩

def Interface.decode? (v : Value) : Option Interface := do
  let [name, members, typeParams, parents, annotations, generated] ←
    v.fields? ["name", "members", "type_parameters", "parent_entities", "annotations",
      "generated"] | none
  let name ← Name.decode? name
  let members ← members.list? Member.decode?
  let typeParams ← typeParams.list? TypeParam.decode?
  let parents ← parents.list? Heritage.decode?
  let annotations ← annotations.list? Model.Annotation.decode?
  let generated ← generated.bool?
  return ⟨name, members, typeParams, parents, annotations, generated⟩

def Function.decode? (v : Value) : Option Function := do
  let [name, params, ty, typeParams, annotations, isExported, isInline, isOperator] ←
    v.fields? ["name", "parameters", "ty", "type_parameters", "annotations", "export", "inline",
      "operator"] | none
  let name ← Name.decode? name
  let params ← params.list? Param.decode?
  let ty ← Ty.decode? ty
  let typeParams ← typeParams.list? TypeParam.decode?
  let annotations ← annotations.list? Model.Annotation.decode?
  let isExported ← isExported.bool?
  let isInline ← isInline.bool?
  let isOperator ← isOperator.bool?
  return ⟨name, params, ty, typeParams, annotations, isExported, isInline, isOperator⟩

def Variable.decode? (v : Value) : Option Variable := do
  let [name, ty, typeParams, annotations, immutable, isInline, initializer] ←
    v.fields? ["name", "ty", "type_parameters", "annotations", "immutable", "inline",
      "initializer"] | none
  let name ← Name.decode? name
  let ty ← Ty.decode? ty
  let typeParams ← typeParams.list? TypeParam.decode?
  let annotations ← annotations.list? Model.Annotation.decode?
  let immutable ← immutable.bool?
  let isInline ← isInline.bool?
  let initializer ← initializer.option? Value.string?
  return ⟨name, ty, typeParams, annotations, immutable, isInline, initializer⟩

def Object.decode? (v : Value) : Option Object := do
  let [name, members, parents] ← v.fields? ["name", "members", "parent_entities"] | none
  let name ← Name.decode? name
  let members ← members.list? Member.decode?
  let parents ← parents.list? Heritage.decode?
  return ⟨name, members, parents⟩

def Alias.decode? (v : Value) : Option Alias := do
  let [name, ty, typeParams, hasCounterpart] ←
    v.fields? ["name", "type_reference", "type_parameters", "can_be_translated"] | none
  let name ← Name.decode? name
  let ty ← Ty.decode? ty
  let typeParams ← typeParams.list? Name.decode?
  let hasCounterpart ← hasCounterpart.bool?
  return ⟨name, ty, typeParams, hasCounterpart⟩

def ImportEquals.decode? (v : Value) : Option ImportEquals := do
  let [name, reference] ← v.fields? ["name", "module_reference"] | none
  let name ← name.string?
  let reference ← Name.decode? reference
  return ⟨name, reference⟩

def ExportAssignment.decode? (v : Value) : Option ExportAssignment := do
  let [expression, isExportEquals] ← v.fields? ["expression", "is_export_equals"] | none
  let expression ← expression.string?
  let isExportEquals ← isExportEquals.bool?
  return ⟨expression, isExportEquals⟩

def Binding.decode? (v : Value) : Option Binding := do
  let (kind, payload) ← v.variant?
  payload.empty?
  match kind with
  | "Qualifier" => some .inner
  | "Module" => some .external
  | "Global" => some .global
  | _ => none

/-! ## Reading modules -/

mutual

/-- Read a declaration from a value that is nested no deeper than `depth`. -/
def Decl.decodeWithin : (depth : Nat) → Value → Option Decl
  | 0, _ => none
  | depth + 1, v => do
    let (kind, payload) ← v.variant?
    match kind with
    | "Class" => .classDecl <$> Class.decode? payload
    | "Interface" => .interfaceDecl <$> Interface.decode? payload
    | "Function" => .functionDecl <$> Function.decode? payload
    | "Variable" => .variableDecl <$> Variable.decode? payload
    | "Enum" => .enumDecl <$> Model.Enum.decode? payload
    | "Object" => .objectDecl <$> Object.decode? payload
    | "TypeAlias" => .aliasDecl <$> Alias.decode? payload
    | "Module" => .moduleDecl <$> Module.decodeWithin depth payload
    | "ImportEquals" => .importEquals <$> ImportEquals.decode? payload
    | "ExportAssignment" => .exportAssignment <$> ExportAssignment.decode? payload
    | _ => none

def Module.decodeWithin : (depth : Nat) → Value → Option Module
  | 0, _ => none
  | depth + 1, v => do
    let [package, declarations, qualifier, binding] ←
      v.fields? ["package_name", "declarations", "qualifier", "qualifier_kind"] | none
    let package ← Name.decode? package
    let declarations ← declarations.list? (Decl.decodeWithin depth)
    let qualifier ← qualifier.option? Name.decode?
    let binding ← Binding.decode? binding
    return ⟨package, declarations, qualifier, binding⟩

end

def Decl.decode? (v : Value) : Option Decl := Decl.decodeWithin v.depth v

def Module.decode? (v : Value) : Option Module := Module.decodeWithin v.depth v

def File.decode? (v : Value) : Option File := do
  let [path, root, references] ← v.fields? ["file_name", "root", "referenced_files"] | none
  let path ← path.string?
  let root ← Module.decode? root
  let references ← references.list? Value.string?
  return ⟨path, root, references⟩

def SourceSet.decode? (v : Value) : Option SourceSet := do
  let [files] ← v.fields? ["files"] | none
  let files ← files.list? File.decode?
  return ⟨files⟩

end Bindings.Source
