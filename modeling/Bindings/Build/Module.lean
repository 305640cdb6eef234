-- SUMMARY: The model of declarations and of module trees.
import Bindings.Build.Member
import Bindings.Model.Module

/-!
# Models of modules

A module becomes a module of the model with its declarations and its nested
modules apart, each in source order. Declarations without a counterpart are
skipped with a concern; aliases without one are skipped silently.
-/
namespace Bindings.Source

/-! ## Class-like declarations -/

def Class.toModel (c : Class) : Reported Model.Class := do
  let split ← Member.toSplit c.members
  let primary ← Reported.optional Constructor.toModel c.primaryConstructor
  let typeParams ← TypeParam.toModels c.typeParams
  let parents ← Heritage.toModels c.parents
  return ⟨c.name, split.instances, .ofMembers split.statics, primary, typeParams, parents,
    c.annotations⟩

def Interface.toModel (i : Interface) : Reported Model.Interface := do
  let split ← Member.toSplit i.members
  let typeParams ← TypeParam.toModels i.typeParams
  let parents ← Heritage.toModels i.parents
  return ⟨i.name, split.instances, .ofMembers split.statics, typeParams, parents, i.annotations⟩

/-- Objects have no companion: members stay where they are. -/
def Object.toModel (o : Object) : Reported Model.Object := do
  let members ← Reported.each Member.toModel o.members
  let parents ← Heritage.toModels o.parents
  return ⟨o.name, members, parents⟩

/-! ## Other declarations -/

def Function.toModel (f : Function) : Reported Model.Function := do
  let params ← Param.toModels .general f.params
  let ty ← f.ty.toModel .general
  let typeParams ← TypeParam.toModels f.typeParams
  return ⟨f.name, params, ty, typeParams, f.annotations, f.isExported, f.isInline, f.isOperator⟩

def Variable.toModel (v : Variable) : Reported Model.Variable := do
  let ty ← v.ty.toModel .general
  let typeParams ← TypeParam.toModels v.typeParams
  return ⟨v.name, ty, typeParams, v.annotations, v.immutable, v.isInline, v.initializer⟩

def Alias.toModel (a : Alias) : Reported Model.Alias := do
  let ty ← a.ty.toModel .general
  return ⟨a.name, ty, a.typeParams.map fun n => ⟨n, []⟩⟩

/-! ## Modules -/

/-- File annotation of a namespace reached through a qualifier. -/
def fileQualifier : String := "file:JsQualifier"

/-- File annotation of an external module. -/
def fileModule : String := "file:JsModule"

/-- The annotations that bind a module to its qualifier. -/
def Binding.annotations (binding : Binding) : Option Name → List Model.Annotation
  | none => []
  | some qualifier =>
    match binding with
    | .inner => [⟨fileQualifier, [qualifier]⟩]
    | .external => [⟨fileModule, [qualifier]⟩]
    | .global => []

/-- The outcome for a declaration that has no counterpart. -/
def Decl.skipped (d : Decl) : Recovered Model.Contents :=
  .degraded .empty ⟨.unknownDeclaration, "skipping " ++ d.kind⟩

mutual

/-- The model of a module and of the modules nested in it. -/
def Module.toModel : Module → Reported Model.Module
  | ⟨package, declarations, qualifier, binding⟩ => do
    let contents ← Decl.allContents declarations
    return {
      qualifier := qualifier
      name := package
      shortName := .ident package.rightMost
      declarations := contents.declarations
      annotations := binding.annotations qualifier
      submodules := contents.submodules
      imports := [] }

/-- What a declaration contributes to the module it stands in. -/
def Decl.toContents : Decl → Reported Model.Contents
  | .classDecl c => (fun c => .ofDecl (.classDecl c)) <$> c.toModel
  | .interfaceDecl i => (fun i => .ofDecl (.interfaceDecl i)) <$> i.toModel
  | .functionDecl f => (fun f => .ofDecl (.functionDecl f)) <$> f.toModel
  | .variableDecl v => (fun v => .ofDecl (.variableDecl v)) <$> v.toModel
  | .enumDecl e => return .ofDecl (.enumDecl e)
  | .objectDecl o => (fun o => .ofDecl (.objectDecl o)) <$> o.toModel
  | .aliasDecl a =>
    if a.hasCounterpart then (fun a => .ofDecl (.aliasDecl a)) <$> a.toModel else return .empty
  | .moduleDecl m => .ofModule <$> m.toModel
  | .importEquals i => (Decl.importEquals i).skipped.resolve
  | .exportAssignment e => (Decl.exportAssignment e).skipped.resolve

def Decl.allContents : List Decl → Reported Model.Contents
  | [] => return .empty
  | d :: ds => do
    let contents ← d.toContents
    let rest ← Decl.allContents ds
    return contents ++ rest

end

theorem Module.value_toModel (m : Module) :
    m.toModel.value = {
      qualifier := m.qualifier
      name := m.package
      shortName := .ident m.package.rightMost
      declarations := (Decl.allContents m.declarations).value.declarations
      annotations := m.binding.annotations m.qualifier
      submodules := (Decl.allContents m.declarations).value.submodules
      imports := [] } := by
  obtain ⟨package, declarations, qualifier, binding⟩ := m
  rfl

theorem Decl.value_allContents_append (ds es : List Decl) :
    (Decl.allContents (ds ++ es)).value =
      (Decl.allContents ds).value ++ (Decl.allContents es).value := by
  induction ds with
  | nil => rfl
  | cons d ds ih =>
    rw [List.cons_append, Decl.allContents, Decl.allContents]
    simp only [Reported.value_bind, Reported.value_pure, ih, Model.Contents.append_assoc]

end Bindings.Source
