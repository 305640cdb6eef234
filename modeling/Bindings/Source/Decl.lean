-- SUMMARY: Declarations of a source: members, heritage, class-like and other declarations, nested modules.
import Bindings.Source.Ty
import Bindings.Model.Decl

/-!
# Declarations of a source

One vocabulary for both kinds of source, ambient declaration files and interface
definition files. A module holds declarations of every kind, nested modules
among them, in source order.
-/
namespace Bindings.Source

/-! ## Members -/

structure Constructor where
  params : List Param
  typeParams : List TypeParam
  generated : Bool

structure Method where
  name : String
  params : List Param
  ty : Ty
  typeParams : List TypeParam
  isStatic : Bool
  isOverride : Bool
  isOperator : Bool
  annotations : List Model.Annotation
  isOpen : Bool
  definedExternally : Bool

structure Property where
  name : String
  ty : Ty
  typeParams : List TypeParam
  isStatic : Bool
  isOverride : Bool
  readonly : Bool
  isOpen : Bool
  definedExternally : Bool

/-- `getter V name(K key)`. -/
structure Getter where
  name : String
  key : Param
  value : Ty

/-- A member of a class, interface or object. -/
inductive Member where
  | constructor (constructor : Constructor)
  | method (method : Method)
  | property (property : Property)
  | getter (getter : Getter)
  /-- A class that belongs to the model already. -/
  | built (classDecl : Model.Class)

/-- A method with nothing but name, parameters and result, defined outside. -/
def Method.plain (name : String) (params : List Param) (ty : Ty) : Method where
  name := name
  params := params
  ty := ty
  typeParams := []
  isStatic := false
  isOverride := false
  isOperator := false
  annotations := []
  isOpen := false
  definedExternally := true

/-- A writable property with nothing but name and type, defined outside. -/
def Property.plain (name : String) (ty : Ty) : Property where
  name := name
  ty := ty
  typeParams := []
  isStatic := false
  isOverride := false
  readonly := false
  isOpen := false
  definedExternally := true

/-! ## Heritage -/

/-- What a heritage clause points at. -/
inductive HeritageSymbol where
  | name (name : Name)
  /-- Any other expression, as it was written. -/
  | expression (code : String)
  deriving DecidableEq, Repr

structure Heritage where
  symbol : HeritageSymbol
  args : List Ty

/-- A parent given by its name. -/
def Heritage.ofName (name : Name) (args : List Ty) : Heritage := ⟨.name name, args⟩

/-- Whether the parent is given by a name that is written `s`. -/
def Heritage.refersTo (h : Heritage) (s : String) : Bool :=
  match h.symbol with
  | .name n => n.text == s
  | .expression _ => false

/-! ## Declarations -/

structure Class where
  name : Name
  members : List Member
  primaryConstructor : Option Constructor
  typeParams : List TypeParam
  parents : List Heritage
  annotations : List Model.Annotation

structure Interface where
  name : Name
  members : List Member
  typeParams : List TypeParam
  parents : List Heritage
  annotations : List Model.Annotation
  /-- Made up by a pass, not read from a source. -/
  generated : Bool

namespace Interface

/-- An interface with nothing but a name and members. -/
def plain (name : Name) (members : List Member) : Interface :=
  ⟨name, members, [], [], [], false⟩

def properties (i : Interface) : List Property :=
  i.members.filterMap fun
    | .property p => some p
    | _ => none

def getters (i : Interface) : List Getter :=
  i.members.filterMap fun
    | .getter g => some g
    | _ => none

end Interface

structure Function where
  name : Name
  params : List Param
  ty : Ty
  typeParams : List TypeParam
  annotations : List Model.Annotation
  isExported : Bool
  isInline : Bool
  isOperator : Bool

structure Variable where
  name : Name
  ty : Ty
  typeParams : List TypeParam
  annotations : List Model.Annotation
  immutable : Bool
  isInline : Bool
  /-- The initializer as it was written. -/
  initializer : Option String

structure Object where
  name : Name
  members : List Member
  parents : List Heritage

structure Alias where
  name : Name
  ty : Ty
  typeParams : List Name
  /-- Cleared by a pass when the alias has no counterpart on the target. -/
  hasCounterpart : Bool

/-- `import name = module.reference`. -/
structure ImportEquals where
  name : String
  reference : Name
  deriving DecidableEq, Repr

/-- `export = expression`, or a default export. -/
structure ExportAssignment where
  expression : String
  isExportEquals : Bool
  deriving DecidableEq, Repr

/-- How a module is bound at run time. -/
inductive Binding where
  /-- A namespace reached through a qualifier. -/
  | inner
  /-- An external module, loaded by name. -/
  | external
  /-- An addition to the global scope. -/
  | global
  deriving DecidableEq, Repr

mutual

/-- A declaration of a module. -/
inductive Decl where
  | classDecl (c : Class)
  | interfaceDecl (i : Interface)
  | functionDecl (f : Function)
  | variableDecl (v : Variable)
  | enumDecl (e : Model.Enum)
  | objectDecl (o : Object)
  | aliasDecl (a : Alias)
  | moduleDecl (m : Module)
  | importEquals (i : ImportEquals)
  | exportAssignment (e : ExportAssignment)

structure Module where
  package : Name
  declarations : List Decl
  qualifier : Option Name
  binding : Binding

end

/-- What the declaration is called in messages. -/
def Decl.kind : Decl → String
  | .classDecl _ => "Class"
  | .interfaceDecl _ => "Interface"
  | .functionDecl _ => "Function"
  | .variableDecl _ => "Variable"
  | .enumDecl _ => "Enum"
  | .objectDecl _ => "Object"
  | .aliasDecl _ => "TypeAlias"
  | .moduleDecl _ => "Module"
  | .importEquals _ => "ImportEquals"
  | .exportAssignment _ => "ExportAssignment"

namespace Module

/-- A namespace without qualifier. -/
def plain (package : Name) (declarations : List Decl) : Module :=
  ⟨package, declarations, none, .inner⟩

/-- The interfaces that stand directly in the module. -/
def interfaces (m : Module) : List Interface :=
  m.declarations.filterMap fun
    | .interfaceDecl i => some i
    | _ => none

end Module

end Bindings.Source
