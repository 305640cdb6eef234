-- SUMMARY: Declarations of the model: members, companions, classes, interfaces and the other top-level kinds.
import Bindings.Model.Ty

/-!
# Declarations of the model

Classes and interfaces hold their instance members inline. The target expresses
statics by a companion object, so static methods and properties stand among the
members of the companion.
-/
namespace Bindings.Model

/-- An annotation with names as arguments. -/
structure Annotation where
  name : String
  args : List Name
  deriving DecidableEq, Repr

/-- The parent of a class, interface or object. -/
structure Heritage where
  parent : Reference
  args : List Ty
  /-- What the parent's members are delegated to; decided after the model is built. -/
  delegate : Option Name

/-! ## Members -/

structure Constructor where
  params : List Param
  typeParams : List TypeParam
  generated : Bool

structure Method where
  name : String
  params : List Param
  ty : Ty
  typeParams : List TypeParam
  isStatic : Bool
  isOverride : Bool
  isOperator : Bool
  annotations : List Annotation
  isOpen : Bool
  definedExternally : Bool

structure Property where
  name : String
  ty : Ty
  typeParams : List TypeParam
  isStatic : Bool
  isOverride : Bool
  readonly : Bool
  isOpen : Bool
  definedExternally : Bool

mutual

/-- A member of a class, interface, object or companion. -/
inductive Member where
  | constructor (constructor : Constructor)
  | method (method : Method)
  | property (property : Property)
  /-- A class inside a class; it is there only when a class of the model
  became a member again. -/
  | nested (classDecl : Class)

/-- The object that holds the statics of a class or interface. -/
structure Companion where
  name : String
  members : List Member
  parents : List Heritage

structure Class where
  name : Name
  members : List Member
  companion : Companion
  primaryConstructor : Option Constructor
  typeParams : List TypeParam
  parents : List Heritage
  annotations : List Annotation

end

/-- Constructors and nested classes are never static. -/
def Member.isStatic : Member → Bool
  | .constructor _ => false
  | .method m => m.isStatic
  | .property p => p.isStatic
  | .nested _ => false

/-- The name by which the member is used; constructors have none. -/
def Member.name? : Member → Option String
  | .constructor _ => none
  | .method m => some m.name
  | .property p => some p.name
  | .nested c => some c.name.rightMost

/-- The anonymous companion with the given members. -/
def Companion.ofMembers (members : List Member) : Companion := ⟨"", members, []⟩

/-! ## Splitting -/

/-- Members of a class or interface, the statics apart. -/
structure Split where
  instances : List Member
  statics : List Member

/-- Both parts keep the order of the list. -/
def Split.ofMembers (members : List Member) : Split :=
  ⟨members.filter fun m => !m.isStatic, members.filter Member.isStatic⟩

mutual

/-- The class with its own statics, and those of the classes nested in it,
moved to the end of their companions. -/
def Class.resplit : Class → Class
  | ⟨name, members, companion, primary, typeParams, parents, annotations⟩ =>
    let split := Split.ofMembers (Member.resplitAll members)
    ⟨name, split.instances, { companion with members := companion.members ++ split.statics },
      primary, typeParams, parents, annotations⟩

def Member.resplit : Member → Member
  | .nested c => .nested c.resplit
  | .constructor c => .constructor c
  | .method m => .method m
  | .property p => .property p

def Member.resplitAll : List Member → List Member
  | [] => []
  | m :: ms => m.resplit :: Member.resplitAll ms

end

theorem Member.resplitAll_eq_map (ms : List Member) :
    Member.resplitAll ms = ms.map Member.resplit := by
  induction ms with
  | nil => rfl
  | cons m ms ih => rw [Member.resplitAll, ih, List.map_cons]

/-! ## Top-level declarations -/

structure Interface where
  name : Name
  members : List Member
  companion : Companion
  typeParams : List TypeParam
  parents : List Heritage
  annotations : List Annotation

structure Function where
  name : Name
  params : List Param
  ty : Ty
  typeParams : List TypeParam
  annotations : List Annotation
  isExported : Bool
  isInline : Bool
  isOperator : Bool

structure Variable where
  name : Name
  ty : Ty
  typeParams : List TypeParam
  annotations : List Annotation
  immutable : Bool
  isInline : Bool
  /-- The initializer as it was written. -/
  initializer : Option String

structure EnumToken where
  value : String
  description : Option String
  deriving DecidableEq, Repr

/-- An enumeration; it is the same in a source and in the model. -/
structure Enum where
  name : Name
  tokens : List EnumToken
  deriving DecidableEq, Repr

structure Object where
  name : Name
  members : List Member
  parents : List Heritage

structure Alias where
  name : Name
  ty : Ty
  typeParams : List TypeParam

/-- A declaration that stands directly in a module. -/
inductive Decl where
  | classDecl (c : Class)
  | interfaceDecl (i : Interface)
  | functionDecl (f : Function)
  | variableDecl (v : Variable)
  | enumDecl (e : Enum)
  | objectDecl (o : Object)
  | aliasDecl (a : Alias)

def Decl.name : Decl → Name
  | classDecl c => c.name
  | interfaceDecl i => i.name
  | functionDecl f => f.name
  | variableDecl v => v.name
  | enumDecl e => e.name
  | objectDecl o => o.name
  | aliasDecl a => a.name

def Decl.kind : Decl → String
  | classDecl _ => "class"
  | interfaceDecl _ => "interface"
  | functionDecl _ => "function"
  | variableDecl _ => "variable"
  | enumDecl _ => "enum"
  | objectDecl _ => "object"
  | aliasDecl _ => "typealias"

def Decl.interface? : Decl → Option Interface
  | interfaceDecl i => some i
  | _ => none

def Decl.class? : Decl → Option Class
  | classDecl c => some c
  | _ => none

end Bindings.Model
