-- SUMMARY: The model of members and heritage, and the split of members into instances and statics.
import Bindings.Source.Decl
import Bindings.Build.Ty

/-!
# Models of members

Members are modelled one by one in source order and then split. An indexed
getter becomes an operator method. A class that belongs to the model already only
has its statics moved to its companion.
-/
namespace Bindings.Source

/-! ## Members -/

def Constructor.toModel (c : Constructor) : Reported Model.Constructor := do
  let params ← Param.toModels .general c.params
  let typeParams ← TypeParam.toModels c.typeParams
  return ⟨params, typeParams, c.generated⟩

def Method.toModel (m : Method) : Reported Model.Method := do
  let params ← Param.toModels .general m.params
  let ty ← m.ty.toModel .general
  let typeParams ← TypeParam.toModels m.typeParams
  return {
    name := m.name
    params := params
    ty := ty
    typeParams := typeParams
    isStatic := m.isStatic
    isOverride := m.isOverride
    isOperator := m.isOperator
    annotations := m.annotations
    isOpen := m.isOpen
    definedExternally := m.definedExternally }

def Property.toModel (p : Property) : Reported Model.Property := do
  let ty ← p.ty.toModel .general
  let typeParams ← TypeParam.toModels p.typeParams
  return {
    name := p.name
    ty := ty
    typeParams := typeParams
    isStatic := p.isStatic
    isOverride := p.isOverride
    readonly := p.readonly
    isOpen := p.isOpen
    definedExternally := p.definedExternally }

/-- `getter V name(K key)` becomes `operator fun name(key: K): V`. -/
def Getter.toModel (g : Getter) : Reported Model.Method := do
  let key ← g.key.toModel .general
  let value ← g.value.toModel .general
  return {
    name := g.name
    params := [key]
    ty := value
    typeParams := []
    isStatic := false
    isOverride := false
    isOperator := true
    annotations := []
    isOpen := false
    definedExternally := true }

def Member.toModel : Member → Reported Model.Member
  | .constructor c => .constructor <$> c.toModel
  | .method m => .method <$> m.toModel
  | .property p => .property <$> p.toModel
  | .getter g => .method <$> g.toModel
  | .built c => return .nested c.resplit

/-- The models of all members, the statics apart. -/
def Member.toSplit (members : List Member) : Reported Model.Split :=
  Model.Split.ofMembers <$> Reported.each Member.toModel members

theorem Member.value_toSplit (ms : List Member) :
    (Member.toSplit ms).value = .ofMembers (ms.map fun m => m.toModel.value) := by
  simp [Member.toSplit]

/-! ## Heritage -/

/-- The written form of a parent. An expression is kept and leaves a concern. -/
def HeritageSymbol.written : HeritageSymbol → Recovered String
  | .name n => .clean n.text
  | .expression code =>
    .degraded code ⟨.unresolvedName, "unknown heritage symbol " ++ code⟩

/-- A parent becomes a reference to the identifier it is written as. Delegation
is decided later. -/
def Heritage.toModel (h : Heritage) : Reported Model.Heritage := do
  let parent ← (h.symbol.written.map fun s => Model.Reference.simple (.ident s)).resolve
  let args ← Ty.toModels h.args
  return ⟨parent, args, none⟩

def Heritage.toModels : List Heritage → Reported (List Model.Heritage) :=
  Reported.each Heritage.toModel

end Bindings.Source
