-- SUMMARY: The concerns of members, declarations, modules and source sets, and the log that assembling leaves.
import Bindings.Assembly
import Bindings.Proofs.Concerns.Ty

/-!
# Concerns of source sets

The concerns of a source set are read off its tree, file by file and in the order
in which a declaration is modelled: members, primary constructor, type variables,
parents. A nested module reports where it stands. Assembling puts exactly this
list behind what the log held before.
-/
namespace Bindings

/-! ## Logs handed along -/

namespace Reported

theorem into_eq (x : Reported α) (log : Log) :
    x.into log = (x.value, ⟨log.concerns ++ x.concerns⟩) := by
  rw [into, ← Log.concerns_foldl_report]

/-- Collecting concerns first and handing a log from step to step are the same. -/
theorem into_bind (x : Reported α) (f : α → Reported β) (log : Log) :
    (x >>= f).into log = (f (x.into log).1).into (x.into log).2 := by
  simp [into_eq]

@[simp] theorem concerns_optional (f : α → Reported β) (a : Option α) :
    (optional f a).concerns = a.toList.flatMap fun a => (f a).concerns := by
  cases a with
  | none => rfl
  | some a => simp [optional]

end Reported

namespace Source

/-! ## Members and parents -/

def Constructor.concerns (c : Constructor) : List Concern :=
  c.params.flatMap Param.concerns ++ c.typeParams.flatMap TypeParam.concerns

def Method.concerns (m : Method) : List Concern :=
  m.params.flatMap Param.concerns ++ m.ty.concerns ++ m.typeParams.flatMap TypeParam.concerns

def Property.concerns (p : Property) : List Concern :=
  p.ty.concerns ++ p.typeParams.flatMap TypeParam.concerns

def Getter.concerns (g : Getter) : List Concern := g.key.concerns ++ g.value.concerns

/-- A class that belongs to the model already is not visited. -/
def Member.concerns : Member → List Concern
  | .constructor c => c.concerns
  | .method m => m.concerns
  | .property p => p.concerns
  | .getter g => g.concerns
  | .built _ => []

/-- Only a parent that is not given by its name is a concern. -/
def HeritageSymbol.concerns : HeritageSymbol → List Concern
  | .name _ => []
  | .expression code => [⟨.unresolvedName, "unknown heritage symbol " ++ code⟩]

/-- The parent itself, then its arguments. -/
def Heritage.concerns (h : Heritage) : List Concern :=
  h.symbol.concerns ++ h.args.flatMap Ty.concerns

@[simp] theorem TypeParam.concerns_toModel (p : TypeParam) :
    p.toModel.concerns = p.concerns := by
  simp [TypeParam.toModel, TypeParam.concerns, Ty.toModels_eq_each]

@[simp] theorem TypeParam.concerns_toModels (ps : List TypeParam) :
    (TypeParam.toModels ps).concerns = ps.flatMap TypeParam.concerns := by
  simp [TypeParam.toModels]

@[simp] theorem Constructor.concerns_toModel (c : Constructor) :
    c.toModel.concerns = c.concerns := by
  simp [Constructor.toModel, Constructor.concerns, Param.toModels_eq_each]

@[simp] theorem Member.concerns_toModel (m : Member) : m.toModel.concerns = m.concerns := by
  cases m with
  | constructor c => simp [Member.toModel, Member.concerns]
  | method m =>
    simp [Member.toModel, Member.concerns, Method.toModel, Method.concerns,
      Param.toModels_eq_each]
  | property p =>
    simp [Member.toModel, Member.concerns, Property.toModel, Property.concerns]
  | getter g => simp [Member.toModel, Member.concerns, Getter.toModel, Getter.concerns]
  | built c => rfl

/-- Splitting members does not reorder what they report. -/
@[simp] theorem Member.concerns_toSplit (ms : List Member) :
    (Member.toSplit ms).concerns = ms.flatMap Member.concerns := by
  simp [Member.toSplit]

@[simp] theorem Heritage.concerns_toModel (h : Heritage) : h.toModel.concerns = h.concerns := by
  obtain ⟨symbol, args⟩ := h
  cases symbol <;>
    simp [Heritage.toModel, Heritage.concerns, HeritageSymbol.written, HeritageSymbol.concerns,
      Recovered.map, Recovered.resolve, Ty.toModels_eq_each]

@[simp] theorem Heritage.concerns_toModels (hs : List Heritage) :
    (Heritage.toModels hs).concerns = hs.flatMap Heritage.concerns := by
  simp [Heritage.toModels]

/-! ## Declarations -/

def Class.concerns (c : Class) : List Concern :=
  c.members.flatMap Member.concerns ++ c.primaryConstructor.toList.flatMap Constructor.concerns
    ++ c.typeParams.flatMap TypeParam.concerns ++ c.parents.flatMap Heritage.concerns

def Interface.concerns (i : Interface) : List Concern :=
  i.members.flatMap Member.concerns ++ i.typeParams.flatMap TypeParam.concerns
    ++ i.parents.flatMap Heritage.concerns

def Object.concerns (o : Object) : List Concern :=
  o.members.flatMap Member.concerns ++ o.parents.flatMap Heritage.concerns

def Function.concerns (f : Function) : List Concern :=
  f.params.flatMap Param.concerns ++ f.ty.concerns ++ f.typeParams.flatMap TypeParam.concerns

def Variable.concerns (v : Variable) : List Concern :=
  v.ty.concerns ++ v.typeParams.flatMap TypeParam.concerns

/-- An alias without a counterpart is not visited. -/
def Alias.concerns (a : Alias) : List Concern :=
  if a.hasCounterpart then a.ty.concerns else []

mutual

/-- The concerns of a module, those of nested modules where the modules stand. -/
def Module.concerns : Module → List Concern
  | ⟨_, declarations, _, _⟩ => Decl.allConcerns declarations

def Decl.concerns : Decl → List Concern
  | .classDecl c => c.concerns
  | .interfaceDecl i => i.concerns
  | .functionDecl f => f.concerns
  | .variableDecl v => v.concerns
  | .enumDecl _ => []
  | .objectDecl o => o.concerns
  | .aliasDecl a => a.concerns
  | .moduleDecl m => m.concerns
  | .importEquals _ => [⟨.unknownDeclaration, "skipping ImportEquals"⟩]
  | .exportAssignment _ => [⟨.unknownDeclaration, "skipping ExportAssignment"⟩]

def Decl.allConcerns : List Decl → List Concern
  | [] => []
  | d :: ds => d.concerns ++ Decl.allConcerns ds

end

theorem Decl.allConcerns_append (ds es : List Decl) :
    Decl.allConcerns (ds ++ es) = Decl.allConcerns ds ++ Decl.allConcerns es := by
  induction ds with
  | nil => rfl
  | cons d ds ih =>
    rw [List.cons_append, Decl.allConcerns, ih, ← List.append_assoc, Decl.allConcerns]

def File.concerns (f : File) : List Concern := f.root.concerns

def SourceSet.concerns (s : SourceSet) : List Concern := s.files.flatMap File.concerns

@[simp] theorem Class.concerns_toModel (c : Class) : c.toModel.concerns = c.concerns := by
  simp [Class.toModel, Class.concerns]

@[simp] theorem Interface.concerns_toModel (i : Interface) :
    i.toModel.concerns = i.concerns := by
  simp [Interface.toModel, Interface.concerns]

@[simp] theorem Object.concerns_toModel (o : Object) : o.toModel.concerns = o.concerns := by
  simp [Object.toModel, Object.concerns]

@[simp] theorem Function.concerns_toModel (f : Function) : f.toModel.concerns = f.concerns := by
  simp [Function.toModel, Function.concerns, Param.toModels_eq_each]

@[simp] theorem Variable.concerns_toModel (v : Variable) : v.toModel.concerns = v.concerns := by
  simp [Variable.toModel, Variable.concerns]

/-! ## Modules -/

mutual

@[simp] theorem Module.concerns_toModel (m : Module) : m.toModel.concerns = m.concerns := by
  obtain ⟨package, declarations, qualifier, binding⟩ := m
  have hdecls := Decl.concerns_allContents declarations
  simp [Module.toModel, Module.concerns, hdecls]

private theorem Decl.concerns_toContents (d : Decl) : d.toContents.concerns = d.concerns := by
  cases d with
  | moduleDecl m =>
    have hm := Module.concerns_toModel m
    simp [Decl.toContents, Decl.concerns, hm]
  | aliasDecl a =>
    rw [Decl.toContents, Decl.concerns, Alias.concerns]
    split
    next => simp [Alias.toModel]
    next => rfl
  | importEquals i =>
    simp [Decl.toContents, Decl.concerns, Decl.skipped, Decl.kind, Recovered.resolve]
  | exportAssignment e =>
    simp [Decl.toContents, Decl.concerns, Decl.skipped, Decl.kind, Recovered.resolve]
  | enumDecl e => rfl
  | classDecl c => simp [Decl.toContents, Decl.concerns]
  | interfaceDecl i => simp [Decl.toContents, Decl.concerns]
  | functionDecl f => simp [Decl.toContents, Decl.concerns]
  | variableDecl v => simp [Decl.toContents, Decl.concerns]
  | objectDecl o => simp [Decl.toContents, Decl.concerns]

private theorem Decl.concerns_allContents (ds : List Decl) :
    (Decl.allContents ds).concerns = Decl.allConcerns ds := by
  cases ds with
  | nil => rfl
  | cons d ds =>
    have hd := Decl.concerns_toContents d
    have hds := Decl.concerns_allContents ds
    simp [Decl.allContents, Decl.allConcerns, hd, hds]

end

end Source

/-! ## Assembly -/

namespace Assembler

@[simp] theorem concerns_assemble (a : Assembler) (s : Source.SourceSet) :
    (a.assemble s).concerns = s.concerns := by
  have hfile (f : Source.File) : (a.assembleFile f).concerns = f.concerns := by
    simp [assembleFile, Source.File.concerns]
  simp [assemble, Source.SourceSet.concerns, hfile]

/-- Assembling a set into a log leaves the log with the concerns of the set behind
what it held before, and the model is the same whatever that was. -/
theorem assemble_into (a : Assembler) (s : Source.SourceSet) (log : Log) :
    (a.assemble s).into log = ((a.assemble s).value, ⟨log.concerns ++ s.concerns⟩) := by
  rw [Reported.into_eq, concerns_assemble]

end Assembler

end Bindings
