-- SUMMARY: Relations between a source type and its model, carried to every type of a module that has a model of its own.
import Bindings.Proofs.Contents

/-!
# Types everywhere in a module

Not every type of a source has a model of its own: the members of a union are only
text in a description. Those that have one are the types of declarations, members
and parameters, the arguments of references and parents, the bounds of type
variables, and the parameters and results of function types. `Everywhere` says
that a relation holds between each of these types and its model, at the position
where the type stands.
-/
namespace Bindings.Source

/-! ## Types -/

/-- Whether the type is a reference to the identifier `String` that stands for a string
literal. -/
def Ty.IsStringLiteral (t : Ty) : Prop :=
  (∃ args, t.shape = .named (.ident "String") args) ∧ ∃ token, t.tag = some (.stringLiteral token)

/-- Whether no type inside the type has a model of its own. A string literal loses the
arguments it may have. -/
def Ty.IsLeaf (t : Ty) : Prop :=
  match t.shape with
  | .named _ _ => t.IsStringLiteral
  | .function _ _ => False
  | .union _ => True
  | .tuple _ => True
  | .generated _ _ => True
  | .intersection _ => True
  | .literal _ => True

/-- Whether `R` holds of the type and its model, and of all types inside it that have
models of their own. -/
inductive Ty.Everywhere (R : Position → Ty → Model.Ty → Prop) : Position → Ty → Model.Ty → Prop
  | leaf {position : Position} {t : Ty} {t' : Model.Ty}
      (self : R position t t')
      (leaf : t.IsLeaf) :
      Ty.Everywhere R position t t'
  | reference {position : Position} {name : Name} {args : List Ty} {nullable : Bool}
      {tag : Option Tag} {r : Model.Reference}
      (self : R position ⟨.named name args, nullable, tag⟩ (.ref r))
      (noLeaf : ¬ Ty.IsLeaf ⟨.named name args, nullable, tag⟩)
      (inArgs : List.Forall₂ (Ty.Everywhere R .general) args r.args) :
      Ty.Everywhere R position ⟨.named name args, nullable, tag⟩ (.ref r)
  | function {position : Position} {params : List Param} {result : Ty} {nullable : Bool}
      {tag : Option Tag} {params' : List Model.Param} {result' : Model.Ty}
      {description : Option String} {nullable' : Bool}
      (self : R position ⟨.function params result, nullable, tag⟩
        (.function params' result' description nullable'))
      (inParams : List.Forall₂ (fun p p' => Ty.Everywhere R .signature p.ty p'.ty) params params')
      (inResult : Ty.Everywhere R .signature result result') :
      Ty.Everywhere R position ⟨.function params result, nullable, tag⟩
        (.function params' result' description nullable')

/-! ## Members and declarations -/

section Members

variable (R : Position → Ty → Model.Ty → Prop)

/-- A parameter of a declaration is not part of a function type. -/
def Param.Everywhere (p : Param) (p' : Model.Param) : Prop :=
  Ty.Everywhere R .general p.ty p'.ty

def TypeParam.Everywhere (p : TypeParam) (p' : Model.TypeParam) : Prop :=
  List.Forall₂ (Ty.Everywhere R .general) p.constraints p'.constraints

def Heritage.Everywhere (h : Heritage) (h' : Model.Heritage) : Prop :=
  List.Forall₂ (Ty.Everywhere R .general) h.args h'.args

structure Constructor.Everywhere (c : Constructor) (c' : Model.Constructor) : Prop where
  params : List.Forall₂ (Param.Everywhere R) c.params c'.params
  typeParams : List.Forall₂ (TypeParam.Everywhere R) c.typeParams c'.typeParams

structure Method.Everywhere (m : Method) (m' : Model.Method) : Prop where
  params : List.Forall₂ (Param.Everywhere R) m.params m'.params
  ty : Ty.Everywhere R .general m.ty m'.ty
  typeParams : List.Forall₂ (TypeParam.Everywhere R) m.typeParams m'.typeParams

structure Property.Everywhere (p : Property) (p' : Model.Property) : Prop where
  ty : Ty.Everywhere R .general p.ty p'.ty
  typeParams : List.Forall₂ (TypeParam.Everywhere R) p.typeParams p'.typeParams

/-- The key is the only parameter of the method. -/
structure Getter.Everywhere (g : Getter) (m' : Model.Method) : Prop where
  key : List.Forall₂ (Param.Everywhere R) [g.key] m'.params
  value : Ty.Everywhere R .general g.value m'.ty

/-- A class that belongs to the model already has no types of a source. -/
def Member.Everywhere : Member → Model.Member → Prop
  | .constructor c, .constructor c' => c.Everywhere R c'
  | .method m, .method m' => m.Everywhere R m'
  | .property p, .property p' => p.Everywhere R p'
  | .getter g, .method m' => g.Everywhere R m'
  | .built _, .nested _ => True
  | _, _ => False

/-- Only methods and properties can be static. -/
def Member.isStatic : Member → Bool
  | .constructor _ => false
  | .method m => m.isStatic
  | .property p => p.isStatic
  | .getter _ => false
  | .built _ => false

/-- The members of a class-like declaration and those of its model, statics apart. -/
structure Member.SplitEverywhere (ms : List Member) (instances statics : List Model.Member) :
    Prop where
  instances : List.Forall₂ (Member.Everywhere R) (ms.filter fun m => !m.isStatic) instances
  statics : List.Forall₂ (Member.Everywhere R) (ms.filter Member.isStatic) statics

structure Class.Everywhere (c : Class) (c' : Model.Class) : Prop where
  members : Member.SplitEverywhere R c.members c'.members c'.companion.members
  primaryConstructor :
    Option.Rel (Constructor.Everywhere R) c.primaryConstructor c'.primaryConstructor
  typeParams : List.Forall₂ (TypeParam.Everywhere R) c.typeParams c'.typeParams
  parents : List.Forall₂ (Heritage.Everywhere R) c.parents c'.parents

structure Interface.Everywhere (i : Interface) (i' : Model.Interface) : Prop where
  members : Member.SplitEverywhere R i.members i'.members i'.companion.members
  typeParams : List.Forall₂ (TypeParam.Everywhere R) i.typeParams i'.typeParams
  parents : List.Forall₂ (Heritage.Everywhere R) i.parents i'.parents

structure Object.Everywhere (o : Object) (o' : Model.Object) : Prop where
  members : List.Forall₂ (Member.Everywhere R) o.members o'.members
  parents : List.Forall₂ (Heritage.Everywhere R) o.parents o'.parents

structure Function.Everywhere (f : Function) (f' : Model.Function) : Prop where
  params : List.Forall₂ (Param.Everywhere R) f.params f'.params
  ty : Ty.Everywhere R .general f.ty f'.ty
  typeParams : List.Forall₂ (TypeParam.Everywhere R) f.typeParams f'.typeParams

structure Variable.Everywhere (v : Variable) (v' : Model.Variable) : Prop where
  ty : Ty.Everywhere R .general v.ty v'.ty
  typeParams : List.Forall₂ (TypeParam.Everywhere R) v.typeParams v'.typeParams

/-- Enumerations have no types. -/
def Decl.Everywhere : Decl → Model.Decl → Prop
  | .classDecl c, .classDecl c' => c.Everywhere R c'
  | .interfaceDecl i, .interfaceDecl i' => i.Everywhere R i'
  | .functionDecl f, .functionDecl f' => f.Everywhere R f'
  | .variableDecl v, .variableDecl v' => v.Everywhere R v'
  | .enumDecl _, .enumDecl _ => True
  | .objectDecl o, .objectDecl o' => o.Everywhere R o'
  | .aliasDecl a, .aliasDecl a' => Ty.Everywhere R .general a.ty a'.ty
  | _, _ => False

/-- Whether `R` holds of every type of the module tree that has a model of its own. -/
def Module.Everywhere : Module → Model.Module → Prop := Module.Paired (Decl.Everywhere R)

end Members

/-! ## Models -/

section Models

variable {R : Position → Ty → Model.Ty → Prop}

theorem forall₂_map_of_forall {α β : Type} {S : α → β → Prop} {f : α → β}
    (h : ∀ a, S a (f a)) (as : List α) : List.Forall₂ S as (as.map f) := by
  rw [List.forall₂_map_right_iff, List.forall₂_same]
  intro a _
  exact h a

theorem Tag.namedToken?_eq_none {name : Name} {args : List Ty} {nullable : Bool}
    {tag : Option Tag} (h : ¬ Ty.IsStringLiteral ⟨.named name args, nullable, tag⟩) :
    Tag.namedToken? name tag = none := by
  rw [Option.eq_none_iff_forall_ne_some]
  intro token htoken
  obtain ⟨rfl, htag⟩ := Tag.namedToken?_eq_some_iff.mp htoken
  exact h ⟨⟨args, rfl⟩, token, htag⟩

mutual

/-- What holds of each type and its model holds of all types inside a type. -/
theorem Ty.everywhere_toModel (hR : ∀ position t, R position t (t.toModel position).value)
    (position : Position) (t : Ty) : Ty.Everywhere R position t (t.toModel position).value := by
  have hself := hR position t
  obtain ⟨shape, nullable, tag⟩ := t
  cases shape with
  | named name args =>
    -- A string literal is modelled without its arguments, whatever they are.
    by_cases hleaf : Ty.IsLeaf ⟨.named name args, nullable, tag⟩
    · exact .leaf hself hleaf
    · have hargs := Ty.everywhere_toModels hR args
      rw [Ty.toModel, Tag.namedToken?_eq_none hleaf] at hself ⊢
      exact .reference hself hleaf hargs
  | function params result =>
    have hparams := Param.everywhere_toModels hR params
    have hresult := Ty.everywhere_toModel hR .signature result
    rw [Ty.toModel] at hself ⊢
    exact .function hself hparams hresult
  | union members => exact .leaf hself trivial
  | tuple elements => exact .leaf hself trivial
  | generated name typeParams => exact .leaf hself trivial
  | intersection members => exact .leaf hself trivial
  | literal token => exact .leaf hself trivial

theorem Ty.everywhere_toModels (hR : ∀ position t, R position t (t.toModel position).value)
    (ts : List Ty) : List.Forall₂ (Ty.Everywhere R .general) ts (Ty.toModels ts).value := by
  cases ts with
  | nil => exact .nil
  | cons t ts =>
    have ht := Ty.everywhere_toModel hR .general t
    have hts := Ty.everywhere_toModels hR ts
    exact .cons ht hts

private theorem Param.everywhere_toModels
    (hR : ∀ position t, R position t (t.toModel position).value) (ps : List Param) :
    List.Forall₂ (fun p p' => Ty.Everywhere R .signature p.ty p'.ty) ps
      (Param.toModels .signature ps).value := by
  cases ps with
  | nil => exact .nil
  | cons p ps =>
    obtain ⟨name, ty, initializer, vararg, isOptional⟩ := p
    have hty := Ty.everywhere_toModel hR .signature ty
    have hps := Param.everywhere_toModels hR ps
    exact .cons hty hps

end

variable (hR : ∀ position t, R position t (t.toModel position).value)

include hR

theorem Param.everywhere_toModel (p : Param) :
    p.Everywhere R (p.toModel .general).value := by
  obtain ⟨name, ty, initializer, vararg, isOptional⟩ := p
  exact Ty.everywhere_toModel hR .general ty

theorem TypeParam.everywhere_toModel (p : TypeParam) : p.Everywhere R p.toModel.value :=
  Ty.everywhere_toModels hR p.constraints

theorem Heritage.everywhere_toModel (h : Heritage) : h.Everywhere R h.toModel.value :=
  Ty.everywhere_toModels hR h.args

theorem Param.everywhere_general (ps : List Param) :
    List.Forall₂ (Param.Everywhere R) ps (Param.toModels .general ps).value := by
  rw [Param.toModels_eq_each, Reported.value_each]
  exact forall₂_map_of_forall (Param.everywhere_toModel hR) ps

theorem TypeParam.everywhere_toModels (ps : List TypeParam) :
    List.Forall₂ (TypeParam.Everywhere R) ps (TypeParam.toModels ps).value := by
  rw [TypeParam.toModels, Reported.value_each]
  exact forall₂_map_of_forall (TypeParam.everywhere_toModel hR) ps

theorem Heritage.everywhere_toModels (hs : List Heritage) :
    List.Forall₂ (Heritage.Everywhere R) hs (Heritage.toModels hs).value := by
  rw [Heritage.toModels, Reported.value_each]
  exact forall₂_map_of_forall (Heritage.everywhere_toModel hR) hs

theorem Constructor.everywhere_toModel (c : Constructor) : c.Everywhere R c.toModel.value where
  params := Param.everywhere_general hR c.params
  typeParams := TypeParam.everywhere_toModels hR c.typeParams

theorem Member.everywhere_toModel (m : Member) : m.Everywhere R m.toModel.value := by
  cases m with
  | constructor c => exact Constructor.everywhere_toModel hR c
  | method m =>
    exact {
      params := Param.everywhere_general hR m.params
      ty := Ty.everywhere_toModel hR .general m.ty
      typeParams := TypeParam.everywhere_toModels hR m.typeParams }
  | property p =>
    exact {
      ty := Ty.everywhere_toModel hR .general p.ty
      typeParams := TypeParam.everywhere_toModels hR p.typeParams }
  | getter g =>
    exact {
      key := .cons (Param.everywhere_toModel hR g.key) .nil
      value := Ty.everywhere_toModel hR .general g.value }
  | built c => trivial

omit hR in
/-- Modelling a member keeps it static or not. -/
theorem Member.isStatic_toModel (m : Member) : m.toModel.value.isStatic = m.isStatic := by
  cases m <;> rfl

omit hR in
/-- Members can be told apart by their statics before they are modelled or after. -/
theorem Member.filter_models (p : Bool → Bool) (ms : List Member) :
    ((ms.map fun m => m.toModel.value).filter fun m => p m.isStatic) =
      (ms.filter fun m => p m.isStatic).map fun m => m.toModel.value := by
  rw [List.filter_map]
  simp only [Function.comp_def, Member.isStatic_toModel]

theorem Member.everywhere_toSplit (ms : List Member) :
    Member.SplitEverywhere R ms (Member.toSplit ms).value.instances
      (Member.toSplit ms).value.statics := by
  have hfilter (p : Bool → Bool) :
      List.Forall₂ (Member.Everywhere R) (ms.filter fun m => p m.isStatic)
        ((ms.map fun m => m.toModel.value).filter fun m => p m.isStatic) := by
    rw [Member.filter_models]
    exact forall₂_map_of_forall (Member.everywhere_toModel hR) _
  rw [Member.value_toSplit]
  exact ⟨hfilter not, hfilter id⟩

theorem Class.everywhere_toModel (c : Class) : c.Everywhere R c.toModel.value where
  members := Member.everywhere_toSplit hR c.members
  primaryConstructor := by
    obtain ⟨name, members, primary, typeParams, parents, annotations⟩ := c
    cases primary with
    | none => exact .none
    | some primary => exact .some (Constructor.everywhere_toModel hR primary)
  typeParams := TypeParam.everywhere_toModels hR c.typeParams
  parents := Heritage.everywhere_toModels hR c.parents

theorem Interface.everywhere_toModel (i : Interface) : i.Everywhere R i.toModel.value where
  members := Member.everywhere_toSplit hR i.members
  typeParams := TypeParam.everywhere_toModels hR i.typeParams
  parents := Heritage.everywhere_toModels hR i.parents

theorem Object.everywhere_toModel (o : Object) : o.Everywhere R o.toModel.value where
  members := by
    show List.Forall₂ _ _ (Reported.each Member.toModel o.members).value
    rw [Reported.value_each]
    exact forall₂_map_of_forall (Member.everywhere_toModel hR) o.members
  parents := Heritage.everywhere_toModels hR o.parents

theorem Function.everywhere_toModel (f : Function) : f.Everywhere R f.toModel.value where
  params := Param.everywhere_general hR f.params
  ty := Ty.everywhere_toModel hR .general f.ty
  typeParams := TypeParam.everywhere_toModels hR f.typeParams

theorem Variable.everywhere_toModel (v : Variable) : v.Everywhere R v.toModel.value where
  ty := Ty.everywhere_toModel hR .general v.ty
  typeParams := TypeParam.everywhere_toModels hR v.typeParams

theorem Decl.everywhere_declared {d : Decl} (hd : d.isDeclared = true) :
    ∃ d', d.declared = [d'] ∧ d.Everywhere R d' := by
  cases d with
  | classDecl c => exact ⟨_, rfl, Class.everywhere_toModel hR c⟩
  | interfaceDecl i => exact ⟨_, rfl, Interface.everywhere_toModel hR i⟩
  | functionDecl f => exact ⟨_, rfl, Function.everywhere_toModel hR f⟩
  | variableDecl v => exact ⟨_, rfl, Variable.everywhere_toModel hR v⟩
  | enumDecl e => exact ⟨_, rfl, trivial⟩
  | objectDecl o => exact ⟨_, rfl, Object.everywhere_toModel hR o⟩
  | aliasDecl a => exact ⟨_, Decl.declared_aliasDecl hd, Ty.everywhere_toModel hR .general a.ty⟩
  | moduleDecl m => cases hd
  | importEquals i => cases hd
  | exportAssignment e => cases hd

/-- What holds of each type and its model at each position holds of all types of a
module that have models. -/
theorem Module.everywhere_toModel (m : Module) : m.Everywhere R m.toModel.value :=
  Module.paired_toModel (fun _ => Decl.everywhere_declared hR) m

end Models

end Bindings.Source
