-- SUMMARY: What the model of a module holds, declaration by declaration, and induction over nested modules.
import Mathlib.Data.List.Forall2
import Bindings.Build.Module

/-!
# Contents of a model

The declarations of a model are the models of the declarations, and its submodules
are the models of the nested modules. `Module.Paired` carries a property of a
declaration and its model to all modules of a tree.
-/
namespace Bindings.Source

/-! ## Kinds of declarations -/

/-- Whether the declaration is one of the declarations of the model. -/
def Decl.isDeclared : Decl → Bool
  | .classDecl _ => true
  | .interfaceDecl _ => true
  | .functionDecl _ => true
  | .variableDecl _ => true
  | .enumDecl _ => true
  | .objectDecl _ => true
  | .aliasDecl a => a.hasCounterpart
  | .moduleDecl _ => false
  | .importEquals _ => false
  | .exportAssignment _ => false

/-- The nested module, if the declaration is one. -/
def Decl.module? : Decl → Option Module
  | .moduleDecl m => some m
  | _ => none

/-! ## Nested modules -/

/-- The modules that stand directly in the module. -/
def Module.nested (m : Module) : List Module := m.declarations.filterMap Decl.module?

mutual

-- Nested modules stand among the declarations, so that the recursion runs through the list.
/-- What holds of a module whenever it holds of its nested modules holds of all. -/
@[elab_as_elim] theorem Module.induct {motive : Module → Prop}
    (step : ∀ m, (∀ n ∈ m.nested, motive n) → motive m) (m : Module) : motive m := by
  obtain ⟨package, declarations, qualifier, binding⟩ := m
  exact step _ (Decl.induct_nested step declarations)

private theorem Decl.induct_module {motive : Module → Prop}
    (step : ∀ m, (∀ n ∈ m.nested, motive n) → motive m) (d : Decl) :
    ∀ n ∈ d.module?, motive n := by
  intro n hn
  cases d with
  | moduleDecl m =>
    obtain rfl : m = n := Option.some.inj hn
    exact Module.induct step m
  | _ => cases hn

private theorem Decl.induct_nested {motive : Module → Prop}
    (step : ∀ m, (∀ n ∈ m.nested, motive n) → motive m) (ds : List Decl) :
    ∀ n ∈ ds.filterMap Decl.module?, motive n := by
  cases ds with
  | nil =>
    intro n hn
    cases hn
  | cons d ds =>
    intro n hn
    have hd := Decl.induct_module step d
    have hds := Decl.induct_nested step ds
    obtain ⟨e, he, hn⟩ := List.mem_filterMap.mp hn
    cases he with
    | head => exact hd n hn
    | tail _ he => exact hds n (List.mem_filterMap.mpr ⟨e, he, hn⟩)

end

/-! ## Declarations and submodules of a model -/

/-- The model of a declaration, if it has one among the declarations. -/
def Decl.declared (d : Decl) : List Model.Decl := d.toContents.value.declarations

theorem Decl.declared_of_not_isDeclared {d : Decl} (hd : d.isDeclared = false) :
    d.declared = [] := by
  cases d with
  | aliasDecl a =>
    have ha : a.hasCounterpart = false := hd
    rw [Decl.declared, Decl.toContents, ha]
    rfl
  | moduleDecl m => rfl
  | importEquals i => rfl
  | exportAssignment e => rfl
  | _ => cases hd

theorem Decl.declared_aliasDecl {a : Alias} (ha : a.hasCounterpart = true) :
    Decl.declared (.aliasDecl a) = [.aliasDecl a.toModel.value] := by
  rw [Decl.declared, Decl.toContents, ha]
  rfl

theorem Decl.submodules_toContents (d : Decl) :
    d.toContents.value.submodules = d.module?.toList.map fun m => m.toModel.value := by
  cases d with
  | aliasDecl a =>
    rw [Decl.toContents]
    split <;> rfl
  | _ => rfl

theorem Decl.value_allContents_cons (d : Decl) (ds : List Decl) :
    (Decl.allContents (d :: ds)).value = d.toContents.value ++ (Decl.allContents ds).value := rfl

theorem Module.declarations_toModel (m : Module) :
    m.toModel.value.declarations = m.declarations.flatMap Decl.declared := by
  rw [Module.value_toModel]
  show (Decl.allContents m.declarations).value.declarations = _
  induction m.declarations with
  | nil => rfl
  | cons d ds ih =>
    rw [Decl.value_allContents_cons, Model.Contents.declarations_append, ih, List.flatMap_cons,
      Decl.declared]

theorem Module.submodules_toModel (m : Module) :
    m.toModel.value.submodules = m.nested.map fun n => n.toModel.value := by
  rw [Module.value_toModel]
  show (Decl.allContents m.declarations).value.submodules =
    (m.declarations.filterMap Decl.module?).map _
  induction m.declarations with
  | nil => rfl
  | cons d ds ih =>
    rw [Decl.value_allContents_cons, Model.Contents.submodules_append, Decl.submodules_toContents,
      ih, List.filterMap_cons]
    cases d.module? <;> rfl

/-! ## Pairs of a declaration and its model -/

/-- Whether the property holds of every declared declaration of the first tree and its
partner in the second, at any depth. The partners stand in the same order. -/
inductive Module.Paired (P : Decl → Model.Decl → Prop) : Module → Model.Module → Prop
  | intro {m : Module} {m' : Model.Module}
      (declarations : List.Forall₂ P (m.declarations.filter Decl.isDeclared) m'.declarations)
      (submodules : List.Forall₂ (Module.Paired P) m.nested m'.submodules) :
      Module.Paired P m m'

theorem Decl.forall₂_declared {P : Decl → Model.Decl → Prop}
    (hP : ∀ d, d.isDeclared = true → ∃ d', d.declared = [d'] ∧ P d d') (ds : List Decl) :
    List.Forall₂ P (ds.filter Decl.isDeclared) (ds.flatMap Decl.declared) := by
  induction ds with
  | nil => exact .nil
  | cons d ds ih =>
    rw [List.flatMap_cons]
    cases hd : d.isDeclared with
    | false =>
      rw [List.filter_cons_of_neg (by simp [hd]), Decl.declared_of_not_isDeclared hd]
      exact ih
    | true =>
      obtain ⟨d', hmodel, hpair⟩ := hP d hd
      rw [List.filter_cons_of_pos hd, hmodel]
      exact .cons hpair ih

/-- A property of each declared declaration and its model holds in the whole tree. -/
theorem Module.paired_toModel {P : Decl → Model.Decl → Prop}
    (hP : ∀ d, d.isDeclared = true → ∃ d', d.declared = [d'] ∧ P d d') (m : Module) :
    m.Paired P m.toModel.value := by
  induction m using Module.induct with
  | step m ih =>
    refine .intro ?_ ?_
    · rw [Module.declarations_toModel]
      exact Decl.forall₂_declared hP m.declarations
    · rw [Module.submodules_toModel, List.forall₂_map_right_iff, List.forall₂_same]
      exact ih

end Bindings.Source
