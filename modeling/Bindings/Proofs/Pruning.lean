-- SUMMARY: Leaving reserved declarations out of a source and filtering them out of its model come to the same.
import Bindings.Proofs.Concerns.SourceSet
import Bindings.Proofs.Counterparts
import Bindings.Proofs.Filters

/-!
# Pruning

A module can lose its reserved declarations before its model is built or after.
The models are the same, since modelling a declaration keeps its name and does
not look at its neighbours. The concerns are not: a declaration that is left out
early reports nothing, so that fewer concerns are left, in their old order.
-/
namespace Bindings.Source

open Model (Barred Registry)

/-! ## Pruned modules -/

/-- The name of a declaration that is neither a module nor without a counterpart. -/
def Decl.name? : Decl → Option Name
  | .classDecl c => some c.name
  | .interfaceDecl i => some i.name
  | .functionDecl f => some f.name
  | .variableDecl v => some v.name
  | .enumDecl e => some e.name
  | .objectDecl o => some o.name
  | .aliasDecl a => some a.name
  | .moduleDecl _ => none
  | .importEquals _ => none
  | .exportAssignment _ => none

section

variable (barred : Name → Prop) [DecidablePred barred]

mutual

/-- The module without declarations of barred names, at any depth. Nested modules
stay, whatever they are called. -/
def Module.pruned : Module → Module
  | ⟨package, declarations, qualifier, binding⟩ =>
    ⟨package, Decl.allPruned declarations, qualifier, binding⟩

/-- What is left of a declaration. -/
def Decl.pruned : Decl → List Decl
  | .moduleDecl m => [.moduleDecl m.pruned]
  | d => if d.name?.any fun n => barred n then [] else [d]

def Decl.allPruned : List Decl → List Decl
  | [] => []
  | d :: ds => d.pruned ++ Decl.allPruned ds

end

end

section

variable {barred : Name → Prop} [DecidablePred barred]

/-- A declaration other than a module goes or stays as a whole. -/
theorem Decl.pruned_of_not_module {d : Decl} (hm : d.module? = none) :
    d.pruned barred = if d.name?.any fun n => barred n then [] else [d] := by
  cases d with
  | moduleDecl m => cases hm
  | _ => rfl

theorem Module.declarations_pruned (m : Module) :
    (m.pruned barred).declarations = m.declarations.flatMap (Decl.pruned barred) := by
  obtain ⟨package, declarations, qualifier, binding⟩ := m
  show Decl.allPruned barred declarations = declarations.flatMap (Decl.pruned barred)
  induction declarations with
  | nil => rfl
  | cons d ds ih => rw [Decl.allPruned, ih, List.flatMap_cons]

theorem Decl.module?_pruned (d : Decl) :
    (d.pruned barred).filterMap Decl.module? = d.module?.toList.map (Module.pruned barred) := by
  cases d with
  | moduleDecl m => rfl
  | _ =>
    rw [Decl.pruned_of_not_module rfl]
    split <;> rfl

theorem Module.nested_pruned (m : Module) :
    (m.pruned barred).nested = m.nested.map (Module.pruned barred) := by
  unfold Module.nested
  rw [Module.declarations_pruned]
  induction m.declarations with
  | nil => rfl
  | cons d ds ih =>
    rw [List.flatMap_cons, List.filterMap_append, ih, Decl.module?_pruned, List.filterMap_cons]
    cases d.module? <;> rfl

/-! ## Models -/

/-- Counterparts are of one name. -/
theorem Decl.Counterpart.name?_eq {d : Decl} {d' : Model.Decl} (h : d.Counterpart d') :
    d.name? = some d'.name := by
  unfold Decl.Counterpart at h
  split at h
  case h_8 => cases h
  all_goals exact congrArg some h.symm

theorem Decl.declared_pruned_of_not_module {test : Name → Bool}
    (htest : ∀ n, test n = true ↔ barred n) {d : Decl} (hm : d.module? = none) :
    (d.pruned barred).flatMap Decl.declared = d.declared.filter fun d' => !test d'.name := by
  have hself : [d].flatMap Decl.declared = d.declared := List.flatMap_singleton _ _
  rw [Decl.pruned_of_not_module hm]
  cases hd : d.isDeclared with
  | false =>
    have hnone := Decl.declared_of_not_isDeclared hd
    rw [hnone]
    split
    next => rfl
    next => rw [hself, hnone]; rfl
  | true =>
    -- Source and model have one name, so that both sides ask the same question.
    obtain ⟨d', hdeclared, hcounterpart⟩ := Decl.declared_eq_counterpart hd
    rw [hcounterpart.name?_eq, Option.any_some, hdeclared]
    cases hn : test d'.name with
    | false =>
      have hfree : ¬ barred d'.name := fun h => by simp [(htest _).mpr h] at hn
      rw [if_neg (by simpa using hfree), hself, hdeclared, List.filter_cons_of_pos (by simp [hn])]
      rfl
    | true =>
      have hbarred : barred d'.name := (htest _).mp hn
      rw [if_pos (decide_eq_true hbarred), List.filter_cons_of_neg (by simp [hn])]
      rfl

theorem Decl.declared_pruned {test : Name → Bool} (htest : ∀ n, test n = true ↔ barred n)
    (d : Decl) :
    (d.pruned barred).flatMap Decl.declared = d.declared.filter fun d' => !test d'.name := by
  cases d with
  | moduleDecl m => rfl
  | _ => exact Decl.declared_pruned_of_not_module htest rfl

/-- The model of the pruned module is the filtered model, for every test of names. -/
theorem Module.filter_toModel {test : Name → Bool} (htest : ∀ n, test n = true ↔ barred n)
    (m : Module) :
    (m.toModel.value.filter fun d => !test d.name) = (m.pruned barred).toModel.value := by
  induction m using Module.induct with
  | step m ih =>
    have hdecls : (m.toModel.value.declarations.filter fun d => !test d.name) =
        (m.pruned barred).toModel.value.declarations := by
      rw [Module.declarations_toModel, Module.declarations_toModel, Module.declarations_pruned,
        List.filter_flatMap, List.flatMap_assoc]
      simp only [Decl.declared_pruned htest]
    have hsubs : m.toModel.value.submodules.map (Model.Module.filter fun d => !test d.name) =
        (m.pruned barred).toModel.value.submodules := by
      rw [Module.submodules_toModel, Module.submodules_toModel, Module.nested_pruned,
        List.map_map, List.map_map]
      exact List.map_congr_left ih
    rw [Model.Module.filter_eq, hdecls, hsubs]
    obtain ⟨package, declarations, qualifier, binding⟩ := m
    rfl

/-! ## Concerns -/

mutual

theorem Module.concerns_pruned (m : Module) :
    (m.pruned barred).concerns.Sublist m.concerns := by
  obtain ⟨package, declarations, qualifier, binding⟩ := m
  exact Decl.allConcerns_allPruned declarations

private theorem Decl.allConcerns_pruned (d : Decl) :
    (Decl.allConcerns (d.pruned barred)).Sublist d.concerns := by
  have hself (d : Decl) : Decl.allConcerns [d] = d.concerns := List.append_nil _
  cases d with
  | moduleDecl m =>
    have hm := Module.concerns_pruned m
    rw [Decl.pruned, hself]
    exact hm
  | _ =>
    rw [Decl.pruned_of_not_module rfl]
    split
    next => exact List.nil_sublist _
    next => rw [hself]

private theorem Decl.allConcerns_allPruned (ds : List Decl) :
    (Decl.allConcerns (Decl.allPruned barred ds)).Sublist (Decl.allConcerns ds) := by
  cases ds with
  | nil => exact .slnil
  | cons d ds =>
    have hd := Decl.allConcerns_pruned d
    have hds := Decl.allConcerns_allPruned ds
    rw [Decl.allPruned, Decl.allConcerns_append, Decl.allConcerns]
    exact hd.append hds

end

end

/-- Filtering the model of a module gives the model of the pruned module, whether the names
are those of a registry or of any other look-up. The pruned module reports some of the
concerns of the module in their order. -/
theorem Module.withoutReserved_toModel (m : Module) :
    (∀ r : Registry, m.toModel.value.withoutReserved r =
        (m.pruned (Barred fun n => n ∈ r.names)).toModel.value) ∧
      (∀ look : Name → Bool, m.toModel.value.withoutFound look =
        (m.pruned (Barred fun n => look n = true)).toModel.value) ∧
      ∀ (barred : Name → Prop) [DecidablePred barred],
        (m.pruned barred).toModel.concerns.Sublist m.toModel.concerns := by
  refine ⟨?_, ?_, ?_⟩
  · intro r
    rw [Model.Module.withoutReserved_eq_withoutFound]
    exact Module.filter_toModel (Model.finds_eq_true_iff r.contains_eq_true_iff) m
  · intro look
    exact Module.filter_toModel (Model.finds_eq_true_iff fun _ => Iff.rfl) m
  · intro barred _
    rw [Module.concerns_toModel, Module.concerns_toModel]
    exact Module.concerns_pruned m

end Bindings.Source
