-- SUMMARY: What a walk without effects does to files, modules and the interfaces that stand directly in them.
import Bindings.Pass.Basic

/-!
# Walks without effects

A walk in `Id` is a map: it visits each file, and in each module it maps the
visit over the interfaces and leaves everything else alone.
-/
namespace Bindings.Source

variable (visit : Scope → Interface → Id Interface)

theorem Decl.walkAll_eq_map (scope : Scope) (ds : List Decl) :
    (Decl.walkAll visit scope ds).run = ds.map fun d => (d.walk visit scope).run := by
  induction ds with
  | nil => rfl
  | cons d ds ih => simp [Decl.walkAll, ih]

theorem File.walkAll_eq_map (fs : List File) :
    (File.walkAll visit fs).run = fs.map fun f => (f.walk visit).run := by
  induction fs with
  | nil => rfl
  | cons f fs ih => simp [File.walkAll, ih]

theorem SourceSet.files_walk (s : SourceSet) :
    (s.walk visit).run.files = s.files.map fun f => (f.walk visit).run := by
  rw [← File.walkAll_eq_map]
  rfl

/-! ## Modules -/

@[simp] theorem Module.package_walk (path : String) (m : Module) :
    (m.walk visit path).run.package = m.package := by
  obtain ⟨package, declarations, qualifier, binding⟩ := m
  rfl

theorem Module.declarations_walk (path : String) (m : Module) :
    (m.walk visit path).run.declarations =
      m.declarations.map fun d => (d.walk visit ⟨path, m.package⟩).run := by
  obtain ⟨package, declarations, qualifier, binding⟩ := m
  exact Decl.walkAll_eq_map visit ⟨path, package⟩ declarations

/-- The scope of a visit is the file and the module around the interface. -/
theorem Module.interfaces_walk (path : String) (m : Module) :
    (m.walk visit path).run.interfaces =
      m.interfaces.map fun i => (visit ⟨path, m.package⟩ i).run := by
  unfold Module.interfaces
  rw [Module.declarations_walk, List.filterMap_map, List.map_filterMap]
  congr 1
  funext d
  cases d <;> rfl

@[simp] theorem File.package_walk (f : File) : (f.walk visit).run.package = f.package :=
  Module.package_walk visit f.path f.root

@[simp] theorem File.root_walk (f : File) :
    (f.walk visit).run.root = (f.root.walk visit f.path).run := rfl

/-! ## Scopes -/

section Scopes

variable (change : Interface → Id Interface)

mutual

/-- A visit that does not look at the scope does the same in every file. -/
theorem Module.walk_congr_path (path path' : String) (m : Module) :
    m.walk (fun _ i => change i) path = m.walk (fun _ i => change i) path' := by
  obtain ⟨package, declarations, qualifier, binding⟩ := m
  have h := Decl.walkAll_congr_scope ⟨path, package⟩ ⟨path', package⟩ declarations
  rw [Module.walk, Module.walk, h]

private theorem Decl.walk_congr_scope (scope scope' : Scope) (d : Decl) :
    d.walk (fun _ i => change i) scope = d.walk (fun _ i => change i) scope' := by
  cases d with
  | moduleDecl m =>
    have h := Module.walk_congr_path scope.path scope'.path m
    rw [Decl.walk, Decl.walk, h]
  | _ => rfl

private theorem Decl.walkAll_congr_scope (scope scope' : Scope) (ds : List Decl) :
    Decl.walkAll (fun _ i => change i) scope ds =
      Decl.walkAll (fun _ i => change i) scope' ds := by
  cases ds with
  | nil => rfl
  | cons d ds =>
    have hd := Decl.walk_congr_scope scope scope' d
    have hds := Decl.walkAll_congr_scope scope scope' ds
    rw [Decl.walkAll, Decl.walkAll, hd, hds]

end

end Scopes

end Bindings.Source
