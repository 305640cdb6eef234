-- SUMMARY: A walk visits every interface once and in order and leaves the rest alone, so that passes that only visit can share a walk.
import Mathlib.Data.List.Forall2
import Bindings.Proofs.Walk

/-!
# Visits of a walk

`SourceSet.sites` lists the interfaces of a set in document order, each with its
scope. A walk visits just these, one after the other. `SourceSet.Rewritten` says that
a second set differs from a first one in nothing but what a visit made of the
interfaces. Since no visit can change the scope of another, several walks in a row
come to the same as one walk that makes all the visits at each interface.
-/
namespace Bindings

namespace Source

/-! ## Sites -/

mutual

/-- The interfaces of a module of the file `path` in document order, those of a nested
module in the place of that module. -/
def Module.sites (path : String) : Module → List (Scope × Interface)
  | ⟨package, declarations, _, _⟩ => Decl.allSites ⟨path, package⟩ declarations

def Decl.sites (scope : Scope) : Decl → List (Scope × Interface)
  | .interfaceDecl i => [(scope, i)]
  | .moduleDecl m => m.sites scope.path
  | _ => []

def Decl.allSites (scope : Scope) : List Decl → List (Scope × Interface)
  | [] => []
  | d :: ds => d.sites scope ++ Decl.allSites scope ds

end

/-- The interfaces of all files, file by file. -/
def SourceSet.sites (s : SourceSet) : List (Scope × Interface) :=
  s.files.flatMap fun f => f.root.sites f.path

/-- The visit that writes down its site before it does what `visit` does. -/
def recorded (visit : Scope → Interface → Id Interface) (scope : Scope) (i : Interface) :
    StateM (List (Scope × Interface)) Interface := do
  modify (· ++ [(scope, i)])
  return (visit scope i).run

/-! ## Rewritten sets -/

section Rewritten

variable (visit : Scope → Interface → Id Interface)

mutual

/-- Whether the second module is the first one with every interface, at any depth,
replaced by what the visit makes of it in its scope. -/
inductive Module.Rewritten : String → Module → Module → Prop
  | intro {path : String} {package : Name} {declarations declarations' : List Decl}
      {qualifier : Option Name} {binding : Binding}
      (inside : Decl.AllRewritten ⟨path, package⟩ declarations declarations') :
      Module.Rewritten path ⟨package, declarations, qualifier, binding⟩
        ⟨package, declarations', qualifier, binding⟩

inductive Decl.Rewritten : Scope → Decl → Decl → Prop
  | interface {scope : Scope} {i : Interface} :
      Decl.Rewritten scope (.interfaceDecl i) (.interfaceDecl (visit scope i).run)
  | module {scope : Scope} {m m' : Module} (inside : Module.Rewritten scope.path m m') :
      Decl.Rewritten scope (.moduleDecl m) (.moduleDecl m')
  | other {scope : Scope} {d : Decl} (noInterface : ∀ i, d ≠ .interfaceDecl i)
      (noModule : ∀ m, d ≠ .moduleDecl m) :
      Decl.Rewritten scope d d

inductive Decl.AllRewritten : Scope → List Decl → List Decl → Prop
  | nil {scope : Scope} : Decl.AllRewritten scope [] []
  | cons {scope : Scope} {d d' : Decl} {ds ds' : List Decl} (head : Decl.Rewritten scope d d')
      (tail : Decl.AllRewritten scope ds ds') :
      Decl.AllRewritten scope (d :: ds) (d' :: ds')

end

structure File.Rewritten (f f' : File) : Prop where
  path : f'.path = f.path
  references : f'.references = f.references
  root : Module.Rewritten visit f.path f.root f'.root

def SourceSet.Rewritten (s s' : SourceSet) : Prop :=
  List.Forall₂ (File.Rewritten visit) s.files s'.files

mutual

theorem Module.rewritten_walk (path : String) (m : Module) :
    Module.Rewritten visit path m (m.walk visit path).run := by
  obtain ⟨package, declarations, qualifier, binding⟩ := m
  exact .intro (Decl.allRewritten_walkAll ⟨path, package⟩ declarations)

private theorem Decl.rewritten_walk (scope : Scope) (d : Decl) :
    Decl.Rewritten visit scope d (d.walk visit scope).run := by
  cases d with
  | interfaceDecl i => exact .interface
  | moduleDecl m => exact .module (Module.rewritten_walk scope.path m)
  | _ => exact .other nofun nofun

private theorem Decl.allRewritten_walkAll (scope : Scope) (ds : List Decl) :
    Decl.AllRewritten visit scope ds (Decl.walkAll visit scope ds).run := by
  cases ds with
  | nil => exact .nil
  | cons d ds =>
    have hd := Decl.rewritten_walk scope d
    have hds := Decl.allRewritten_walkAll scope ds
    exact .cons hd hds

end

theorem SourceSet.rewritten_walk (s : SourceSet) : s.Rewritten visit (s.walk visit).run := by
  unfold SourceSet.Rewritten
  rw [SourceSet.files_walk, List.forall₂_map_right_iff, List.forall₂_same]
  intro f _
  exact ⟨rfl, rfl, Module.rewritten_walk visit f.path f.root⟩

end Rewritten

/-! ## The record of a walk -/

section Recorded

variable (visit : Scope → Interface → Id Interface)

mutual

/-- A walk writes down the sites of the module, each one once. -/
theorem Module.walk_recorded (path : String) (m : Module) (log : List (Scope × Interface)) :
    ((m.walk (recorded visit) path).run log).run =
      ((m.walk visit path).run, log ++ m.sites path) := by
  obtain ⟨package, declarations, qualifier, binding⟩ := m
  have h := Decl.walkAll_recorded ⟨path, package⟩ declarations log
  simp [Module.walk, Module.sites, h]

private theorem Decl.walk_recorded (scope : Scope) (d : Decl) (log : List (Scope × Interface)) :
    ((d.walk (recorded visit) scope).run log).run =
      ((d.walk visit scope).run, log ++ d.sites scope) := by
  cases d with
  | interfaceDecl i => rfl
  | moduleDecl m =>
    have h := Module.walk_recorded scope.path m log
    simp [Decl.walk, Decl.sites, h]
  | _ => simp [Decl.walk, Decl.sites]

private theorem Decl.walkAll_recorded (scope : Scope) (ds : List Decl)
    (log : List (Scope × Interface)) :
    ((Decl.walkAll (recorded visit) scope ds).run log).run =
      ((Decl.walkAll visit scope ds).run, log ++ Decl.allSites scope ds) := by
  cases ds with
  | nil => simp [Decl.walkAll, Decl.allSites]
  | cons d ds =>
    have hd := Decl.walk_recorded scope d log
    have hds := Decl.walkAll_recorded scope ds (log ++ d.sites scope)
    simp [Decl.walkAll, Decl.allSites, hd, hds]

end

theorem File.walkAll_recorded (fs : List File) (log : List (Scope × Interface)) :
    ((File.walkAll (recorded visit) fs).run log).run =
      ((File.walkAll visit fs).run, log ++ fs.flatMap fun f => f.root.sites f.path) := by
  induction fs generalizing log with
  | nil => simp [File.walkAll]
  | cons f fs ih =>
    have hf := Module.walk_recorded visit f.path f.root log
    simp [File.walkAll, File.walk, hf, ih]

theorem SourceSet.walk_recorded (s : SourceSet) (log : List (Scope × Interface)) :
    ((s.walk (recorded visit)).run log).run = ((s.walk visit).run, log ++ s.sites) := by
  have h := File.walkAll_recorded visit s.files log
  simp [SourceSet.walk, SourceSet.sites, h]

end Recorded

/-! ## Walks in a row -/

section Fusion

variable (first second : Scope → Interface → Id Interface)

/-- Visit by `first`, and the outcome by `second` in the same scope. -/
def andThen (scope : Scope) (i : Interface) : Id Interface :=
  second scope (first scope i).run

mutual

/-- A walk keeps packages and paths, so that the second visit has the scope of the first. -/
theorem Module.walk_walk (path : String) (m : Module) :
    ((m.walk first path).run.walk second path).run = (m.walk (andThen first second) path).run := by
  obtain ⟨package, declarations, qualifier, binding⟩ := m
  have h := Decl.walkAll_walkAll ⟨path, package⟩ declarations
  simp [Module.walk, h]

private theorem Decl.walk_walk (scope : Scope) (d : Decl) :
    ((d.walk first scope).run.walk second scope).run =
      (d.walk (andThen first second) scope).run := by
  cases d with
  | moduleDecl m =>
    have h := Module.walk_walk scope.path m
    simp [Decl.walk, h]
  | _ => rfl

private theorem Decl.walkAll_walkAll (scope : Scope) (ds : List Decl) :
    (Decl.walkAll second scope (Decl.walkAll first scope ds).run).run =
      (Decl.walkAll (andThen first second) scope ds).run := by
  cases ds with
  | nil => rfl
  | cons d ds =>
    have hd := Decl.walk_walk scope d
    have hds := Decl.walkAll_walkAll scope ds
    simp [Decl.walkAll, hd, hds]

end

/-- A walk without effects, file by file. -/
theorem SourceSet.run_walk (visit : Scope → Interface → Id Interface) (fs : List File) :
    (SourceSet.walk visit ⟨fs⟩).run = ⟨fs.map fun f => (f.walk visit).run⟩ :=
  congrArg SourceSet.mk (SourceSet.files_walk visit ⟨fs⟩)

theorem File.walk_walk (f : File) :
    ((f.walk first).run.walk second).run = (f.walk (andThen first second)).run := by
  have h := Module.walk_walk first second f.path f.root
  simp [File.walk, h]

theorem SourceSet.walk_walk (s : SourceSet) :
    ((s.walk first).run.walk second).run = (s.walk (andThen first second)).run := by
  obtain ⟨fs⟩ := s
  rw [SourceSet.run_walk, SourceSet.run_walk, SourceSet.run_walk, List.map_map]
  simp only [Function.comp_def, File.walk_walk]

end Fusion

mutual

/-- A visit that changes no interface leaves the module as it is. -/
theorem Module.walk_pure (path : String) (m : Module) :
    (m.walk (fun _ i => (pure i : Id Interface)) path).run = m := by
  obtain ⟨package, declarations, qualifier, binding⟩ := m
  have h := Decl.walkAll_pure ⟨path, package⟩ declarations
  simp [Module.walk, h]

private theorem Decl.walk_pure (scope : Scope) (d : Decl) :
    (d.walk (fun _ i => (pure i : Id Interface)) scope).run = d := by
  cases d with
  | moduleDecl m =>
    have h := Module.walk_pure scope.path m
    simp [Decl.walk, h]
  | _ => rfl

private theorem Decl.walkAll_pure (scope : Scope) (ds : List Decl) :
    (Decl.walkAll (fun _ i => (pure i : Id Interface)) scope ds).run = ds := by
  cases ds with
  | nil => rfl
  | cons d ds =>
    have hd := Decl.walk_pure scope d
    have hds := Decl.walkAll_pure scope ds
    simp [Decl.walkAll, hd, hds]

end

theorem SourceSet.walk_pure (s : SourceSet) :
    (s.walk fun _ i => (pure i : Id Interface)).run = s := by
  obtain ⟨fs⟩ := s
  have hfile (f : File) : (f.walk fun _ i => (pure i : Id Interface)).run = f := by
    have h := Module.walk_pure f.path f.root
    simp [File.walk, h]
  rw [SourceSet.run_walk]
  simp only [hfile, List.map_id']

end Source

/-! ## Chains of visiting passes -/

namespace Pass

open Source (Scope Interface SourceSet recorded)

/-- All visits one after the other, each on the outcome of the one before it, in one scope. -/
def inTurn (visits : List (Scope → Interface → Id Interface)) (scope : Scope) (i : Interface) :
    Id Interface :=
  visits.foldl (fun i visit => (visit scope i).run) i

/-- Passes that do nothing but visit, given by their names and visits. -/
def ofVisits (visits : List (String × (Scope → Interface → Id Interface))) : List (Pass Id) :=
  visits.map fun v => ofVisit v.1 v.2

theorem applyAll_ofVisits (visits : List (String × (Scope → Interface → Id Interface)))
    (s : SourceSet) :
    (applyAll (ofVisits visits) s).run =
      (s.walk (inTurn (visits.map Prod.snd))).run := by
  induction visits generalizing s with
  | nil => exact (SourceSet.walk_pure s).symm
  | cons v visits ih =>
    have hfused := SourceSet.walk_walk v.2 (inTurn (visits.map Prod.snd)) s
    exact (ih (s.walk v.2).run).trans hfused

/-- A chain of passes that only visit makes all its visits in one walk, and a chain or a
visit that does nothing changes nothing. A walk visits each interface once, in document
order and in the scope where it stands, and changes nothing else. -/
theorem applyAll_ofVisits_exact (visits : List (String × (Scope → Interface → Id Interface)))
    (s : SourceSet) :
    (applyAll (ofVisits visits) s).run =
        (s.walk (inTurn (visits.map Prod.snd))).run ∧
      (applyAll ([] : List (Pass Id)) s).run = s ∧
      (∀ name, ((ofVisit name fun _ i => (pure i : Id Interface)).apply s).run = s) ∧
      (∀ visit log, ((s.walk (recorded visit)).run log).run =
        ((s.walk visit).run, log ++ s.sites)) ∧
      ∀ visit, s.Rewritten visit (s.walk visit).run := by
  refine ⟨applyAll_ofVisits visits s, rfl, ?_, ?_, ?_⟩
  · intro name
    exact SourceSet.walk_pure s
  · intro visit log
    exact SourceSet.walk_recorded visit s log
  · intro visit
    exact SourceSet.rewritten_walk visit s

/-- A nested module is visited in its place, and in its own scope. -/
example (x y z : Interface) :
    SourceSet.sites ⟨[.plain "a.idl" (.plain (.ident "a") [.interfaceDecl x,
      .moduleDecl (.plain ((Name.ident "a").append "b") [.interfaceDecl y]),
      .interfaceDecl z])]⟩ =
    [(⟨"a.idl", .ident "a"⟩, x), (⟨"a.idl", (Name.ident "a").append "b"⟩, y),
      (⟨"a.idl", .ident "a"⟩, z)] := by
  rfl

end Pass

end Bindings
