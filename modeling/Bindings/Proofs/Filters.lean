-- SUMMARY: Filters by reserved names compose: two in a row drop what both reserve together, and touch nothing but declarations.
import Bindings.Proofs.Reservation

/-!
# Filters

A filter asks its registry about the name of a declaration and about nothing else, so
that two filters in a row drop what is reserved by either, whichever comes first. What
is left of a module is the module with some declarations fewer. All of this holds of any
set of reserved names that can be looked up; the names of a registry are one such set.
-/
namespace Bindings.Model

/-! ## Modules with fewer declarations -/

/-- Whether the first module is the second without some declarations, at any depth: those
for which `keep` holds stay, as they are and in their order. -/
inductive Module.Narrowed (keep : Decl → Prop) : Module → Module → Prop
  | intro {m' m : Module}
      (others : m' = { m with declarations := m'.declarations, submodules := m'.submodules })
      (declarations : m'.declarations.Sublist m.declarations)
      (kept : ∀ d ∈ m.declarations, d ∈ m'.declarations ↔ keep d)
      (submodules : List.Forall₂ (Narrowed keep) m'.submodules m.submodules) :
      Narrowed keep m' m

/-- Whether two files differ by declarations that are left out of the first. -/
structure File.Narrowed (keep : Decl → Prop) (f' f : File) : Prop where
  path : f'.path = f.path
  references : f'.references = f.references
  root : f'.root.Narrowed keep f.root

def SourceSet.Narrowed (keep : Decl → Prop) (s' s : SourceSet) : Prop :=
  List.Forall₂ (File.Narrowed keep) s'.files s.files

/-! ## Filters by a test -/

namespace Module

mutual

/-- The module with the declarations that pass the test, at any depth. -/
def filter (keep : Decl → Bool) : Module → Module
  | ⟨qualifier, name, shortName, declarations, annotations, submodules, imports⟩ =>
    ⟨qualifier, name, shortName, declarations.filter keep, annotations,
      allFilter keep submodules, imports⟩

def allFilter (keep : Decl → Bool) : List Module → List Module
  | [] => []
  | m :: ms => m.filter keep :: allFilter keep ms

end

theorem allFilter_eq_map (keep : Decl → Bool) (ms : List Module) :
    allFilter keep ms = ms.map (filter keep) := by
  induction ms with
  | nil => rfl
  | cons m ms ih => rw [allFilter, ih, List.map_cons]

mutual

/-- What holds of a module whenever it holds of its submodules holds of all. -/
@[elab_as_elim] theorem induct {motive : Module → Prop}
    (step : ∀ m, (∀ n ∈ m.submodules, motive n) → motive m) (m : Module) : motive m := by
  obtain ⟨qualifier, name, shortName, declarations, annotations, submodules, imports⟩ := m
  exact step _ (induct_submodules step submodules)

private theorem induct_submodules {motive : Module → Prop}
    (step : ∀ m, (∀ n ∈ m.submodules, motive n) → motive m) (ms : List Module) :
    ∀ n ∈ ms, motive n := by
  cases ms with
  | nil =>
    intro n hn
    cases hn
  | cons m ms =>
    have hm := induct step m
    have hms := induct_submodules step ms
    exact List.forall_mem_cons.mpr ⟨hm, hms⟩

end

theorem filter_eq (keep : Decl → Bool) (m : Module) :
    m.filter keep = {
      m with
      declarations := m.declarations.filter keep
      submodules := m.submodules.map (filter keep) } := by
  obtain ⟨qualifier, name, shortName, declarations, annotations, submodules, imports⟩ := m
  rw [filter, allFilter_eq_map]

theorem filter_filter (p q : Decl → Bool) (m : Module) :
    (m.filter p).filter q = m.filter fun d => q d && p d := by
  induction m using Module.induct with
  | step m ih =>
    have hsubmodules : (m.submodules.map (filter p)).map (filter q) =
        m.submodules.map (filter fun d => q d && p d) := by
      rw [List.map_map]
      exact List.map_congr_left ih
    simp only [filter_eq _ m, filter_eq q, List.filter_filter, hsubmodules]

/-- A filter leaves everything alone but the declarations that fail its test. -/
theorem narrowed_filter (keep : Decl → Bool) (m : Module) :
    (m.filter keep).Narrowed (fun d => keep d = true) m := by
  induction m using Module.induct with
  | step m ih =>
    rw [filter_eq]
    refine .intro rfl List.filter_sublist ?_ ?_
    · intro d hd
      exact List.mem_filter.trans (and_iff_right hd)
    · rw [List.forall₂_map_left_iff, List.forall₂_same]
      exact ih

end Module

/-! ## Filters by a look-up of names -/

/-- Whether a declaration may not have the name if the names of `has` are reserved: its last
segment is one of them if it lies under the library root, and the whole name otherwise. -/
def Barred (has : Name → Prop) (n : Name) : Prop :=
  (n.leftMost = "<LIBROOT>" ∧ has (.ident n.rightMost)) ∨ (n.leftMost ≠ "<LIBROOT>" ∧ has n)

instance (has : Name → Prop) [DecidablePred has] : DecidablePred (Barred has) :=
  fun _ => inferInstanceAs (Decidable ((_ ∧ _) ∨ (_ ∧ _)))

/-- Whether a look-up finds what is looked up for a declaration of the name. -/
def finds (look : Name → Bool) (n : Name) : Bool :=
  if n.leftMost = libRoot then look (.ident n.rightMost) else look n

/-- What a look-up of the names of `has` finds is barred by them. -/
theorem finds_eq_true_iff {look : Name → Bool} {has : Name → Prop}
    (h : ∀ n, look n = true ↔ has n) (n : Name) : finds look n = true ↔ Barred has n := by
  unfold finds Barred libRoot
  split
  next hroot => simp [hroot, h]
  next hroot => simp [hroot, h]

theorem finds_or (look look' : Name → Bool) (n : Name) :
    finds (fun n => look n || look' n) n = (finds look n || finds look' n) := by
  unfold finds
  split <;> rfl

namespace Module

/-- The module without the declarations whose names are found, at any depth. -/
def withoutFound (look : Name → Bool) (m : Module) : Module :=
  m.filter fun d => !finds look d.name

/-- A registry is asked by looking a name up in it. -/
theorem withoutReserved_eq_withoutFound (r : Registry) (m : Module) :
    m.withoutReserved r = m.withoutFound r.contains := by
  unfold withoutFound
  induction m using Module.induct with
  | step m ih =>
    rw [filter_eq, ← List.map_congr_left ih]
    obtain ⟨qualifier, name, shortName, declarations, annotations, submodules, imports⟩ := m
    rw [withoutReserved, allWithoutReserved_eq_map]
    rfl

theorem withoutFound_withoutFound (look look' : Name → Bool) (m : Module) :
    (m.withoutFound look).withoutFound look' =
      m.withoutFound fun n => look n || look' n := by
  have htest : (fun d : Decl => !finds look' d.name && !finds look d.name) =
      fun d => !finds (fun n => look n || look' n) d.name := by
    funext d
    rw [finds_or, Bool.not_or, Bool.and_comm]
  unfold withoutFound
  rw [filter_filter, htest]

theorem narrowed_withoutFound {look : Name → Bool} {has : Name → Prop}
    (h : ∀ n, look n = true ↔ has n) (m : Module) :
    (m.withoutFound look).Narrowed (fun d => ¬ Barred has d.name) m := by
  have hnarrowed := narrowed_filter (fun d => !finds look d.name) m
  simp only [Bool.not_eq_true', ← Bool.not_eq_true, finds_eq_true_iff h] at hnarrowed
  exact hnarrowed

end Module

namespace SourceSet

/-- The set without the declarations whose names are found, at any depth. -/
def withoutFound (look : Name → Bool) (s : SourceSet) : SourceSet :=
  s.mapRoots (Module.withoutFound look)

theorem withoutReserved_eq_withoutFound (r : Registry) (s : SourceSet) :
    s.withoutReserved r = s.withoutFound r.contains := by
  have hroots : Module.withoutReserved r = Module.withoutFound r.contains :=
    funext (Module.withoutReserved_eq_withoutFound r)
  rw [withoutReserved, withoutFound, hroots]

theorem withoutFound_withoutFound (look look' : Name → Bool) (s : SourceSet) :
    (s.withoutFound look).withoutFound look' =
      s.withoutFound fun n => look n || look' n := by
  unfold withoutFound mapRoots
  simp only [List.map_map, Function.comp_def, Module.withoutFound_withoutFound]

theorem narrowed_withoutFound (look : Name → Bool) (s : SourceSet) :
    (s.withoutFound look).Narrowed (fun d => ¬ Barred (fun n => look n = true) d.name) s := by
  unfold Narrowed withoutFound mapRoots
  rw [List.forall₂_map_left_iff, List.forall₂_same]
  intro f hf
  exact ⟨rfl, rfl, Module.narrowed_withoutFound (fun _ => Iff.rfl) f.root⟩

end SourceSet

/-! ## Laws -/

/-- What holds of filters that each drop the names of a set, where `has a n` says that the
name `n` is in the set `a`. -/
structure FiltersCompose {R : Type} (without : R → SourceSet → SourceSet)
    (has : R → Name → Prop) : Prop where
  /-- In either order, two filters drop what is in one of the sets. -/
  both : ∀ {a b c : R}, (∀ n, has c n ↔ has a n ∨ has b n) → ∀ s,
    without b (without a s) = without c s ∧ without a (without b s) = without c s
  again : ∀ a s, without a (without a s) = without a s
  narrowed : ∀ a s, (without a s).Narrowed (fun d => ¬ Barred (has a) d.name) s
  /-- What a larger set leaves of a model is part of what a smaller one leaves of it. -/
  enlarged : ∀ {a b : R}, (∀ n, has a n → has b n) → ∀ s,
    (without b s).Narrowed (fun d => ¬ Barred (has b) d.name) (without a s)

namespace FiltersCompose

variable {R : Type} {without : R → SourceSet → SourceSet} {has : R → Name → Prop}

/-- A set and a larger one have the names of the larger one together. -/
theorem of_both
    (both : ∀ {a b c : R}, (∀ n, has c n ↔ has a n ∨ has b n) → ∀ s,
      without b (without a s) = without c s ∧ without a (without b s) = without c s)
    (narrowed : ∀ a s, (without a s).Narrowed (fun d => ¬ Barred (has a) d.name) s) :
    FiltersCompose without has where
  both := both
  again := by
    intro a s
    exact (both (fun n => (or_self_iff (a := has a n)).symm) s).1
  narrowed := narrowed
  enlarged := by
    intro a b hsub s
    have hlarger : ∀ n, has b n ↔ has a n ∨ has b n := fun n =>
      (or_iff_right_of_imp (hsub n)).symm
    rw [← (both hlarger s).1]
    exact narrowed b (without a s)

/-- Sets that are given in another way have the laws of the sets that they stand for. -/
theorem comap (h : FiltersCompose without has) {R' : Type} (f : R' → R) :
    FiltersCompose (fun a => without (f a)) (fun a => has (f a)) where
  both := fun hc => h.both hc
  again := fun a => h.again (f a)
  narrowed := fun a => h.narrowed (f a)
  enlarged := fun hsub => h.enlarged hsub

end FiltersCompose

theorem filtersCompose_withoutFound :
    FiltersCompose SourceSet.withoutFound (fun look n => look n = true) := by
  refine .of_both ?_ SourceSet.narrowed_withoutFound
  intro a b c hc s
  have hab : c = fun n => a n || b n := by
    funext n
    rw [Bool.eq_iff_iff, hc n, Bool.or_eq_true]
  have hba : c = fun n => b n || a n := by
    funext n
    rw [Bool.eq_iff_iff, hc n, Bool.or_eq_true, or_comm]
  constructor
  · rw [SourceSet.withoutFound_withoutFound, hab]
  · rw [SourceSet.withoutFound_withoutFound, hba]

theorem filtersCompose_withoutReserved :
    FiltersCompose SourceSet.withoutReserved (fun r n => n ∈ r.names) := by
  have hwithout : SourceSet.withoutReserved = fun r => SourceSet.withoutFound r.contains :=
    funext₂ SourceSet.withoutReserved_eq_withoutFound
  have hhas : (fun (r : Registry) n => n ∈ r.names) = fun r n => r.contains n = true := by
    funext r n
    exact propext (r.contains_eq_true_iff n).symm
  rw [hwithout, hhas]
  exact filtersCompose_withoutFound.comap Registry.contains

theorem Registry.mem_names_union {a b : Registry} {n : Name} :
    n ∈ (a.union b).names ↔ n ∈ a.names ∨ n ∈ b.names :=
  List.mem_append

theorem Registry.mem_names_withExtra_append {xs ys : List String} {n : Name} :
    n ∈ (withExtra (xs ++ ys)).names ↔
      n ∈ (withExtra xs).names ∨ n ∈ (withExtra ys).names := by
  simp only [mem_names_withExtra, List.mem_append, or_and_right, exists_or]
  exact or_or_distrib_left

/-- Filters by registries compose, and so do filters by any other look-up of names: two
registries drop together what the registry with the names of both drops, such as the one
with two lists of extra names. -/
theorem withoutReserved_composes :
    FiltersCompose SourceSet.withoutReserved (fun r n => n ∈ r.names) ∧
      (∀ (a b : Registry) (n : Name), n ∈ (a.union b).names ↔ n ∈ a.names ∨ n ∈ b.names) ∧
      (∀ (xs ys : List String) (s : SourceSet),
        s.withoutReserved (.withExtra (xs ++ ys)) =
          (s.withoutReserved (.withExtra xs)).withoutReserved (.withExtra ys)) ∧
      FiltersCompose SourceSet.withoutFound (fun look n => look n = true) ∧
      ∀ (r : Registry) (s : SourceSet), s.withoutReserved r = s.withoutFound r.contains := by
  refine ⟨filtersCompose_withoutReserved, fun a b n => Registry.mem_names_union, ?_,
    filtersCompose_withoutFound, SourceSet.withoutReserved_eq_withoutFound⟩
  intro xs ys s
  have hextra : ∀ n, n ∈ (Registry.withExtra (xs ++ ys)).names ↔
      n ∈ (Registry.withExtra xs).names ∨ n ∈ (Registry.withExtra ys).names := fun n =>
    Registry.mem_names_withExtra_append
  exact (filtersCompose_withoutReserved.both hextra s).1.symm

/-- A module of enumerations of the given names. -/
def Module.ofEnums (name : Name) (names : List Name) (submodules : List Module) : Module where
  qualifier := none
  name := name
  shortName := .ident name.rightMost
  declarations := names.map fun n => .enumDecl ⟨n, []⟩
  annotations := []
  submodules := submodules
  imports := []

/-- A module and a submodule, where `Widget` stands below the library root, below another
package, and on its own. -/
def toolbox : SourceSet :=
  let inner := Module.ofEnums (.ofDotted "api.inner") [.ident "Widget", .ofDotted "ui.Widget"] []
  let outer := Module.ofEnums (.ident "api")
    [.ident "Gadget", .ofDotted "<LIBROOT>.Widget", .ident "Tool"] [inner]
  ⟨[⟨"/api.d.ts", outer, []⟩]⟩

def widgetOnly : Registry := ⟨[.ident "Widget"]⟩

def gadgetOnly : Registry := ⟨[.ident "Gadget"]⟩

/-- Filtered by two registries in either order, the module keeps what neither reserves,
which is part of what the first leaves of it. -/
theorem toolbox_composes :
    (toolbox.withoutReserved widgetOnly).withoutReserved gadgetOnly =
        toolbox.withoutReserved (widgetOnly.union gadgetOnly) ∧
      (toolbox.withoutReserved gadgetOnly).withoutReserved widgetOnly =
        toolbox.withoutReserved (widgetOnly.union gadgetOnly) ∧
      (toolbox.withoutReserved (widgetOnly.union gadgetOnly)).Narrowed
        (fun d => ¬ Barred (fun n => n ∈ (widgetOnly.union gadgetOnly).names) d.name)
        (toolbox.withoutReserved widgetOnly) ∧
      (toolbox.withoutReserved (widgetOnly.union gadgetOnly)).files.map
        (fun f => f.root.declarations.map Decl.name) = [[.ident "Tool"]] := by
  obtain ⟨hcompose, hunion, -⟩ := withoutReserved_composes
  obtain ⟨hboth, hswapped⟩ := hcompose.both (hunion widgetOnly gadgetOnly) toolbox
  have hsub : ∀ n ∈ widgetOnly.names, n ∈ (widgetOnly.union gadgetOnly).names := fun n hn =>
    (hunion widgetOnly gadgetOnly n).mpr (.inl hn)
  exact ⟨hboth, hswapped, hcompose.enlarged hsub toolbox, by decide⟩

end Bindings.Model
