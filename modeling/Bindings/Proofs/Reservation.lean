-- SUMMARY: Which names the pipeline keeps out of every module, and which configured names have no effect.
import Bindings.Pipeline
import Bindings.Proofs.Counterparts
import Bindings.Proofs.Marker

/-!
# Names that are kept out

A registry is asked for the last segment of a name under the library root and for
any other name as a whole. An entry under the library root is therefore never the
one that is asked for: it keeps its name out only if its last segment happens to
be reserved as well. Every other entry keeps its name out of every module.
-/
namespace Bindings

namespace Model

/-! ## Modules at any depth -/

/-- Whether the first module is the second or stands in it, at any depth. -/
inductive Module.Inside : Module → Module → Prop
  | self {m : Module} : Inside m m
  | nested {k n m : Module} (hn : n ∈ m.submodules) (h : Inside k n) : Inside k m

/-- Whether some module of the set, at any depth, declares the name. -/
def SourceSet.Declares (s : SourceSet) (n : Name) : Prop :=
  ∃ f ∈ s.files, ∃ m : Module, m.Inside f.root ∧ ∃ d ∈ m.declarations, d.name = n

namespace Module

@[simp] theorem declarations_withoutReserved (r : Registry) (m : Module) :
    (m.withoutReserved r).declarations = m.declarations.filter fun d => !r.reserves d.name := by
  obtain ⟨_, _, _, _, _, _, _⟩ := m
  rfl

@[simp] theorem submodules_withoutReserved (r : Registry) (m : Module) :
    (m.withoutReserved r).submodules = m.submodules.map (withoutReserved r) := by
  obtain ⟨_, _, _, _, _, submodules, _⟩ := m
  exact allWithoutReserved_eq_map r submodules

/-- The modules inside a filtered module are the filtered modules inside it. -/
theorem Inside.of_withoutReserved {r : Registry} {k m : Module}
    (h : k.Inside (m.withoutReserved r)) :
    ∃ k₀ : Module, k₀.Inside m ∧ k = k₀.withoutReserved r := by
  generalize hm : m.withoutReserved r = m' at h
  induction h generalizing m with
  | self => exact ⟨m, .self, hm.symm⟩
  | nested hn _ ih =>
    subst hm
    rw [submodules_withoutReserved] at hn
    obtain ⟨n, hn, hfiltered⟩ := List.mem_map.mp hn
    obtain ⟨k₀, hinside, hk⟩ := ih hfiltered
    exact ⟨k₀, .nested hn hinside, hk⟩

theorem Inside.withoutReserved (r : Registry) {k m : Module} (h : k.Inside m) :
    (k.withoutReserved r).Inside (m.withoutReserved r) := by
  induction h with
  | self => exact .self
  | nested hn _ ih =>
    refine .nested ?_ ih
    rw [submodules_withoutReserved]
    exact List.mem_map_of_mem hn

end Module

/-- Filtering takes away the declarations of reserved names, and no others. -/
theorem SourceSet.declares_withoutReserved_iff (r : Registry) (s : SourceSet) (n : Name) :
    (s.withoutReserved r).Declares n ↔ s.Declares n ∧ r.reserves n = false := by
  constructor
  · rintro ⟨f', hf', k, hk, d, hd, rfl⟩
    obtain ⟨f, hf, rfl⟩ := List.mem_map.mp hf'
    obtain ⟨m, hm, rfl⟩ := hk.of_withoutReserved
    rw [Module.declarations_withoutReserved, List.mem_filter] at hd
    exact ⟨⟨f, hf, m, hm, d, hd.1, rfl⟩, by simpa using hd.2⟩
  · rintro ⟨⟨f, hf, m, hm, d, hd, rfl⟩, hr⟩
    refine ⟨_, List.mem_map_of_mem hf, _, hm.withoutReserved r, d, ?_, rfl⟩
    rw [Module.declarations_withoutReserved, List.mem_filter]
    exact ⟨hd, by simp [hr]⟩

/-! ## Entries of a registry -/

namespace Registry

/-- Whether the registry keeps out the name of one of its own entries. -/
def Enforces (r : Registry) (n : Name) : Prop :=
  n.leftMost ≠ libRoot ∨ .ident n.rightMost ∈ r.names

theorem reserves_eq_true_iff_of_mem {r : Registry} {n : Name} (hn : n ∈ r.names) :
    r.reserves n = true ↔ r.Enforces n := by
  unfold reserves Enforces
  split
  next h => simp [h]
  next h => simp [h, hn]

/-- No name of the standard library lies under the library root. -/
theorem leftMost_ne_libRoot_of_mem_platform {n : Name} (hn : n ∈ platform.names) :
    n.leftMost ≠ libRoot := by
  have h : ∀ n ∈ platform.names, n.leftMost ≠ libRoot := by decide
  exact h n hn

theorem mem_names_withExtra {extra : List String} {n : Name} :
    n ∈ (withExtra extra).names ↔ n ∈ platform.names ∨ ∃ r ∈ extra, Name.ofDotted r = n := by
  simp [withExtra]

end Registry

end Model

/-! ## The pipeline -/

namespace Source

/-- The set of one file that declares nothing but one enumeration. -/
def SourceSet.ofEnum (n : Name) : SourceSet :=
  ⟨[.plain "names.d.ts" (.plain (.ident "names") [.enumDecl ⟨n, []⟩])]⟩

end Source

theorem Assembler.declares_assemble (a : Assembler) {s : Source.SourceSet} {f : Source.File}
    {e : Model.Enum} (hf : f ∈ s.files) (he : .enumDecl e ∈ f.root.declarations) :
    (a.assemble s).value.Declares e.name := by
  obtain ⟨d', hd', hcounterpart⟩ := Source.Module.exists_counterpart he rfl
  have hname : d'.name = e.name := by
    cases d' with
    | enumDecl e' => exact hcounterpart
    | _ => cases hcounterpart
  have hfile : (a.assembleFile f).value ∈ (a.assemble s).value.files := by
    simpa [assemble] using ⟨f, hf, rfl⟩
  exact ⟨_, hfile, _, .self, d', hd', hname⟩

namespace Pipeline

theorem declares_run_iff (p : Pipeline) (s : Source.SourceSet) (n : Name) :
    (p.run s).value.Declares n ↔
      (p.assembler.assemble (Pass.applyAll p.passes s).run).value.Declares n ∧
        p.reserved.reserves n = false :=
  Model.SourceSet.declares_withoutReserved_iff p.reserved _ n

/-- No module at any depth declares a name that the registry reserves. -/
theorem not_declares_run {p : Pipeline} {n : Name} (hn : p.reserved.reserves n = true)
    (s : Source.SourceSet) : ¬ (p.run s).value.Declares n := by
  intro hdeclares
  rw [declares_run_iff, hn] at hdeclares
  cases hdeclares.2

/-- A name that is not reserved can be declared, whatever the settings are. -/
theorem declares_run_ofEnum {s : Settings} {n : Name}
    (hn : (ofSettings s).reserved.reserves n = false) :
    ((ofSettings s).run (.ofEnum n)).value.Declares n := by
  rw [declares_run_iff]
  refine ⟨?_, hn⟩
  -- A pass may put the marker into the file, but leaves the enumeration there.
  have hpasses : ∃ f ∈ (Pass.applyAll (ofSettings s).passes (.ofEnum n)).run.files,
      .enumDecl ⟨n, []⟩ ∈ f.root.declarations := by
    cases h : s.itemArrayLike with
    | false =>
      simp only [ofSettings, h]
      exact ⟨_, .head _, .head _⟩
    | true =>
      have hfile : _ ∈ (Source.SourceSet.ofEnum n).files := .head _
      obtain ⟨f, hf, hkept⟩ := ItemArrayLike.exists_mem_placeMarker s.libRootPackage hfile
      simp only [ofSettings, h]
      exact ⟨f, hf, hkept _ (.head _)⟩
  obtain ⟨f, hf, he⟩ := hpasses
  exact Assembler.declares_assemble _ hf he

/-- No module declares a name of the standard library, and an entry of the settings
keeps its name out of every module if and only if the registry enforces it. -/
theorem run_keeps_out (s : Settings) :
    (∀ set, ∀ n ∈ Model.Registry.platform.names,
        ¬ ((ofSettings s).run set).value.Declares n) ∧
      ∀ r ∈ s.reservedNames,
        (∀ set, ¬ ((ofSettings s).run set).value.Declares (.ofDotted r)) ↔
          (Model.Registry.withExtra s.reservedNames).Enforces (.ofDotted r) := by
  constructor
  · intro set n hn
    have hmem : n ∈ (ofSettings s).reserved.names :=
      Model.Registry.mem_names_withExtra.mpr (.inl hn)
    have henforces : (ofSettings s).reserved.Enforces n :=
      .inl (Model.Registry.leftMost_ne_libRoot_of_mem_platform hn)
    exact not_declares_run ((Model.Registry.reserves_eq_true_iff_of_mem hmem).mpr henforces) set
  · intro r hr
    have hmem : Name.ofDotted r ∈ (ofSettings s).reserved.names :=
      Model.Registry.mem_names_withExtra.mpr (.inr ⟨r, hr, rfl⟩)
    have hiff := Model.Registry.reserves_eq_true_iff_of_mem hmem
    constructor
    · intro hout
      refine hiff.mp ?_
      by_contra hreserves
      exact hout _ (declares_run_ofEnum (by simpa using hreserves))
    · intro henforces set
      exact not_declares_run (hiff.mpr henforces) set

/-- Settings with one entry under the library root and one elsewhere. -/
def twoEntries : Settings where
  libRootPackage := .ofDotted "<LIBROOT>.org.w3c.dom"
  workingDirectory := "/"
  reservedNames := ["<LIBROOT>.Foo", "api.Widget"]
  itemArrayLike := true

/-- The entry `api.Widget` keeps its name out, as its first segment is not the
library root. -/
theorem twoEntries_keeps_out_widget :
    "api.Widget" ∈ twoEntries.reservedNames ∧
      ∀ set, ¬ ((ofSettings twoEntries).run set).value.Declares (.ofDotted "api.Widget") := by
  have hmem : "api.Widget" ∈ twoEntries.reservedNames := by decide
  exact ⟨hmem, ((run_keeps_out twoEntries).2 "api.Widget" hmem).mpr (.inl (by decide))⟩

/-- The entry `<LIBROOT>.Foo` is accepted and has no effect: the registry is asked
for `Foo`. -/
theorem twoEntries_declares_foo :
    Config.resolve ⟨none, none, some twoEntries.reservedNames, none⟩ "/" = .ok twoEntries ∧
      ((ofSettings twoEntries).run (.ofEnum (.ofDotted "<LIBROOT>.Foo"))).value.Declares
        (.ofDotted "<LIBROOT>.Foo") :=
  ⟨by decide, declares_run_ofEnum (by decide)⟩

end Pipeline

end Bindings
