-- SUMMARY: A run over a set is put together from runs over its files, and reordering the files reorders the outcome.
import Mathlib.Data.List.FinRange
import Bindings.Pipeline
import Bindings.Proofs.Extension
import Bindings.Proofs.Reservation

/-!
# Runs file by file

The stages of the pipeline look at one file at a time, except for the search for the
file that gets the marker. If at most one file is of the root package, that search
has the same outcome for a file alone as for the file among others. The model of a set
then consists of the models of its files, each as if the file were run alone.
-/
namespace Bindings

namespace ItemArrayLike

open Source (File)

/-! ## Placing the marker in single files -/

/-- The file, with the marker if it is of the package. -/
def place (package : Name) (f : File) : File :=
  if f.package = package then withMarker f else f

/-- The file that is created for the marker. -/
def newFile (package : Name) : File := withMarker (.plain package.text (.plain package []))

theorem placeMarker_eq {package : Name} {fs : List File}
    (hone : (fs.countP fun f => f.package = package) ≤ 1) :
    placeMarker package fs = fs.map (place package) ++
      if ∃ f ∈ fs, f.package = package then [] else [newFile package] := by
  induction fs with
  | nil => simp [placeMarker, newFile]
  | cons f fs ih =>
    rw [placeMarker, List.map_cons]
    by_cases h : f.package = package
    · -- The other files are of other packages, and stay as they are.
      have hothers : (fs.countP fun f => f.package = package) = 0 := by
        rw [List.countP_cons_of_pos (by simpa using h)] at hone
        omega
      have hplace : ∀ g ∈ fs, place package g = id g := by
        intro g hg
        have hne : g.package ≠ package := by
          simpa using List.countP_eq_zero.mp hothers g hg
        exact if_neg hne
      have hmap : fs.map (place package) = fs := (List.map_congr_left hplace).trans fs.map_id
      rw [if_pos h, if_pos ⟨f, .head _, h⟩, hmap, place, if_pos h, List.append_nil]
    · rw [List.countP_cons_of_neg (by simpa using h)] at hone
      rw [if_neg h, ih hone, place, if_neg h, List.cons_append]
      simp [h]

/-- The package of a file is that of the file after the visits. -/
theorem exists_markedFile_iff (package : Name) (fs : List File) :
    (∃ f ∈ fs.map markedFile, f.package = package) ↔ ∃ f ∈ fs, f.package = package := by
  simp

theorem countP_markedFile (package : Name) (fs : List File) :
    ((fs.map markedFile).countP fun f => f.package = package) =
      fs.countP fun f => f.package = package := by
  rw [List.countP_map]
  simp [Function.comp_def]

end ItemArrayLike

namespace Pipeline

open Source (File)

/-! ## Runs over one file and over many -/

/-- Whether the run over the files is put together from the runs over each of them. -/
structure FileWise (p : Pipeline) (package : Name) (fs : List File) : Prop where
  source : ∀ (i : Nat) (f : File), fs[i]? = some f → ∃ f', (p.run ⟨fs⟩).value.files[i]? = some f' ∧
    (p.run ⟨[f]⟩).value.files.head? = some f'
  length : (p.run ⟨fs⟩).value.files.length =
    if ∃ f ∈ fs, f.package = package then fs.length else fs.length + 1
  created : (¬ ∃ f ∈ fs, f.package = package) → ∃ f', (p.run ⟨[]⟩).value.files = [f'] ∧
    (p.run ⟨fs⟩).value.files[fs.length]? = some f'
  concerns : (p.run ⟨fs⟩).concerns = fs.flatMap fun f => (p.run ⟨[f]⟩).concerns

/-- The files with the one at `σ i` in the place `i`. -/
def reordered (fs : List File) (σ : Equiv.Perm (Fin fs.length)) : List File :=
  List.ofFn (fs.get ∘ σ)

/-- Whether the run over the reordered files is the run over the files, reordered. A file
that is created stays the last one. -/
structure Reorders (p : Pipeline) (fs : List File) (σ : Equiv.Perm (Fin fs.length)) : Prop where
  source : ∀ i : Fin fs.length,
    (p.run ⟨reordered fs σ⟩).value.files[i.val]? = (p.run ⟨fs⟩).value.files[(σ i).val]?
  created : (p.run ⟨reordered fs σ⟩).value.files.drop fs.length =
    (p.run ⟨fs⟩).value.files.drop fs.length
  concerns : (p.run ⟨reordered fs σ⟩).concerns =
    (List.ofFn σ).flatMap fun i => (p.run ⟨[fs.get i]⟩).concerns

/-- What assembling and filtering make of a file. -/
def outcome (p : Pipeline) (f : File) : Model.File :=
  let f' := (p.assembler.assembleFile f).value
  { f' with root := f'.root.withoutReserved p.reserved }

theorem files_run (p : Pipeline) (s : Source.SourceSet) :
    (p.run s).value.files = (Pass.applyAll p.passes s).run.files.map p.outcome := by
  unfold run Model.SourceSet.withoutReserved Model.SourceSet.mapRoots
  rw [Reported.value_map, Assembler.files_assemble, List.map_map]
  rfl

/-- The model of a file that is run alone. -/
def fileModel (s : Settings) (f : File) : Model.File :=
  (ofSettings s).outcome (ItemArrayLike.place s.libRootPackage (ItemArrayLike.markedFile f))

/-- The model of the file that is created for the marker. -/
def newFileModel (s : Settings) : Model.File :=
  (ofSettings s).outcome (ItemArrayLike.newFile s.libRootPackage)

section Enabled

variable {s : Settings} (hpass : s.itemArrayLike = true)

include hpass

theorem applyAll_passes_ofSettings (set : Source.SourceSet) :
    (Pass.applyAll (ofSettings s).passes set).run =
      ((ItemArrayLike.pass s.libRootPackage : Pass Id).apply set).run := by
  unfold ofSettings
  rw [if_pos hpass]
  rfl

/-- Every file has its own model, in order, and a created file comes last. -/
theorem files_run_ofSettings {fs : List File}
    (hone : (fs.countP fun f => f.package = s.libRootPackage) ≤ 1) :
    ((ofSettings s).run ⟨fs⟩).value.files =
      fs.map (fileModel s) ++
        if ∃ f ∈ fs, f.package = s.libRootPackage then [] else [newFileModel s] := by
  rw [← ItemArrayLike.countP_markedFile] at hone
  rw [files_run, applyAll_passes_ofSettings hpass, ItemArrayLike.files_apply,
    ItemArrayLike.placeMarker_eq hone, List.map_append, List.map_map, List.map_map]
  simp only [ItemArrayLike.exists_markedFile_iff]
  congr 1
  split
  next => rfl
  next => rfl

/-- The concerns of a run are those of its files, however many are of the package. -/
theorem concerns_run_ofSettings (fs : List File) :
    ((ofSettings s).run ⟨fs⟩).concerns =
      fs.flatMap fun f => ItemArrayLike.extendedConcerns f.root := by
  unfold run
  rw [Reported.concerns_map, applyAll_passes_ofSettings hpass, Assembler.concerns_assemble]
  exact ItemArrayLike.concerns_apply s.libRootPackage ⟨fs⟩

theorem fileWise_ofSettings {fs : List File}
    (hone : (fs.countP fun f => f.package = s.libRootPackage) ≤ 1) :
    (ofSettings s).FileWise s.libRootPackage fs where
  source := by
    intro i f hf
    have hsingle : ([f].countP fun f => f.package = s.libRootPackage) ≤ 1 :=
      List.countP_le_length
    obtain ⟨hi, -⟩ := List.getElem?_eq_some_iff.mp hf
    refine ⟨fileModel s f, ?_, ?_⟩
    · rw [files_run_ofSettings hpass hone, List.getElem?_append_left (by simpa using hi),
        List.getElem?_map, hf]
      rfl
    · rw [files_run_ofSettings hpass hsingle]
      rfl
  length := by
    rw [files_run_ofSettings hpass hone, List.length_append, List.length_map]
    split
    next => rfl
    next => rfl
  created := by
    intro hnone
    have hempty : (([] : List File).countP fun f => f.package = s.libRootPackage) ≤ 1 :=
      Nat.zero_le 1
    refine ⟨newFileModel s, files_run_ofSettings hpass hempty, ?_⟩
    rw [files_run_ofSettings hpass hone, if_neg hnone,
      List.getElem?_append_right (by simp), List.length_map, Nat.sub_self]
    rfl
  concerns := by
    simp only [concerns_run_ofSettings hpass, List.flatMap_singleton]

omit hpass in
theorem perm_reordered (fs : List File) (σ : Equiv.Perm (Fin fs.length)) :
    (reordered fs σ).Perm fs := by
  have h := σ.ofFn_comp_perm fs.get
  rwa [List.ofFn_get] at h

theorem reorders_ofSettings {fs : List File}
    (hone : (fs.countP fun f => f.package = s.libRootPackage) ≤ 1)
    (σ : Equiv.Perm (Fin fs.length)) : (ofSettings s).Reorders fs σ := by
  have hperm := perm_reordered fs σ
  have hone' : ((reordered fs σ).countP fun f => f.package = s.libRootPackage) ≤ 1 := by
    rw [hperm.countP_eq]
    exact hone
  have hexists : (∃ f ∈ reordered fs σ, f.package = s.libRootPackage) ↔
      ∃ f ∈ fs, f.package = s.libRootPackage := by
    simp only [hperm.mem_iff]
  have hlength : ((reordered fs σ).map (fileModel s)).length = fs.length := by
    rw [List.length_map, hperm.length_eq]
  have hlength' : (fs.map (fileModel s)).length = fs.length := List.length_map _
  constructor
  case source =>
    intro i
    rw [files_run_ofSettings hpass hone', files_run_ofSettings hpass hone,
      List.getElem?_append_left (by rw [hlength]; exact i.isLt),
      List.getElem?_append_left (by rw [hlength']; exact (σ i).isLt)]
    simp [reordered]
  case created =>
    rw [files_run_ofSettings hpass hone', files_run_ofSettings hpass hone, List.drop_left' hlength,
      List.drop_left' hlength']
    simp only [hexists]
  case concerns =>
    simp only [concerns_run_ofSettings hpass, List.flatMap_singleton]
    rw [reordered, ← List.map_ofFn, List.flatMap_map]

end Enabled

/-- With the item-array-like pass alone, and at most one file of the root package, a run
over a set of files is put together from the runs over each of them, and runs over the
same files in another order differ in the order only. -/
theorem run_fileWise {s : Settings} (hpass : s.itemArrayLike = true) {fs : List File}
    (hone : (fs.countP fun f => f.package = s.libRootPackage) ≤ 1) :
    (ofSettings s).FileWise s.libRootPackage fs ∧ ∀ σ, (ofSettings s).Reorders fs σ :=
  ⟨fileWise_ofSettings hpass hone, reorders_ofSettings hpass hone⟩

/-- Two files, the second of which is of the root package of `twoEntries`. -/
def twoFiles : List File :=
  [.plain "a.idl" (.plain (.ident "names") [.importEquals ⟨"x", .ident "y"⟩]),
    .plain "b.idl" (.plain (.ofDotted "<LIBROOT>.org.w3c.dom")
      [.exportAssignment ⟨"z", true⟩])]

/-- Run in either order, the two files have the same models and concerns as alone. -/
theorem twoFiles_fileWise :
    twoEntries.itemArrayLike = true ∧
      (twoFiles.countP fun f => f.package = twoEntries.libRootPackage) ≤ 1 ∧
      (ofSettings twoEntries).FileWise twoEntries.libRootPackage twoFiles ∧
      (ofSettings twoEntries).Reorders twoFiles Fin.revPerm := by
  have hpass : twoEntries.itemArrayLike = true := rfl
  have hone : (twoFiles.countP fun f => f.package = twoEntries.libRootPackage) ≤ 1 := by decide
  have h := run_fileWise hpass hone
  exact ⟨hpass, hone, h.1, h.2 Fin.revPerm⟩

end Pipeline

end Bindings
