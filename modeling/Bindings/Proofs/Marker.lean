-- SUMMARY: How many markers a package declares before and after the pass, and when there is exactly one.
import Bindings.Pass.ItemArrayLike
import Bindings.Proofs.Walk

/-!
# Markers of a package

A package may be spread over several files. The pass looks at the first of them
only: it adds a marker unless that file declares one. So the package ends with
one marker exactly if it had none, or had its only one in the first file.
-/
namespace Bindings.ItemArrayLike

open Source (Scope Interface Decl Module File SourceSet)

/-! ## Counting markers -/

/-- Number of interfaces of the module that are named like the marker. -/
def markersIn (m : Module) : Nat := m.interfaces.countP fun i => i.name.isIdent markerName

/-- The interfaces in the root modules of all files of the package. -/
def interfacesOf (package : Name) (files : List File) : List Interface :=
  (files.filter fun f => f.package = package).flatMap fun f => f.root.interfaces

/-- Number of markers in the root modules of all files of the package. -/
def markerCount (package : Name) (files : List File) : Nat :=
  (interfacesOf package files).countP fun i => i.name.isIdent markerName

/-- Whether the first file of the package declares the marker. -/
def firstDeclares (package : Name) (files : List File) : Bool :=
  (files.find? fun f => f.package = package).any fun f => declaresMarker f.root

theorem markersIn_eq_zero_iff {m : Module} : markersIn m = 0 ↔ declaresMarker m = false := by
  simp [markersIn, declaresMarker, List.countP_eq_zero]

/-- A file of another package does not count. -/
theorem markerCount_cons_of_ne {package : Name} {f : File} {fs : List File}
    (h : f.package ≠ package) : markerCount package (f :: fs) = markerCount package fs := by
  simp [markerCount, interfacesOf, h]

theorem markerCount_cons_of_eq {package : Name} {f : File} {fs : List File}
    (h : f.package = package) :
    markerCount package (f :: fs) = markersIn f.root + markerCount package fs := by
  simp [markerCount, interfacesOf, markersIn, h]

theorem firstDeclares_cons_of_ne {package : Name} {f : File} {fs : List File}
    (h : f.package ≠ package) : firstDeclares package (f :: fs) = firstDeclares package fs := by
  simp [firstDeclares, h]

theorem firstDeclares_cons_of_eq {package : Name} {f : File} {fs : List File}
    (h : f.package = package) : firstDeclares package (f :: fs) = declaresMarker f.root := by
  simp [firstDeclares, h]

/-! ## Placing the marker -/

@[simp] theorem package_withMarker (f : File) : (withMarker f).package = f.package := by
  unfold withMarker
  split <;> rfl

theorem mem_declarations_withMarker {f : File} {d : Decl} (hd : d ∈ f.root.declarations) :
    d ∈ (withMarker f).root.declarations := by
  unfold withMarker
  split
  next => exact hd
  next => exact List.mem_append_left _ hd

/-- The file gets one marker more, unless it declares one already. -/
theorem markersIn_withMarker (f : File) :
    markersIn (withMarker f).root =
      markersIn f.root + if declaresMarker f.root then 0 else 1 := by
  unfold withMarker
  split
  next h => rfl
  next h =>
    have hmarker : marker.name.isIdent markerName = true := rfl
    simp [markersIn, Module.interfaces, List.filterMap_append, hmarker]

/-- One marker is added, to the first file of the package or in a new file, unless
the first file declares one. -/
theorem markerCount_placeMarker (package : Name) (files : List File) :
    markerCount package (placeMarker package files) =
      markerCount package files + if firstDeclares package files then 0 else 1 := by
  induction files with
  | nil =>
    have hpackage : (withMarker (.plain package.text (.plain package []))).package = package := by
      rw [package_withMarker]
      rfl
    rw [placeMarker, markerCount_cons_of_eq hpackage, markersIn_withMarker]
    rfl
  | cons f fs ih =>
    rw [placeMarker]
    split
    next h =>
      have hpackage : (withMarker f).package = package := by rw [package_withMarker, h]
      rw [markerCount_cons_of_eq hpackage, markerCount_cons_of_eq h, markersIn_withMarker,
        firstDeclares_cons_of_eq h]
      omega
    next h =>
      rw [markerCount_cons_of_ne h, markerCount_cons_of_ne h, firstDeclares_cons_of_ne h, ih]

/-- No declaration of a root module is lost. -/
theorem exists_mem_placeMarker (package : Name) {files : List File} {f : File}
    (hf : f ∈ files) :
    ∃ f' ∈ placeMarker package files, ∀ d ∈ f.root.declarations, d ∈ f'.root.declarations := by
  induction files with
  | nil => cases hf
  | cons g fs ih =>
    rw [placeMarker]
    split
    next =>
      cases hf with
      | head => exact ⟨_, .head _, fun d => mem_declarations_withMarker⟩
      | tail _ hf => exact ⟨f, .tail _ hf, fun d hd => hd⟩
    next =>
      cases hf with
      | head => exact ⟨_, .head _, fun d hd => hd⟩
      | tail _ hf =>
        obtain ⟨f', hf', hkept⟩ := ih hf
        exact ⟨f', .tail _ hf', hkept⟩

/-! ## The whole pass -/

theorem name_mark (i : Interface) : (mark i).name = i.name := by
  unfold mark
  split
  next => rfl
  next => split <;> rfl

/-- The visits of the pass rename nothing, so that no marker comes or goes. -/
theorem markersIn_walk (path : String) (m : Module) :
    markersIn (m.walk (fun _ i => (pure (mark i) : Id Interface)) path).run = markersIn m := by
  rw [markersIn, Module.interfaces_walk, List.countP_map]
  simp [markersIn, Function.comp_def, name_mark]

theorem declaresMarker_walk (path : String) (m : Module) :
    declaresMarker (m.walk (fun _ i => (pure (mark i) : Id Interface)) path).run =
      declaresMarker m := by
  rw [declaresMarker, Module.interfaces_walk, List.any_map]
  simp [declaresMarker, Function.comp_def, name_mark]

/-- Files can be changed one by one as long as each keeps its package and its number
of markers. -/
theorem markerCount_map {package : Name} {g : File → File} (files : List File)
    (hpackage : ∀ f, (g f).package = f.package)
    (hmarkers : ∀ f, markersIn (g f).root = markersIn f.root) :
    markerCount package (files.map g) = markerCount package files := by
  induction files with
  | nil => rfl
  | cons f fs ih =>
    rw [List.map_cons]
    by_cases h : f.package = package
    · rw [markerCount_cons_of_eq h, markerCount_cons_of_eq ((hpackage f).trans h), hmarkers, ih]
    · rw [markerCount_cons_of_ne h, markerCount_cons_of_ne (hpackage f ▸ h), ih]

theorem markerCount_apply (package : Name) (s : SourceSet) :
    markerCount package ((pass package : Pass Id).apply s).run.files =
      markerCount package s.files + if firstDeclares package s.files then 0 else 1 := by
  -- The walk comes first; it changes neither the count nor what the first file declares.
  have hcount : markerCount package (s.walk (pass package : Pass Id).visit).run.files =
      markerCount package s.files := by
    rw [SourceSet.files_walk]
    exact markerCount_map s.files (File.package_walk _) fun f => markersIn_walk f.path f.root
  have hfirst : firstDeclares package (s.walk (pass package : Pass Id).visit).run.files =
      firstDeclares package s.files := by
    rw [SourceSet.files_walk, firstDeclares, List.find?_map, Option.any_map]
    simp [firstDeclares, Function.comp_def, pass, declaresMarker_walk]
  rw [← hcount, ← hfirst]
  exact markerCount_placeMarker package _

/-- The first file of a package without markers does not declare one either. -/
theorem firstDeclares_eq_false_of_markerCount {package : Name} {files : List File}
    (h : markerCount package files = 0) : firstDeclares package files = false := by
  induction files with
  | nil => rfl
  | cons f fs ih =>
    by_cases hpackage : f.package = package
    · rw [markerCount_cons_of_eq hpackage] at h
      rw [firstDeclares_cons_of_eq hpackage]
      exact markersIn_eq_zero_iff.mp (Nat.eq_zero_of_add_eq_zero_right h)
    · rw [markerCount_cons_of_ne hpackage] at h
      rw [firstDeclares_cons_of_ne hpackage]
      exact ih h

/-- The pass leaves a package with exactly one marker if and only if it declared
none before, or a single one that stands in the first of its files. -/
theorem markerCount_apply_eq_one_iff (package : Name) (s : SourceSet) :
    markerCount package ((pass package : Pass Id).apply s).run.files = 1 ↔
      markerCount package s.files = 0 ∨
        markerCount package s.files = 1 ∧ firstDeclares package s.files = true := by
  rw [markerCount_apply]
  cases hfirst : firstDeclares package s.files with
  | false => simp
  | true =>
    have hne : markerCount package s.files ≠ 0 := by
      intro h
      rw [firstDeclares_eq_false_of_markerCount h] at hfirst
      cases hfirst
    simp [hne]

/-- Two files of one package, the second of which declares the marker. -/
def laterMarker : SourceSet :=
  ⟨[.plain "a.idl" (.plain (.ident "dom") []),
    .plain "b.idl" (.plain (.ident "dom") [.interfaceDecl (.plain (.ident markerName) [])])]⟩

/-- A marker in a later file of the package is not seen, and a second one is added. -/
theorem markerCount_laterMarker :
    markerCount (.ident "dom") laterMarker.files = 1 ∧
      markerCount (.ident "dom") ((pass (.ident "dom") : Pass Id).apply laterMarker).run.files =
        2 := by
  constructor <;> decide

end Bindings.ItemArrayLike
