-- SUMMARY: An item-array-like pass that has run once is absorbed by all later ones, whatever their root packages are.
import Bindings.Proofs.Extension
import Bindings.Proofs.Visits

/-!
# Absorbed passes

After a pass every collection is marked and the first file of the root package
declares the marker. A pass for another package keeps both: it changes no interface,
it renames no file, and the file that it may add stands behind all others. So the
first pass would find nothing left to do, now or after any number of later passes.
-/
namespace Bindings.ItemArrayLike

open Source (Scope Interface Decl Module File SourceSet)

/-! ## Marking -/

theorem mark_of_isMarked {i : Interface} (h : isMarked i = true) : mark i = i := by
  unfold mark
  rw [if_pos h]

/-- The added parent is written like the marker, and counts as such. -/
theorem isMarked_withParent (i : Interface) (item : Source.Ty) :
    isMarked { i with parents := i.parents ++ [.ofName (.ident markerName) [item]] } = true := by
  simp [isMarked, Source.Heritage.ofName, Source.Heritage.refersTo, Name.text]

theorem mark_mark (i : Interface) : mark (mark i) = mark i := by
  cases hmarked : isMarked i with
  | true => rw [mark_of_isMarked hmarked, mark_of_isMarked hmarked]
  | false =>
    cases hitem : itemType? i with
    | none =>
      have hmark : mark i = i := by
        unfold mark
        simp [hmarked, hitem]
      rw [hmark, hmark]
    | some item =>
      have hmark : mark i = { i with parents :=
          i.parents ++ [.ofName (.ident markerName) [item.nonNullable]] } := by
        unfold mark
        simp [hmarked, hitem]
      rw [hmark]
      exact mark_of_isMarked (isMarked_withParent i item.nonNullable)

/-- The marker is not a collection of its own. -/
theorem mark_marker : mark marker = marker := mark_of_isMarked rfl

/-! ## Marked files -/

theorem markedFile_markedFile (f : File) : markedFile (markedFile f) = markedFile f := by
  have h : Source.andThen (fun _ i => (pure (mark i) : Id Interface))
      (fun _ i => (pure (mark i) : Id Interface)) = fun _ i => (pure (mark i) : Id Interface) := by
    funext scope i
    exact mark_mark i
  unfold markedFile
  rw [File.walk_walk, h]

theorem markedModule_eq (path : String) (m : Module) :
    markedModule path m =
      { m with declarations := m.declarations.map (markedDecl ⟨path, m.package⟩) } := by
  rw [← declarations_markedModule]
  obtain ⟨package, declarations, qualifier, binding⟩ := m
  rfl

/-- The visits pass over a marker at the end of a module. -/
theorem markedModule_snoc (path : String) (m : Module) :
    markedModule path { m with declarations := m.declarations ++ [.interfaceDecl marker] } =
      { markedModule path m with
        declarations := (markedModule path m).declarations ++ [.interfaceDecl marker] } := by
  have hmarker (scope : Scope) :
      markedDecl scope (.interfaceDecl marker) = .interfaceDecl marker :=
    congrArg Decl.interfaceDecl mark_marker
  rw [markedModule_eq, markedModule_eq, List.map_append, List.map_singleton, hmarker]

theorem withMarker_of_declares {f : File} (h : declaresMarker f.root = true) :
    withMarker f = f := by
  unfold withMarker
  rw [if_pos h]

/-- It makes no difference whether the marker is added before the visits or after them. -/
theorem markedFile_withMarker (f : File) :
    markedFile (withMarker f) = withMarker (markedFile f) := by
  by_cases h : declaresMarker f.root = true
  · have hmarked := (declaresMarker_markedFile f).trans h
    rw [withMarker_of_declares h, withMarker_of_declares hmarked]
  · have hmarked : ¬ declaresMarker (markedFile f).root = true := by
      rwa [declaresMarker_markedFile]
    have hroot := markedModule_snoc f.path f.root
    unfold withMarker
    rw [if_neg h, if_neg hmarked]
    exact congrArg (fun root => File.mk f.path root f.references) hroot

/-- A file that is created for the marker has nothing else to be visited. -/
theorem markedFile_plain (path : String) (package : Name) :
    markedFile (.plain path (.plain package [])) = .plain path (.plain package []) := rfl

theorem map_markedFile_placeMarker (package : Name) (fs : List File) :
    (placeMarker package fs).map markedFile = placeMarker package (fs.map markedFile) := by
  induction fs with
  | nil =>
    rw [placeMarker, List.map_singleton, markedFile_withMarker, markedFile_plain]
    rfl
  | cons f fs ih =>
    rw [placeMarker, List.map_cons, placeMarker, package_markedFile]
    split
    next => rw [List.map_cons, markedFile_withMarker]
    next => rw [List.map_cons, ih]

/-! ## The file with the marker -/

theorem declaresMarker_withMarker (f : File) : declaresMarker (withMarker f).root = true := by
  by_cases h : declaresMarker f.root = true
  · rwa [withMarker_of_declares h]
  · have hcount := markersIn_withMarker f
    rw [if_neg h] at hcount
    rw [← Bool.not_eq_false, ← markersIn_eq_zero_iff]
    omega

theorem placeMarker_of_firstDeclares {package : Name} {fs : List File}
    (h : firstDeclares package fs = true) : placeMarker package fs = fs := by
  induction fs with
  | nil => cases h
  | cons f fs ih =>
    rw [placeMarker]
    split
    next hpackage =>
      rw [firstDeclares_cons_of_eq hpackage] at h
      rw [withMarker_of_declares h]
    next hpackage =>
      rw [firstDeclares_cons_of_ne hpackage] at h
      rw [ih h]

theorem firstDeclares_placeMarker (package : Name) (fs : List File) :
    firstDeclares package (placeMarker package fs) = true := by
  induction fs with
  | nil =>
    have hpackage : (withMarker (.plain package.text (.plain package []))).package = package := by
      rw [package_withMarker]
      rfl
    rw [placeMarker, firstDeclares_cons_of_eq hpackage]
    exact declaresMarker_withMarker _
  | cons f fs ih =>
    rw [placeMarker]
    split
    next hpackage =>
      rw [firstDeclares_cons_of_eq ((package_withMarker f).trans hpackage)]
      exact declaresMarker_withMarker f
    next hpackage =>
      rw [firstDeclares_cons_of_ne hpackage]
      exact ih

/-- Placing a marker for another package keeps the first file of a package the first,
and its marker. -/
theorem firstDeclares_placeMarker_of_firstDeclares (other : Name) {package : Name}
    {fs : List File} (h : firstDeclares package fs = true) :
    firstDeclares package (placeMarker other fs) = true := by
  induction fs with
  | nil => cases h
  | cons f fs ih =>
    rw [placeMarker]
    by_cases hpackage : f.package = package
    · have hdeclares := h
      rw [firstDeclares_cons_of_eq hpackage] at hdeclares
      -- The first file declares the marker, so that it does not change even if it is of
      -- both packages.
      split
      next => rwa [withMarker_of_declares hdeclares, firstDeclares_cons_of_eq hpackage]
      next => rwa [firstDeclares_cons_of_eq hpackage]
    · rw [firstDeclares_cons_of_ne hpackage] at h
      split
      next =>
        have hwith : (withMarker f).package ≠ package := by rwa [package_withMarker]
        rwa [firstDeclares_cons_of_ne hwith]
      next =>
        rw [firstDeclares_cons_of_ne hpackage]
        exact ih h

/-! ## Settled sets -/

/-- Whether the pass for the package has nothing left to do. -/
structure Settled (package : Name) (s : SourceSet) : Prop where
  marked : s.files.map markedFile = s.files
  declares : firstDeclares package s.files = true

theorem apply_of_settled {package : Name} {s : SourceSet} (h : Settled package s) :
    ((pass package : Pass Id).apply s).run = s := by
  have hfiles := files_apply package s
  rw [h.marked, placeMarker_of_firstDeclares h.declares] at hfiles
  exact congrArg SourceSet.mk hfiles

theorem marked_apply (package : Name) (s : SourceSet) :
    ((pass package : Pass Id).apply s).run.files.map markedFile =
      ((pass package : Pass Id).apply s).run.files := by
  rw [files_apply, map_markedFile_placeMarker, List.map_map]
  simp only [Function.comp_def, markedFile_markedFile]

/-- A pass settles the set for its own package. -/
theorem settled_apply (package : Name) (s : SourceSet) :
    Settled package ((pass package : Pass Id).apply s).run where
  marked := marked_apply package s
  declares := by
    rw [files_apply]
    exact firstDeclares_placeMarker package _

/-- A pass for any package keeps the set settled for a package. -/
theorem Settled.apply {package : Name} {s : SourceSet} (h : Settled package s) (other : Name) :
    Settled package ((pass other : Pass Id).apply s).run where
  marked := marked_apply other s
  declares := by
    rw [files_apply, h.marked]
    exact firstDeclares_placeMarker_of_firstDeclares other h.declares

/-! ## Chains -/

/-- The passes for the packages, in order. -/
def passes (packages : List Name) : List (Pass Id) := packages.map fun package => pass package

theorem Settled.applyAll {package : Name} {s : SourceSet} (h : Settled package s)
    (packages : List Name) : Settled package (Pass.applyAll (passes packages) s).run := by
  induction packages generalizing s with
  | nil => exact h
  | cons other packages ih => exact ih (h.apply other)

theorem settled_applyAll {package : Name} {packages : List Name} (h : package ∈ packages)
    (s : SourceSet) : Settled package (Pass.applyAll (passes packages) s).run := by
  induction h generalizing s with
  | head packages => exact (settled_apply package s).applyAll packages
  | tail other _ ih => exact ih _

theorem applyAll_append (ps qs : List (Pass Id)) (s : SourceSet) :
    (Pass.applyAll (ps ++ qs) s).run = (Pass.applyAll qs (Pass.applyAll ps s).run).run := by
  induction ps generalizing s with
  | nil => rfl
  | cons p ps ih => exact ih (p.apply s).run

/-- A pass that is run again after passes that contain it changes nothing. -/
theorem applyAll_absorbs {package : Name} {packages : List Name} (h : package ∈ packages)
    (s : SourceSet) :
    (Pass.applyAll (passes packages ++ [pass package]) s).run =
        (Pass.applyAll (passes packages) s).run ∧
      ((pass package : Pass Id).apply ((pass package : Pass Id).apply s).run).run =
        ((pass package : Pass Id).apply s).run := by
  constructor
  · rw [applyAll_append]
    exact apply_of_settled (settled_applyAll h s)
  · exact apply_of_settled (settled_apply package s)

/-- A package with two files, the first of which declares a collection and the second
the marker. -/
def spreadPackage : SourceSet :=
  ⟨[.plain "a.idl" (.plain (.ident "dom")
      [.interfaceDecl (.plain (.ident "NodeList") marker.members)]),
    .plain "b.idl" (.plain (.ident "dom") [.interfaceDecl (.plain (.ident markerName) [])])]⟩

/-- The pass for another package adds a file and leaves nothing to do for the first one. -/
theorem spreadPackage_absorbs :
    Name.ident "dom" ∈ [Name.ident "dom", .ident "svg"] ∧
      (Pass.applyAll (passes [.ident "dom", .ident "svg"] ++ [pass (.ident "dom")])
          spreadPackage).run =
        (Pass.applyAll (passes [.ident "dom", .ident "svg"]) spreadPackage).run ∧
      ((pass (.ident "dom") : Pass Id).apply
          ((pass (.ident "dom") : Pass Id).apply spreadPackage).run).run =
        ((pass (.ident "dom") : Pass Id).apply spreadPackage).run := by
  have hmem : Name.ident "dom" ∈ [Name.ident "dom", .ident "svg"] := by decide
  exact ⟨hmem, applyAll_absorbs hmem spreadPackage⟩

end Bindings.ItemArrayLike
