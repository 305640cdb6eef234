-- SUMMARY: The models of a source set with and without the item-array-like pass: one more parent here and there, and the marker.
import Bindings.Assembly
import Bindings.Proofs.Collections
import Bindings.Proofs.Contents
import Bindings.Proofs.Marker

/-!
# What the pass adds to a model

The pass changes a source set before its model is built. `FilesExtend` compares the
model that comes out with the model of the set as it was: interfaces that gain a
parent have one more parent at the end, the first file of the root package has the
marker at the end of its root module, or a new file with the marker stands behind
all others. Nothing else is different.
-/
namespace Bindings

/-! ## Three lists -/

/-- Whether the relation holds of three lists of one length, element by element. -/
inductive Forall₃ {α β γ : Type} (R : α → β → γ → Prop) : List α → List β → List γ → Prop
  | nil : Forall₃ R [] [] []
  | cons {a : α} {as : List α} {b : β} {bs : List β} {c : γ} {cs : List γ}
      (head : R a b c) (tail : Forall₃ R as bs cs) :
      Forall₃ R (a :: as) (b :: bs) (c :: cs)

theorem Forall₃.map {α β γ : Type} {R : α → β → γ → Prop} {f : α → β} {g : α → γ} {as : List α}
    (h : ∀ a ∈ as, R a (f a) (g a)) : Forall₃ R as (as.map f) (as.map g) := by
  induction as with
  | nil => exact .nil
  | cons a as ih =>
    refine .cons (h a (.head _)) (ih ?_)
    intro b hb
    exact h b (.tail _ hb)

namespace ItemArrayLike

open Source (Scope Interface Decl Module File SourceSet)

/-! ## The relation -/

/-- The model of a declaration with the parent that an interface gains. -/
def extendedDecl : Decl → Model.Decl → Model.Decl
  | .interfaceDecl i, .interfaceDecl off => .interfaceDecl (extendedInterface i off)
  | _, off => off

/-- Whether two models of a module differ by the parents that interfaces gain, at any
depth. -/
inductive ModuleExtends : Module → Model.Module → Model.Module → Prop
  | intro {m : Module} {off on : Model.Module}
      (others : on = { off with declarations := on.declarations, submodules := on.submodules })
      (declarations :
        Forall₃ (fun d off on => on = extendedDecl d off) (m.declarations.filter Decl.isDeclared)
          off.declarations on.declarations)
      (submodules : Forall₃ ModuleExtends m.nested off.submodules on.submodules) :
      ModuleExtends m off on

/-- Whether two models of a file differ by the parents that interfaces gain, and by
declarations added at the end of the root module. -/
structure FileExtends (added : List Model.Decl) (f : File) (off on : Model.File) : Prop where
  path : on.path = off.path
  references : on.references = off.references
  root : ∃ root, ModuleExtends f.root off.root root ∧
    on.root = { root with declarations := root.declarations ++ added }

/-- `interface ItemArrayLike<T> { val length: unsignedlong; operator fun item(index:
unsignedlong): T? }`, as it stands in a model. -/
def markerModel : Model.Interface where
  name := .ident "ItemArrayLike"
  members := [
    .property {
      name := "length"
      ty := .ref (.simple (.ident "unsignedlong"))
      typeParams := []
      isStatic := false
      isOverride := false
      readonly := true
      isOpen := false
      definedExternally := true },
    .method {
      name := "item"
      params := [⟨"index", .ref (.simple (.ident "unsignedlong")), none, false, false⟩]
      ty := .ref ⟨.ident "T", [], none, true⟩
      typeParams := []
      isStatic := false
      isOverride := false
      isOperator := true
      annotations := []
      isOpen := false
      definedExternally := true }]
  companion := .ofMembers []
  typeParams := [⟨.ident "T", []⟩]
  parents := []
  annotations := [⟨"NoInterfaceObject", []⟩]

theorem toModel_marker : marker.toModel = ⟨markerModel, []⟩ := rfl

/-- The model of the marker, unless the root module declares an interface of its name. -/
def addedMarker (m : Module) : List Model.Decl :=
  if ∃ i ∈ m.interfaces, i.name = .ident "ItemArrayLike" then []
  else [.interfaceDecl markerModel]

/-- The model of a file that declares nothing but the marker. -/
def createdFile (a : Assembler) (package : Name) : Model.File where
  path := (a.absolutePath package.text).text
  root := {
    qualifier := none
    name := package
    shortName := .ident package.rightMost
    declarations := [.interfaceDecl markerModel]
    annotations := []
    submodules := []
    imports := [] }
  references := []

/-- Whether two models of files differ by what the pass adds: the marker stands in the
first file of the package, or in a new file after all others. -/
inductive FilesExtend (a : Assembler) (package : Name) :
    List File → List Model.File → List Model.File → Prop
  | created : FilesExtend a package [] [] [createdFile a package]
  | first {f : File} {fs : List File} {off on : Model.File} {offs ons : List Model.File}
      (inPackage : f.package = package)
      (head : FileExtends (addedMarker f.root) f off on)
      (tail : Forall₃ (FileExtends []) fs offs ons) :
      FilesExtend a package (f :: fs) (off :: offs) (on :: ons)
  | other {f : File} {fs : List File} {off on : Model.File} {offs ons : List Model.File}
      (notInPackage : f.package ≠ package)
      (head : FileExtends [] f off on)
      (tail : FilesExtend a package fs offs ons) :
      FilesExtend a package (f :: fs) (off :: offs) (on :: ons)

mutual

/-- The concerns of a module where each interface that gains a parent reports the type
of its items once more, after everything else. -/
def extendedConcerns : Module → List Concern
  | ⟨_, declarations, _, _⟩ => allExtendedConcerns declarations

def declExtendedConcerns : Decl → List Concern
  | .interfaceDecl i => i.concerns ++ addedConcerns i
  | .moduleDecl m => extendedConcerns m
  | d => d.concerns

def allExtendedConcerns : List Decl → List Concern
  | [] => []
  | d :: ds => declExtendedConcerns d ++ allExtendedConcerns ds

end

/-! ## Modules -/

/-- A module of the file `path` after the visits of the pass. -/
def markedModule (path : String) (m : Module) : Module :=
  (m.walk (fun _ i => (pure (mark i) : Id Interface)) path).run

def markedDecl (scope : Scope) (d : Decl) : Decl :=
  (d.walk (fun _ i => (pure (mark i) : Id Interface)) scope).run

theorem declarations_markedModule (path : String) (m : Module) :
    (markedModule path m).declarations = m.declarations.map (markedDecl ⟨path, m.package⟩) :=
  Module.declarations_walk _ path m

theorem nested_markedModule (path : String) (m : Module) :
    (markedModule path m).nested = m.nested.map (markedModule path) := by
  unfold Module.nested
  rw [declarations_markedModule, List.filterMap_map, List.map_filterMap]
  congr 1
  funext d
  cases d <;> rfl

theorem isDeclared_markedDecl (scope : Scope) (d : Decl) :
    (markedDecl scope d).isDeclared = d.isDeclared := by
  cases d <;> rfl

theorem declared_markedDecl (scope : Scope) {d : Decl} (hd : d.isDeclared = true) :
    ∃ d', d.declared = [d'] ∧ (markedDecl scope d).declared = [extendedDecl d d'] := by
  cases d with
  | interfaceDecl i =>
    refine ⟨.interfaceDecl i.toModel.value, rfl, ?_⟩
    show [Model.Decl.interfaceDecl (mark i).toModel.value] = _
    rw [value_toModel_mark]
    rfl
  | aliasDecl a => exact ⟨_, Decl.declared_aliasDecl hd, Decl.declared_aliasDecl hd⟩
  | moduleDecl m => cases hd
  | importEquals i => cases hd
  | exportAssignment e => cases hd
  | _ => exact ⟨_, rfl, rfl⟩

theorem forall₃_declared (scope : Scope) (ds : List Decl) :
    Forall₃ (fun d off on => on = extendedDecl d off) (ds.filter Decl.isDeclared)
      (ds.flatMap Decl.declared) ((ds.map (markedDecl scope)).flatMap Decl.declared) := by
  induction ds with
  | nil => exact .nil
  | cons d ds ih =>
    rw [List.map_cons, List.flatMap_cons, List.flatMap_cons]
    cases hd : d.isDeclared with
    | false =>
      -- What has no model without the pass has none with it either.
      rw [List.filter_cons_of_neg (by simp [hd]), Decl.declared_of_not_isDeclared hd,
        Decl.declared_of_not_isDeclared ((isDeclared_markedDecl scope d).trans hd)]
      exact ih
    | true =>
      obtain ⟨d', hoff, hon⟩ := declared_markedDecl scope hd
      rw [List.filter_cons_of_pos hd, hoff, hon]
      exact .cons rfl ih

theorem extends_markedModule (path : String) (m : Module) :
    ModuleExtends m m.toModel.value (markedModule path m).toModel.value := by
  induction m using Module.induct with
  | step m ih =>
    refine .intro ?_ ?_ ?_
    · obtain ⟨package, declarations, qualifier, binding⟩ := m
      rfl
    · rw [Module.declarations_toModel, Module.declarations_toModel, declarations_markedModule]
      exact forall₃_declared _ m.declarations
    · rw [Module.submodules_toModel, Module.submodules_toModel, nested_markedModule, List.map_map]
      exact .map ih

mutual

theorem concerns_markedModule (path : String) (m : Module) :
    (markedModule path m).concerns = extendedConcerns m := by
  obtain ⟨package, declarations, qualifier, binding⟩ := m
  have hwalk := Decl.walkAll_eq_map (fun _ i => (pure (mark i) : Id Interface)) ⟨path, package⟩
    declarations
  have hdecls := concerns_markedDecls ⟨path, package⟩ declarations
  rw [extendedConcerns, ← hdecls]
  exact congrArg Decl.allConcerns hwalk

private theorem concerns_markedDecl (scope : Scope) (d : Decl) :
    (markedDecl scope d).concerns = declExtendedConcerns d := by
  cases d with
  | interfaceDecl i => exact concerns_mark i
  | moduleDecl m => exact concerns_markedModule scope.path m
  | _ => rfl

private theorem concerns_markedDecls (scope : Scope) (ds : List Decl) :
    Decl.allConcerns (ds.map (markedDecl scope)) = allExtendedConcerns ds := by
  cases ds with
  | nil => rfl
  | cons d ds =>
    have hd := concerns_markedDecl scope d
    have hds := concerns_markedDecls scope ds
    rw [List.map_cons, Decl.allConcerns, hd, hds, allExtendedConcerns]

end

/-! ## Files -/

/-- A file after the visits of the pass. -/
def markedFile (f : File) : File :=
  (f.walk fun _ i => (pure (mark i) : Id Interface)).run

@[simp] theorem package_markedFile (f : File) : (markedFile f).package = f.package :=
  File.package_walk _ f

/-- The visits rename nothing, so that a file declares the marker or not as before them. -/
theorem declaresMarker_markedFile (f : File) :
    declaresMarker (markedFile f).root = declaresMarker f.root :=
  declaresMarker_walk f.path f.root

theorem files_apply (package : Name) (s : SourceSet) :
    ((pass package : Pass Id).apply s).run.files =
      placeMarker package (s.files.map markedFile) := by
  unfold markedFile
  rw [← SourceSet.files_walk]
  rfl

theorem declaresMarker_iff (m : Module) :
    declaresMarker m = true ↔ ∃ i ∈ m.interfaces, i.name = .ident "ItemArrayLike" := by
  unfold declaresMarker markerName
  simp only [List.any_eq_true, Name.isIdent_iff]

/-- The model of a module with one interface more at the end. -/
theorem value_toModel_snoc (m : Module) (i : Interface) :
    ({ m with declarations := m.declarations ++ [.interfaceDecl i] } : Module).toModel.value =
      { m.toModel.value with
        declarations := m.toModel.value.declarations ++ [.interfaceDecl i.toModel.value] } := by
  rw [Module.value_toModel, Module.value_toModel, Decl.value_allContents_append]
  show Model.Module.mk _ _ _ _ _ (_ ++ []) _ = _
  rw [List.append_nil]
  rfl

theorem root_withMarker (f : File) :
    (withMarker f).root.toModel.value = { f.root.toModel.value with
      declarations := f.root.toModel.value.declarations ++ addedMarker f.root } := by
  unfold withMarker addedMarker
  by_cases h : declaresMarker f.root = true
  · rw [if_pos h, if_pos ((declaresMarker_iff f.root).mp h), List.append_nil,
      Module.value_toModel]
  · rw [if_neg h, if_neg (mt (declaresMarker_iff f.root).mpr h), value_toModel_snoc,
      toModel_marker]

theorem addedMarker_markedFile (f : File) :
    addedMarker (markedFile f).root = addedMarker f.root := by
  unfold addedMarker
  simp only [← declaresMarker_iff, declaresMarker_markedFile]

theorem withMarker_kept (f : File) :
    (withMarker f).path = f.path ∧ (withMarker f).references = f.references := by
  unfold withMarker
  split
  next => exact ⟨rfl, rfl⟩
  next => exact ⟨rfl, rfl⟩

theorem extends_markedFile (a : Assembler) (f : File) :
    FileExtends [] f (a.assembleFile f).value (a.assembleFile (markedFile f)).value where
  path := rfl
  references := rfl
  root := by
    refine ⟨_, extends_markedModule f.path f.root, ?_⟩
    rw [List.append_nil, Module.value_toModel]
    exact Module.value_toModel (markedModule f.path f.root)

theorem extends_withMarker (a : Assembler) (f : File) :
    FileExtends (addedMarker f.root) f (a.assembleFile f).value
      (a.assembleFile (withMarker (markedFile f))).value := by
  obtain ⟨hpath, hreferences⟩ := withMarker_kept (markedFile f)
  have hroot := root_withMarker (markedFile f)
  rw [addedMarker_markedFile] at hroot
  refine ⟨?_, ?_, _, extends_markedModule f.path f.root, hroot⟩
  · show (a.absolutePath (withMarker (markedFile f)).path).text = (a.absolutePath f.path).text
    rw [hpath]
    rfl
  · show ((withMarker (markedFile f)).references.map fun r =>
      (Assembler.referencePath (a.absolutePath (withMarker (markedFile f)).path) r).text) = _
    rw [hpath, hreferences]
    rfl

theorem extends_placeMarker (a : Assembler) (package : Name) (fs : List File) :
    FilesExtend a package fs (fs.map fun f => (a.assembleFile f).value)
      ((placeMarker package (fs.map markedFile)).map fun f => (a.assembleFile f).value) := by
  induction fs with
  | nil => exact .created
  | cons f fs ih =>
    rw [List.map_cons, List.map_cons, placeMarker, package_markedFile]
    split
    next h =>
      refine .first h (extends_withMarker a f) ?_
      rw [List.map_map]
      exact .map fun f _ => extends_markedFile a f
    next h => exact .other h (extends_markedFile a f) ih

/-! ## Concerns -/

/-- The marker has nothing that could be reported. -/
theorem concerns_withMarker (f : File) : (withMarker f).concerns = f.concerns := by
  unfold withMarker
  split
  next => rfl
  next =>
    obtain ⟨path, ⟨package, declarations, qualifier, binding⟩, references⟩ := f
    show Decl.allConcerns (declarations ++ [.interfaceDecl marker]) = _
    rw [Decl.allConcerns_append]
    exact List.append_nil _

theorem concerns_placeMarker (package : Name) (fs : List File) :
    (placeMarker package fs).flatMap File.concerns = fs.flatMap File.concerns := by
  induction fs with
  | nil =>
    rw [placeMarker, List.flatMap_singleton, concerns_withMarker]
    rfl
  | cons f fs ih =>
    rw [placeMarker]
    split
    next => rw [List.flatMap_cons, List.flatMap_cons, concerns_withMarker]
    next => rw [List.flatMap_cons, List.flatMap_cons, ih]

theorem concerns_apply (package : Name) (s : SourceSet) :
    ((pass package : Pass Id).apply s).run.concerns =
      s.files.flatMap fun f => extendedConcerns f.root := by
  unfold SourceSet.concerns
  rw [files_apply, concerns_placeMarker, List.flatMap_map]
  congr 1
  funext f
  exact concerns_markedModule f.path f.root

/-! ## Source sets -/

open Assembler (files_assemble)

/-- Assembling a set after the pass gives the model of the set itself with what the
pass adds: to a collection without the marker a parent with the type of its items, to
the root package the marker. The concerns are those of the set with those of the type
of the items once more behind each such collection. -/
theorem assemble_apply_extends (a : Assembler) (package : Name) (s : SourceSet) :
    FilesExtend a package s.files (a.assemble s).value.files
        (a.assemble ((pass package : Pass Id).apply s).run).value.files ∧
      (a.assemble s).concerns = s.concerns ∧
      (a.assemble ((pass package : Pass Id).apply s).run).concerns =
        (s.files.flatMap fun f => extendedConcerns f.root) ∧
      ∀ i g, gain? i = some g ↔ Gains i g := by
  refine ⟨?_, a.concerns_assemble s, ?_, gain?_eq_some_iff⟩
  · rw [files_assemble, files_assemble, files_apply]
    exact extends_placeMarker a package s.files
  · rw [Assembler.concerns_assemble]
    exact concerns_apply package s

end ItemArrayLike

end Bindings
