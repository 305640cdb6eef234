-- SUMMARY: Texts with one normal form are the same path everywhere: as working directory, as file path and as reference.
import Mathlib.Data.List.Forall2
import Mathlib.Data.Option.Defs
import Bindings.Pipeline
import Bindings.Proofs.Extension
import Bindings.Proofs.References
import Bindings.Proofs.Validity

/-!
# Paths spelled in several ways

Two texts are equivalent if they have one normal form. Joining respects this on both
sides, so that a resolved path does not depend on how the working directory or the path
itself was spelled. `SourceSet.Respelled` holds of sets that differ in the spelling of
paths only; they have the same model. A pass could tell them apart, since a visit sees
the path of its file. The item-array-like pass does not look at it.

The normal form of `.` is the empty text, which no configuration accepts for its working
directory. So configurations are compared where both are accepted.
-/
namespace Bindings

/-! ## Equivalent paths -/

namespace Path

/-- Whether two texts have one normal form. -/
def Equivalent (s t : String) : Prop := normalText s = normalText t

instance (s t : String) : Decidable (Equivalent s t) :=
  inferInstanceAs (Decidable (normalText s = normalText t))

theorem Equivalent.refl (s : String) : Equivalent s s := rfl

theorem equivalent_normalText (s : String) : Equivalent s (normalText s) :=
  (normalText_normalText s).symm

theorem Equivalent.normal_ofText {s t : String} (h : Equivalent s t) :
    (ofText s).normal = (ofText t).normal := by
  rw [← ofText_normalText, ← ofText_normalText, h]

/-- The normal form of joined paths depends on the normal forms of both. -/
theorem normal_join_congr {p p' q q' : Path} (hp : p.normal = p'.normal)
    (hq : q.normal = q'.normal) : (p.join q).normal = (p'.join q').normal := by
  rw [← normal_join_normal p, ← normal_join_normal p', hp, ← normal_join_normal_right _ q,
    ← normal_join_normal_right _ q', hq]

theorem Equivalent.joinText {base base' s s' : String} (hbase : Equivalent base base')
    (hs : Equivalent s s') : Equivalent (joinText base s) (joinText base' s') := by
  have h := normal_join_congr hbase.normal_ofText hs.normal_ofText
  rw [← ofText_joinText, ← ofText_joinText] at h
  exact congrArg text h

end Path

open Bindings.Path (Equivalent)

/-! ## Respelled sets -/

namespace Source

/-- Whether two files differ in the spelling of their paths only. -/
structure File.Respelled (f g : File) : Prop where
  path : Equivalent f.path g.path
  root : f.root = g.root
  references : List.Forall₂ Equivalent f.references g.references

def SourceSet.Respelled (s t : SourceSet) : Prop := List.Forall₂ File.Respelled s.files t.files

theorem File.Respelled.refl (f : File) : f.Respelled f :=
  ⟨.refl f.path, rfl, List.forall₂_same.mpr fun r _ => .refl r⟩

/-- The file with normal forms for its path and its references. -/
def File.normal (f : File) : File :=
  { f with path := Path.normalText f.path, references := f.references.map Path.normalText }

def SourceSet.normal (s : SourceSet) : SourceSet := ⟨s.files.map File.normal⟩

theorem File.respelled_normal (f : File) : f.Respelled f.normal where
  path := Path.equivalent_normalText f.path
  root := rfl
  references := by
    rw [File.normal, List.forall₂_map_right_iff, List.forall₂_same]
    exact fun r _ => Path.equivalent_normalText r

theorem SourceSet.respelled_normal (s : SourceSet) : s.Respelled s.normal := by
  unfold Respelled
  rw [SourceSet.normal, List.forall₂_map_right_iff, List.forall₂_same]
  exact fun f _ => f.respelled_normal

end Source

open Source (File SourceSet)

/-! ## Assembly -/

namespace Assembler

theorem referencePaths_congr (path : Path) {references references' : List String}
    (h : List.Forall₂ Equivalent references references') :
    (references.map fun r => (referencePath path r).text) =
      references'.map fun r => (referencePath path r).text := by
  induction h with
  | nil => rfl
  | cons head tail ih =>
    have hhead : referencePath path _ = referencePath path _ :=
      Path.normal_join_congr rfl head.normal_ofText
    rw [List.map_cons, List.map_cons, hhead, ih]

variable {a a' : Assembler} (hdirectory : Equivalent a.workingDirectory a'.workingDirectory)

include hdirectory

theorem absolutePath_congr {path path' : String} (h : Equivalent path path') :
    a.absolutePath path = a'.absolutePath path' :=
  (hdirectory.joinText h).normal_ofText

theorem assembleFile_congr {f g : File} (h : f.Respelled g) :
    a.assembleFile f = a'.assembleFile g := by
  simp only [assembleFile, absolutePath_congr hdirectory h.path, h.root,
    referencePaths_congr _ h.references]

theorem assemble_congr {s t : SourceSet} (h : s.Respelled t) : a.assemble s = a'.assemble t := by
  obtain ⟨fs⟩ := s
  obtain ⟨gs⟩ := t
  change List.Forall₂ File.Respelled fs gs at h
  have hfiles : Reported.each a.assembleFile fs = Reported.each a'.assembleFile gs := by
    induction h with
    | nil => rfl
    | cons head tail ih =>
      rw [Reported.each, Reported.each, assembleFile_congr hdirectory head, ih]
  rw [assemble, assemble, hfiles]

end Assembler

/-! ## Passes -/

namespace ItemArrayLike

theorem respelled_markedFile {f g : File} (h : f.Respelled g) :
    (markedFile f).Respelled (markedFile g) where
  path := h.path
  root := by
    have hwalk := Source.Module.walk_congr_path (fun i => pure (mark i)) f.path g.path f.root
    rw [h.root] at hwalk
    show markedModule f.path f.root = markedModule g.path g.root
    rw [h.root]
    exact hwalk
  references := h.references

theorem respelled_withMarker {f g : File} (h : f.Respelled g) :
    (withMarker f).Respelled (withMarker g) := by
  unfold withMarker
  rw [h.root]
  split
  next => exact h
  next => exact ⟨h.path, rfl, h.references⟩

theorem respelled_placeMarker (package : Name) {fs gs : List File}
    (h : List.Forall₂ File.Respelled fs gs) :
    List.Forall₂ File.Respelled (placeMarker package fs) (placeMarker package gs) := by
  induction h with
  | nil => exact .cons (.refl _) .nil
  | cons head tail ih =>
    have hpackage : File.package _ = File.package _ := congrArg Source.Module.package head.root
    rw [placeMarker, placeMarker, hpackage]
    split
    next => exact .cons (respelled_withMarker head) tail
    next => exact .cons head ih

end ItemArrayLike

namespace Pass

/-- Whether the pass does the same to sets that differ in the spelling of paths only. -/
def KeepsRespelled (pass : Pass Id) : Prop :=
  ∀ s t : SourceSet, s.Respelled t → (pass.apply s).run.Respelled (pass.apply t).run

theorem keepsRespelled_itemArrayLike (package : Name) :
    (ItemArrayLike.pass package).KeepsRespelled := by
  intro s t h
  unfold SourceSet.Respelled at h ⊢
  rw [ItemArrayLike.files_apply, ItemArrayLike.files_apply]
  apply ItemArrayLike.respelled_placeMarker
  rw [List.forall₂_map_left_iff, List.forall₂_map_right_iff]
  exact h.imp fun f g => ItemArrayLike.respelled_markedFile

theorem respelled_applyAll {passes : List (Pass Id)}
    (hpasses : ∀ pass ∈ passes, pass.KeepsRespelled) {s t : SourceSet} (h : s.Respelled t) :
    (applyAll passes s).run.Respelled (applyAll passes t).run := by
  induction passes generalizing s t with
  | nil => exact h
  | cons pass passes ih =>
    have hpass := hpasses pass List.mem_cons_self s t h
    exact ih (fun p hp => hpasses p (List.mem_cons_of_mem _ hp)) hpass

end Pass

/-! ## Settings -/

/-- Whether two configurations differ in the spelling of the working directory only. -/
structure Config.Respelled (c c' : Config) : Prop where
  libRootPackage : c.libRootPackage = c'.libRootPackage
  workingDirectory : Option.Rel Equivalent c.workingDirectory c'.workingDirectory
  reservedNames : c.reservedNames = c'.reservedNames
  passes : c.passes = c'.passes

/-- Whether two settings differ in the spelling of the working directory only. -/
structure Settings.Respelled (s s' : Settings) : Prop where
  libRootPackage : s.libRootPackage = s'.libRootPackage
  workingDirectory : Equivalent s.workingDirectory s'.workingDirectory
  reservedNames : s.reservedNames = s'.reservedNames
  itemArrayLike : s.itemArrayLike = s'.itemArrayLike

/-- The settings with the normal form of the working directory. -/
def Settings.normal (s : Settings) : Settings :=
  { s with workingDirectory := Path.normalText s.workingDirectory }

theorem Settings.respelled_normal (s : Settings) : s.Respelled s.normal :=
  ⟨rfl, Path.equivalent_normalText s.workingDirectory, rfl, rfl⟩

namespace Config

variable {c c' : Config} (h : c.Respelled c') {current current' : String}
  (hcurrent : Equivalent current current')

include h hcurrent

theorem equivalent_directoryText :
    Equivalent (c.directoryText current) (c'.directoryText current') := by
  have hgiven := h.workingDirectory
  unfold directoryText
  generalize c.workingDirectory = given, c'.workingDirectory = given' at hgiven
  cases hgiven with
  | none => exact hcurrent
  | some hsame => exact hcurrent.joinText hsame

theorem respelled_of_resolve {s s' : Settings} (hs : c.resolve current = .ok s)
    (hs' : c'.resolve current' = .ok s') : s.Respelled s' := by
  obtain ⟨-, rfl⟩ := ((c.checks_resolve current).ok_iff s).mp hs
  obtain ⟨-, rfl⟩ := ((c'.checks_resolve current').ok_iff s').mp hs'
  constructor
  case libRootPackage =>
    show Name.ofDotted c.packageText = .ofDotted c'.packageText
    rw [packageText, packageText, h.libRootPackage]
  case workingDirectory => exact equivalent_directoryText h hcurrent
  case reservedNames => exact congrArg (Option.getD · []) h.reservedNames
  case itemArrayLike =>
    show c.runsItemArrayLike = c'.runsItemArrayLike
    rw [runsItemArrayLike, runsItemArrayLike, h.passes]

end Config

/-! ## Pipelines -/

namespace Pipeline

theorem keepsRespelled_ofSettings (s : Settings) :
    ∀ pass ∈ (ofSettings s).passes, pass.KeepsRespelled := by
  intro pass hpass
  cases hswitch : s.itemArrayLike with
  | false => simp [ofSettings, hswitch] at hpass
  | true =>
    obtain rfl : pass = ItemArrayLike.pass s.libRootPackage := by
      simpa [ofSettings, hswitch] using hpass
    exact Pass.keepsRespelled_itemArrayLike s.libRootPackage

theorem run_respelled {s s' : Settings} (hs : s.Respelled s') {set set' : SourceSet}
    (hset : set.Respelled set') : (ofSettings s).run set = (ofSettings s').run set' := by
  have happlied := Pass.respelled_applyAll (keepsRespelled_ofSettings s) hset
  obtain ⟨package, directory, names, itemArrayLike⟩ := s
  obtain ⟨_, directory', _, _⟩ := s'
  obtain ⟨rfl, hdirectory, rfl, rfl⟩ := hs
  have hassemble : Assembler.assemble ⟨directory⟩ _ = Assembler.assemble ⟨directory'⟩ _ :=
    Assembler.assemble_congr hdirectory happlied
  exact congrArg (Model.SourceSet.withoutReserved (.withExtra names) <$> ·) hassemble

/-- The normal form of joined paths is that of their joined normal forms. So a source set
has the same model, and the same concerns, if its paths or the working directory are spelled
in another way, such as by their normal forms. -/
theorem normalForms_suffice :
    (∀ base s, Path.normalText (Path.joinText base s) =
        Path.normalText (Path.joinText (Path.normalText base) (Path.normalText s))) ∧
      (∀ s : Settings, s.Respelled s.normal) ∧
      (∀ set : SourceSet, set.Respelled set.normal) ∧
      (∀ (c c' : Config) (current current' : String) (s s' : Settings),
        c.Respelled c' → Equivalent current current' → c.resolve current = .ok s →
          c'.resolve current' = .ok s' → s.Respelled s') ∧
      (∀ (a a' : Assembler) (set set' : SourceSet),
        Equivalent a.workingDirectory a'.workingDirectory → set.Respelled set' →
          a.assemble set = a'.assemble set') ∧
      ∀ (s s' : Settings) (set set' : SourceSet), s.Respelled s' → set.Respelled set' →
        (ofSettings s).run set = (ofSettings s').run set' := by
  refine ⟨?_, Settings.respelled_normal, SourceSet.respelled_normal, ?_, ?_, ?_⟩
  · intro base s
    exact (Path.equivalent_normalText base).joinText (Path.equivalent_normalText s)
  · intro c c' current current' s s' h hcurrent hs hs'
    exact Config.respelled_of_resolve h hcurrent hs hs'
  · intro a a' set set' hdirectory hset
    exact Assembler.assemble_congr hdirectory hset
  · intro s s' set set' hs hset
    exact run_respelled hs hset

/-- A configuration that says nothing but the working directory. -/
def configAt (directory : String) : Config :=
  { Config.empty with workingDirectory := some directory }

/-- The default settings with another working directory. -/
def settingsAt (directory : String) : Settings :=
  ⟨.ofDotted Config.defaultPackage, directory, [], true⟩

/-- With and without detours on the way to the working directory, to a file and to the file
it refers to, the runs and the assembled sets are equal. -/
theorem run_detour_normal :
    (configAt "lib/../app").resolve "/src/." = .ok (settingsAt "/src/./lib/../app") ∧
      (configAt "app").resolve "/src" = .ok (settingsAt "/src/app") ∧
      Assembler.detour.normal.files.map File.path = ["../lib/names.d.ts", "/src/lib/types.d.ts"] ∧
      (ofSettings (settingsAt "/src/./lib/../app")).run Assembler.detour =
        (ofSettings (settingsAt "/src/app")).run Assembler.detour.normal ∧
      Assembler.assemble ⟨"/src/./lib/../app"⟩ Assembler.detour =
        Assembler.assemble ⟨"/src/app"⟩ Assembler.detour.normal := by
  obtain ⟨-, -, hset, hresolve, hassemble, hrun⟩ := normalForms_suffice
  have hdetour : (configAt "lib/../app").resolve "/src/." =
      .ok (settingsAt "/src/./lib/../app") := by decide
  have hstraight : (configAt "app").resolve "/src" = .ok (settingsAt "/src/app") := by decide
  have hconfig : (configAt "lib/../app").Respelled (configAt "app") :=
    ⟨rfl, .some (by decide), rfl, rfl⟩
  have hsettings := hresolve _ _ "/src/." "/src" _ _ hconfig (by decide) hdetour hstraight
  exact ⟨hdetour, hstraight, by decide, hrun _ _ _ _ hsettings (hset Assembler.detour),
    hassemble _ _ _ _ hsettings.workingDirectory (hset Assembler.detour)⟩

end Pipeline

end Bindings
