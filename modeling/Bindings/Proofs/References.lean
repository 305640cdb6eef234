-- SUMMARY: Paths of an assembled set: all canonical, and a reference to a file of the set is the path of that file.
import Bindings.Assembly
import Bindings.Proofs.NormalPaths

/-!
# References between files

The path of a file is resolved against the working directory, a reference against the
directory of the file that holds it, which is taken from the path as it was resolved.
It makes no difference: the reference could as well be put behind the directory of the
file as it was given and resolved like the path of a file. A reference to a file of
the set is therefore the path under which that file is found.
-/
namespace Bindings

namespace Model.SourceSet

/-- The path of a reference, the `j`-th one of the `i`-th file. -/
def reference? (s : SourceSet) (i j : Nat) : Option String :=
  s.files[i]?.bind fun f => f.references[j]?

/-- A path that is the path of some file is found. -/
theorem exists_find? {s : SourceSet} {path : String} (h : path ∈ s.files.map File.path) :
    ∃ f, s.find? path = some f ∧ f.path = path := by
  obtain ⟨f, hf, hpath⟩ := List.mem_map.mp h
  have hsome : (s.find? path).isSome = true := by
    rw [find?, List.find?_isSome]
    exact ⟨f, hf, by simp [hpath]⟩
  obtain ⟨f', hf'⟩ := Option.isSome_iff_exists.mp hsome
  exact ⟨f', hf', by simpa using List.find?_some hf'⟩

end Model.SourceSet

namespace Path

/-! ## Canonical texts -/

/-- Whether the text is a slash, or names with one slash before each. -/
def Canonical (s : String) : Prop :=
  ∃ names, s = "/" ++ Text.joined "/" names ∧ ∀ name ∈ names, IsName name

theorem canonical_text_normal {p : Path} (hroot : p.isAbsolute = true) (h : p.IsRead) :
    Canonical p.normal.text := by
  refine ⟨p.normal.steps.map Step.text, ?_, ?_⟩
  · have hnormal : p.normal.isAbsolute = true := hroot
    rw [text, if_pos hnormal]
  · intro name hname
    obtain ⟨step, hstep, rfl⟩ := List.mem_map.mp hname
    cases step with
    | up => exact absurd hstep (not_up_of_mem_normal hroot)
    | into name => exact h.normal _ hstep

/-- Whether the first text is read as the directory in which the path stands. -/
def IsDirectoryOf (directory path : String) : Prop :=
  (ofText path).parent? = some (ofText directory)

theorem exists_isDirectoryOf {path : String} (h : (ofText path).EndsInName) :
    ∃ directory, IsDirectoryOf directory path := by
  obtain ⟨parent, hparent⟩ := h.exists_parent?
  have hread : parent.IsRead := by
    obtain ⟨-, step, hsteps⟩ := parent?_eq_some_iff.mp hparent
    intro s hs
    refine isRead_ofText path s ?_
    rw [hsteps]
    exact List.mem_append_left _ hs
  exact ⟨parent.text, by rw [IsDirectoryOf, ofText_text hread, hparent]⟩

end Path

namespace Assembler

open Bindings.Path (Canonical IsDirectoryOf)

/-! ## Resolved paths -/

theorem absolutePath_eq (a : Assembler) (path : String) :
    a.absolutePath path =
      ((Path.ofText a.workingDirectory).join (Path.ofText path)).normal := by
  rw [absolutePath, Path.ofText_joinText]

/-- A reference may be put behind the directory of the file as it was given. -/
theorem referencePath_absolutePath (a : Assembler) {path directory : String}
    (hname : (Path.ofText path).EndsInName) (hdirectory : IsDirectoryOf directory path)
    (reference : String) :
    referencePath (a.absolutePath path) reference =
      a.absolutePath (Path.joinText directory reference) := by
  have hparent : (a.absolutePath path).parent? = some (a.absolutePath directory) := by
    rw [absolutePath_eq, absolutePath_eq]
    exact (hname.join _).parent?_normal (Path.parent?_join _ hdirectory)
  rw [referencePath, hparent, Option.getD_some, absolutePath_eq, absolutePath_eq,
    Path.ofText_joinText, Path.normal_join_normal, Path.join_assoc]

section Rooted

variable {a : Assembler} (hroot : Path.startsAtRoot a.workingDirectory = true)

include hroot

theorem isAbsolute_absolutePath (path : String) : (a.absolutePath path).isAbsolute = true := by
  rw [absolutePath_eq]
  exact Path.isAbsolute_join hroot (Path.ofText path)

theorem canonical_absolutePath (path : String) : Canonical (a.absolutePath path).text := by
  have hread := (Path.isRead_ofText a.workingDirectory).join (Path.isRead_ofText path)
  rw [absolutePath_eq]
  exact Path.canonical_text_normal (Path.isAbsolute_join hroot _) hread

theorem canonical_referencePath (path reference : String) :
    Canonical (referencePath (a.absolutePath path) reference).text := by
  have hread : (a.absolutePath path).IsRead := by
    rw [absolutePath_eq]
    exact ((Path.isRead_ofText _).join (Path.isRead_ofText _)).normal
  refine Path.canonical_text_normal (Path.isAbsolute_join ?_ _)
    (hread.getD_parent?.join (Path.isRead_ofText reference))
  rw [Path.isAbsolute_getD_parent?]
  exact isAbsolute_absolutePath hroot path

end Rooted

/-! ## Source sets -/

theorem path_assemble {a : Assembler} {s : Source.SourceSet} {i : Nat} {f : Source.File}
    (hf : s.files[i]? = some f) :
    (a.assemble s).value.files[i]?.map Model.File.path = some (a.absolutePath f.path).text := by
  simp [files_assemble, hf, assembleFile]

theorem reference?_assemble {a : Assembler} {s : Source.SourceSet} {i j : Nat} {f : Source.File}
    {reference : String} (hf : s.files[i]? = some f)
    (hreference : f.references[j]? = some reference) :
    (a.assemble s).value.reference? i j =
      some (referencePath (a.absolutePath f.path) reference).text := by
  simp [Model.SourceSet.reference?, files_assemble, hf, assembleFile, hreference]

/-- Whether the assembled paths of the set are canonical, and a reference is resolved as
if it were the path of a file below the directory of the file that holds it. -/
structure Resolves (a : Assembler) (s : Source.SourceSet) : Prop where
  canonical : ∀ f ∈ (a.assemble s).value.files,
    Canonical f.path ∧ ∀ path ∈ f.references, Canonical path
  reference : ∀ (i j : Nat) (f : Source.File) (reference : String),
    s.files[i]? = some f → f.references[j]? = some reference → (Path.ofText f.path).EndsInName →
      (∃ directory, IsDirectoryOf directory f.path) ∧
      ∀ directory, IsDirectoryOf directory f.path →
        (a.assemble s).value.reference? i j =
          some (a.absolutePath (Path.joinText directory reference)).text
  found : ∀ (i j k : Nat) (f g : Source.File) (reference directory : String),
    s.files[i]? = some f → f.references[j]? = some reference → (Path.ofText f.path).EndsInName →
      IsDirectoryOf directory f.path → s.files[k]? = some g →
      a.absolutePath g.path = a.absolutePath (Path.joinText directory reference) →
        ∃ path, (a.assemble s).value.reference? i j = some path ∧
          (a.assemble s).value.files[k]?.map Model.File.path = some path ∧
          ∃ g', (a.assemble s).value.find? path = some g' ∧ g'.path = path

/-- With an absolute working directory all paths of an assembled set are canonical, and
the path of a reference to a file of the set is the path of that file. -/
theorem resolves_assemble {a : Assembler}
    (hroot : Path.startsAtRoot a.workingDirectory = true) (s : Source.SourceSet) :
    a.Resolves s := by
  have hreference (i j : Nat) (f : Source.File) (reference directory : String)
      (hf : s.files[i]? = some f) (hr : f.references[j]? = some reference)
      (hname : (Path.ofText f.path).EndsInName) (hdirectory : IsDirectoryOf directory f.path) :
      (a.assemble s).value.reference? i j =
        some (a.absolutePath (Path.joinText directory reference)).text := by
    rw [reference?_assemble hf hr, referencePath_absolutePath a hname hdirectory]
  constructor
  case canonical =>
    intro f' hf'
    rw [files_assemble] at hf'
    obtain ⟨f, -, rfl⟩ := List.mem_map.mp hf'
    refine ⟨canonical_absolutePath hroot f.path, ?_⟩
    intro path hpath
    obtain ⟨reference, -, rfl⟩ := List.mem_map.mp hpath
    exact canonical_referencePath hroot f.path reference
  case reference =>
    intro i j f reference hf hr hname
    refine ⟨Path.exists_isDirectoryOf hname, ?_⟩
    intro directory hdirectory
    exact hreference i j f reference directory hf hr hname hdirectory
  case found =>
    intro i j k f g reference directory hf hr hname hdirectory hg hsame
    have hpath : (a.assemble s).value.files[k]?.map Model.File.path = _ := path_assemble hg
    rw [hsame] at hpath
    refine ⟨_, hreference i j f reference directory hf hr hname hdirectory, hpath, ?_⟩
    apply Model.SourceSet.exists_find?
    obtain ⟨g', hg', hg'path⟩ := Option.map_eq_some_iff.mp hpath
    exact List.mem_map.mpr ⟨g', List.mem_of_getElem? hg', hg'path⟩

/-- A file that refers to its neighbour by a detour. -/
def detour : Source.SourceSet :=
  ⟨[⟨"../lib/./names.d.ts", .plain (.ident "names") [], ["../../../src/lib//types.d.ts"]⟩,
    .plain "/src/lib/types.d.ts" (.plain (.ident "types") [])]⟩

/-- Past the root and down again, the reference leads to the second file. -/
theorem resolves_detour :
    Path.startsAtRoot "/src/app" = true ∧ (mk "/src/app").Resolves detour ∧
      ((mk "/src/app").assemble detour).value.reference? 0 0 = some "/src/lib/types.d.ts" ∧
      ∃ g, ((mk "/src/app").assemble detour).value.find? "/src/lib/types.d.ts" = some g := by
  have hroot : Path.startsAtRoot "/src/app" = true := by decide
  have h : (mk "/src/app").Resolves detour := resolves_assemble hroot detour
  have hdirectory : IsDirectoryOf "../lib" "../lib/./names.d.ts" := by
    unfold IsDirectoryOf
    decide
  obtain ⟨path, hreference, -, g, hg, -⟩ := h.found 0 0 1 _ _ _ "../lib" rfl rfl
    ⟨"names.d.ts", by decide⟩ hdirectory rfl (by decide +kernel)
  obtain rfl : "/src/lib/types.d.ts" = path := Option.some.inj hreference
  exact ⟨hroot, h, hreference, g, hg⟩

end Assembler

end Bindings
