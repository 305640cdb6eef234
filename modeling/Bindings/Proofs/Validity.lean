-- SUMMARY: Which configurations can be resolved, which fault is reported of the others, and what the settings keep of a configuration.
import Bindings.Proofs.DottedNames
import Bindings.Proofs.FileWise

/-!
# Valid configurations

Each part of a configuration has a check of its own: no segment of the root package may
be blank, the working directory may not be blank, and no segment of a reserved name may be
empty. The checks are made in this order, and the first that fails is reported. What is
accepted is kept: the settings have the texts of the configuration, and the file that a run
creates for the root package has the path that the text of the package stands for.
-/
namespace Bindings

namespace Config

/-! ## Valid texts -/

/-- Whether some character of the text is not blank. -/
def IsVisible (s : String) : Prop := ∃ c ∈ s.toList, Text.isBlank c = false

/-- Whether every segment of the dotted text is visible. -/
def IsPackage (dotted : String) : Prop := ∀ piece ∈ Text.segments '.' dotted, IsVisible piece

/-- Whether no segment of the dotted text is empty. -/
def IsEntry (dotted : String) : Prop := ∀ piece ∈ Text.segments '.' dotted, piece ≠ ""

theorem isBlankText_eq_false_iff (s : String) : Text.isBlankText s = false ↔ IsVisible s := by
  simp [Text.isBlankText, IsVisible]

theorem hasBlankSegment_eq_false_iff (dotted : String) :
    hasBlankSegment dotted = false ↔ IsPackage dotted := by
  simp [hasBlankSegment, IsPackage, isBlankText_eq_false_iff]

theorem hasEmptySegment_eq_false_iff (dotted : String) :
    hasEmptySegment dotted = false ↔ IsEntry dotted := by
  simp [hasEmptySegment, IsEntry]

/-- The first entry with an empty segment stands behind entries without one. -/
theorem find?_hasEmptySegment_iff {entries : List String} {entry : String} :
    entries.find? hasEmptySegment = some entry ↔
      ∃ before after, entries = before ++ entry :: after ∧
        (∀ earlier ∈ before, IsEntry earlier) ∧ ¬ IsEntry entry := by
  simp only [List.find?_eq_some_iff_append, Bool.not_eq_true', hasEmptySegment_eq_false_iff,
    ← Bool.not_eq_false (hasEmptySegment entry)]
  constructor
  · rintro ⟨hfault, before, after, hentries, hearlier⟩
    exact ⟨before, after, hentries, hearlier, hfault⟩
  · rintro ⟨before, after, hentries, hearlier, hfault⟩
    exact ⟨hfault, before, after, hentries, hearlier⟩

/-! ## Checks in a row -/

/-- What a check comes to: it accepts with the value `a` exactly if `valid` holds, and
reports exactly what `Fault` holds of. -/
structure Checks {α : Type} (x : Except Invalid α) (valid : Prop) (a : α)
    (Fault : Invalid → Prop) : Prop where
  ok_iff : ∀ b, x = .ok b ↔ valid ∧ b = a
  error_iff : ∀ e, x = .error e ↔ Fault e

namespace Checks

variable {α β : Type} {x : Except Invalid α} {valid valid' : Prop} {a : α} {b : β}
  {Fault Fault' : Invalid → Prop}

theorem accept (hvalid : valid) (hx : x = .ok a) (hfault : ∀ e, ¬ Fault e) :
    Checks x valid a Fault where
  ok_iff := by
    intro b
    rw [hx, Except.ok.injEq]
    exact ⟨fun h => ⟨hvalid, h.symm⟩, fun h => h.2.symm⟩
  error_iff := by
    intro e
    rw [hx]
    exact iff_of_false (by simp) (hfault e)

theorem reject {e : Invalid} (hvalid : ¬ valid) (hx : x = .error e)
    (hfault : ∀ e', Fault e' ↔ e' = e) : Checks x valid a Fault where
  ok_iff := by
    intro b
    rw [hx]
    exact iff_of_false (by simp) fun h => hvalid h.1
  error_iff := by
    intro e'
    rw [hx, hfault e', Except.error.injEq, eq_comm]

/-- A check by a single test that tells what is not valid. -/
theorem test {bad : Bool} (hvalid : bad = false ↔ valid) (a : α) (e : Invalid) :
    Checks (if bad = true then .error e else .ok a) valid a fun e' => ¬ valid ∧ e' = e := by
  cases bad with
  | false =>
    have h := hvalid.mp rfl
    exact .accept h rfl fun e' hfault => hfault.1 h
  | true =>
    have h : ¬ valid := fun h => nomatch hvalid.mpr h
    exact .reject h rfl fun e' => and_iff_right h

/-- The second check is made, and its fault reported, only if the first accepts. -/
theorem bind (hx : Checks x valid a Fault) {f : α → Except Invalid β}
    (hf : Checks (f a) valid' b Fault') :
    Checks (x >>= f) (valid ∧ valid') b fun e => Fault e ∨ valid ∧ Fault' e := by
  cases x with
  | error e₀ =>
    have hvalid : ¬ valid := fun h => by simpa using (hx.ok_iff a).mpr ⟨h, rfl⟩
    refine ⟨fun b' => iff_of_false (by simp [Bind.bind, Except.bind]) fun h => hvalid h.1.1, ?_⟩
    intro e
    rw [← hx.error_iff e]
    simp [Bind.bind, Except.bind, hvalid]
  | ok a₀ =>
    obtain ⟨hvalid, rfl⟩ := (hx.ok_iff a₀).mp rfl
    have hfault : ∀ e, ¬ Fault e := fun e h => by simpa using (hx.error_iff e).mpr h
    constructor
    case ok_iff =>
      intro b'
      rw [and_assoc, and_iff_right hvalid]
      exact hf.ok_iff b'
    case error_iff =>
      intro e
      rw [or_iff_right (hfault e), and_iff_right hvalid]
      exact hf.error_iff e

theorem map (hx : Checks x valid a Fault) (f : α → β) :
    Checks (x >>= fun y => pure (f y)) valid (f a) Fault := by
  have hpure : Checks (pure (f a)) True (f a) fun _ => False := .accept trivial rfl fun _ => id
  have h := hx.bind (f := fun y => pure (f y)) hpure
  simpa only [and_true, and_false, or_false] using h

end Checks

/-! ## Parts of a configuration -/

section Parts

variable (c : Config)

def PackageValid : Prop := ∀ dotted, c.libRootPackage = some dotted → IsPackage dotted

def PackageFault (e : Invalid) : Prop :=
  ∃ dotted, c.libRootPackage = some dotted ∧ ¬ IsPackage dotted ∧ e = .blankPackageSegment dotted

def DirectoryValid : Prop := ∀ given, c.workingDirectory = some given → IsVisible given

def DirectoryFault (e : Invalid) : Prop :=
  ∃ given, c.workingDirectory = some given ∧ ¬ IsVisible given ∧ e = .blankWorkingDirectory

def NamesValid : Prop :=
  ∀ given, c.reservedNames = some given → ∀ entry ∈ given, IsEntry entry

/-- The fault of the reserved names is that of the first entry at fault. -/
def NamesFault (e : Invalid) : Prop :=
  ∃ before entry after, c.reservedNames = some (before ++ entry :: after) ∧
    (∀ earlier ∈ before, IsEntry earlier) ∧ ¬ IsEntry entry ∧ e = .emptyNameSegment entry

/-- Whether every part that is given is valid. -/
def IsValid : Prop := c.PackageValid ∧ c.DirectoryValid ∧ c.NamesValid

/-- What is reported of a configuration: the fault of the first part at fault. -/
def FirstFault (e : Invalid) : Prop :=
  c.PackageFault e ∨ c.PackageValid ∧ (c.DirectoryFault e ∨ c.DirectoryValid ∧ c.NamesFault e)

/-- The text of the root package, whether it is configured or not. -/
def packageText : String := c.libRootPackage.getD "<LIBROOT>.org.w3c.dom"

/-- The working directory that the configuration stands for in the current one. -/
def directoryText (current : String) : String :=
  (c.workingDirectory.map (Path.joinText current)).getD current

theorem checks_package :
    Checks c.package c.PackageValid (.ofDotted c.packageText) c.PackageFault := by
  unfold package PackageValid PackageFault packageText
  cases c.libRootPackage with
  | none => exact .accept (by simp) (if_neg (by decide)) (by simp)
  | some dotted =>
    have h := Checks.test (hasBlankSegment_eq_false_iff dotted) (Name.ofDotted dotted)
      (.blankPackageSegment dotted)
    simpa using h

theorem checks_directory (current : String) :
    Checks (c.directory current) c.DirectoryValid (c.directoryText current) c.DirectoryFault := by
  unfold directory DirectoryValid DirectoryFault directoryText
  cases c.workingDirectory with
  | none => exact .accept (by simp) rfl (by simp)
  | some given =>
    have h := Checks.test (isBlankText_eq_false_iff given) (Path.joinText current given)
      .blankWorkingDirectory
    simpa using h

theorem checks_names : Checks c.names c.NamesValid (c.reservedNames.getD []) c.NamesFault := by
  unfold names NamesValid NamesFault
  cases c.reservedNames with
  | none => exact .accept (by simp) rfl (by simp)
  | some given =>
    cases h : given.find? hasEmptySegment with
    | none =>
      have hentries : ∀ entry ∈ given, IsEntry entry := by
        intro entry hentry
        have hfound := List.find?_eq_none.mp h entry hentry
        exact (hasEmptySegment_eq_false_iff entry).mp (by simpa using hfound)
      refine .accept (by simpa using hentries) (by simp [h]) ?_
      rintro e ⟨before, entry, after, hgiven, -, hfault, -⟩
      obtain rfl := Option.some.inj hgiven
      exact hfault (hentries entry (by simp))
    | some entry =>
      obtain ⟨before, after, hgiven, hearlier, hfault⟩ := find?_hasEmptySegment_iff.mp h
      have hmem : entry ∈ given := List.mem_of_find?_eq_some h
      have hinvalid : ¬ ∀ names, some given = some names → ∀ e ∈ names, IsEntry e :=
        fun hvalid => hfault (hvalid given rfl entry hmem)
      refine .reject (e := .emptyNameSegment entry) hinvalid (by simp [h]) ?_
      intro e
      constructor
      · -- The entry that is found is the only one with this place in the list.
        rintro ⟨before', entry', after', hgiven', hearlier', hfault', rfl⟩
        have h' := find?_hasEmptySegment_iff.mpr
          ⟨before', after', Option.some.inj hgiven', hearlier', hfault'⟩
        rw [h] at h'
        rw [Option.some.inj h']
      · rintro rfl
        exact ⟨before, entry, after, congrArg some hgiven, hearlier, hfault, rfl⟩

/-- The settings of the configuration, if it is valid. -/
def settings (current : String) : Settings :=
  ⟨.ofDotted c.packageText, c.directoryText current, c.reservedNames.getD [], c.runsItemArrayLike⟩

theorem checks_resolve (current : String) :
    Checks (c.resolve current) c.IsValid (c.settings current) c.FirstFault :=
  c.checks_package.bind ((c.checks_directory current).bind (c.checks_names.map _))

end Parts

end Config

namespace Pipeline

open Source (File)

/-! ## The file of the root package -/

/-- Whether a run over the files has one more file behind theirs, with the given path and
package. -/
def Creates (p : Pipeline) (path : String) (package : Name) (fs : List File) : Prop :=
  ∃ others created, (p.run ⟨fs⟩).value.files = others ++ [created] ∧
    others.length = fs.length ∧ created.path = path ∧ created.root.name = package

theorem creates_ofSettings {s : Settings} (hpass : s.itemArrayLike = true) {fs : List File}
    (hnone : ∀ f ∈ fs, f.package ≠ s.libRootPackage) :
    (ofSettings s).Creates
      (Path.normalText (Path.joinText s.workingDirectory s.libRootPackage.text))
      s.libRootPackage fs := by
  have hcount : (fs.countP fun f => f.package = s.libRootPackage) = 0 :=
    List.countP_eq_zero.mpr fun f hf => by simpa using hnone f hf
  have hfiles := files_run_ofSettings hpass (hcount.trans_le zero_le_one)
  rw [if_neg fun ⟨f, hf, hpackage⟩ => hnone f hf hpackage] at hfiles
  exact ⟨_, newFileModel s, hfiles, List.length_map _, rfl, rfl⟩

end Pipeline

namespace Config

/-! ## Resolving -/

/-- Whether the settings keep what the configuration says, down to the path of the file that
a run creates for the root package. -/
structure Kept (c : Config) (current : String) (s : Settings) : Prop where
  package : s.libRootPackage.dotted = c.packageText
  segments : s.libRootPackage.segments = Text.segments '.' c.packageText
  directory : s.workingDirectory = c.directoryText current
  names : s.reservedNames = c.reservedNames.getD []
  pipeline : Pipeline.ofConfig c current = .ok (.ofSettings s)
  created : s.itemArrayLike = true → ∀ fs : List Source.File,
    (∀ f ∈ fs, f.package ≠ s.libRootPackage) →
      (Pipeline.ofSettings s).Creates
        (Path.normalText (Path.joinText s.workingDirectory c.packageText)) s.libRootPackage fs

theorem kept_of_resolve {c : Config} {current : String} {s : Settings}
    (h : c.resolve current = .ok s) : c.Kept current s := by
  obtain ⟨-, rfl⟩ := ((c.checks_resolve current).ok_iff s).mp h
  have htext : (c.settings current).libRootPackage.text = c.packageText := by
    rw [Name.text_eq_dotted]
    exact Name.dotted_ofDotted c.packageText
  constructor
  case package => exact Name.dotted_ofDotted c.packageText
  case segments => exact Name.segments_ofDotted c.packageText
  case directory => rfl
  case names => rfl
  case pipeline =>
    rw [Pipeline.ofConfig, h]
    rfl
  case created =>
    intro hpass fs hnone
    rw [← htext]
    exact Pipeline.creates_ofSettings hpass hnone

/-- A configuration is resolved if and only if every part that is given is valid, and
otherwise the first fault is reported, for the reserved names with the first entry at fault.
The settings keep what the configuration says. -/
theorem resolve_exact (c : Config) (current : String) :
    ((∃ s, c.resolve current = .ok s) ↔ c.IsValid) ∧
      (∀ e, c.resolve current = .error e ↔ c.FirstFault e) ∧
      (∀ entry, (Invalid.emptyNameSegment entry).message =
        "invalid reservedNames entry '" ++ entry ++ "'") ∧
      ∀ s, c.resolve current = .ok s → c.Kept current s := by
  have hchecks := c.checks_resolve current
  refine ⟨?_, hchecks.error_iff, fun entry => rfl, fun s => kept_of_resolve⟩
  constructor
  · rintro ⟨s, hs⟩
    exact ((hchecks.ok_iff s).mp hs).1
  · intro hvalid
    exact ⟨c.settings current, (hchecks.ok_iff _).mpr ⟨hvalid, rfl⟩⟩

/-- A configuration with a root package of two segments and a working directory of its own. -/
def webConfig : Config := ⟨some "web.dom", some "./types", some ["Event"], none⟩

/-- Settings of `webConfig` in the directory `/work`. -/
def webSettings : Settings := ⟨.ofDotted "web.dom", "/work/./types", ["Event"], true⟩

/-- A run over a file of another package creates the file of the root package in the working
directory of the configuration. -/
theorem webConfig_resolve_exact :
    webConfig.resolve "/work" = .ok webSettings ∧
      webSettings.itemArrayLike = true ∧
      (∀ f ∈ Pipeline.twoFiles, f.package ≠ webSettings.libRootPackage) ∧
      (Pipeline.ofSettings webSettings).Creates "/work/types/web.dom" (.ofDotted "web.dom")
        Pipeline.twoFiles := by
  have hresolve : webConfig.resolve "/work" = .ok webSettings := by decide
  have hpass : webSettings.itemArrayLike = true := rfl
  have hnone : ∀ f ∈ Pipeline.twoFiles, f.package ≠ webSettings.libRootPackage := by
    simp only [Pipeline.twoFiles, List.forall_mem_cons]
    decide
  have hkept := (resolve_exact webConfig "/work").2.2.2 webSettings hresolve
  have hpath : Path.normalText (Path.joinText webSettings.workingDirectory webConfig.packageText) =
      "/work/types/web.dom" := by decide
  exact ⟨hresolve, hpass, hnone, hpath ▸ hkept.created hpass Pipeline.twoFiles hnone⟩

/-- A blank segment is a fault of the root package, but not of a reserved name. -/
example :
    resolve ⟨some "a. .b", some " ", none, none⟩ "/" = .error (.blankPackageSegment "a. .b") ∧
      resolve ⟨none, none, some ["a. .b", "a..b", ""], none⟩ "/" =
        .error (.emptyNameSegment "a..b") := by
  decide

end Config

end Bindings
