-- SUMMARY: The model of a module tree has the same modules and declarations, in the same order and under the same names.
import Bindings.Proofs.Contents

/-!
# Counterparts

A module and its model are two trees of different form: a source module lists
nested modules and declarations together, a module of the model keeps them apart.
`Module.Counterpart` says that the two trees are the same all the same, and
`Module.counterpart_toModel` that a model is a counterpart of what it models.
-/
namespace Bindings.Source

/-! ## Declarations -/

/-- Whether the two declarations are of one kind and have one name. -/
def Decl.Counterpart : Decl → Model.Decl → Prop
  | .classDecl c, .classDecl c' => c'.name = c.name
  | .interfaceDecl i, .interfaceDecl i' => i'.name = i.name
  | .functionDecl f, .functionDecl f' => f'.name = f.name
  | .variableDecl v, .variableDecl v' => v'.name = v.name
  | .enumDecl e, .enumDecl e' => e'.name = e.name
  | .objectDecl o, .objectDecl o' => o'.name = o.name
  | .aliasDecl a, .aliasDecl a' => a'.name = a.name
  | _, _ => False

/-- A declaration that the model declares has one counterpart there. -/
theorem Decl.declared_eq_counterpart {d : Decl} (hd : d.isDeclared = true) :
    ∃ d', d.declared = [d'] ∧ d.Counterpart d' := by
  cases d with
  | aliasDecl a => exact ⟨_, Decl.declared_aliasDecl hd, rfl⟩
  | moduleDecl m => cases hd
  | importEquals i => cases hd
  | exportAssignment e => cases hd
  | _ => exact ⟨_, rfl, rfl⟩

/-! ## Modules -/

/-- The annotation that a module with a qualifier has, unless it is global. -/
def Module.qualification (m : Module) : List Model.Annotation :=
  match m.qualifier, m.binding with
  | some qualifier, .inner => [⟨"file:JsQualifier", [qualifier]⟩]
  | some qualifier, .external => [⟨"file:JsModule", [qualifier]⟩]
  | some _, .global => []
  | none, _ => []

/-- Whether the second tree has a counterpart for every module and every declared
declaration of the first, one for one and in order, and nothing else. -/
inductive Module.Counterpart : Module → Model.Module → Prop
  | intro {m : Module} {m' : Model.Module}
      (name : m'.name = m.package)
      (shortName : m'.shortName = .ident m.package.rightMost)
      (qualifier : m'.qualifier = m.qualifier)
      (annotations : m'.annotations = m.qualification)
      (imports : m'.imports = [])
      (declarations :
        List.Forall₂ Decl.Counterpart (m.declarations.filter Decl.isDeclared) m'.declarations)
      (submodules :
        List.Forall₂ Module.Counterpart (m.declarations.filterMap Decl.module?) m'.submodules) :
      Module.Counterpart m m'

theorem Module.annotations_eq_qualification (m : Module) :
    m.binding.annotations m.qualifier = m.qualification := by
  unfold Module.qualification
  cases m.qualifier with
  | none => rfl
  | some qualifier => cases m.binding <;> rfl

/-- With the declarations in pairs at every depth, the other fields of the modules decide. -/
theorem Module.Paired.counterpart {m : Module}
    (h : m.Paired Decl.Counterpart m.toModel.value) : m.Counterpart m.toModel.value := by
  induction m using Module.induct with
  | step m ih =>
    obtain ⟨hdecls, hsubs⟩ := h
    have hqualification := Module.annotations_eq_qualification m
    have hnested : List.Forall₂ Module.Counterpart m.nested m.toModel.value.submodules := by
      rw [Module.submodules_toModel, List.forall₂_map_right_iff, List.forall₂_same] at hsubs ⊢
      exact fun n hn => ih n hn (hsubs n hn)
    obtain ⟨package, declarations, qualifier, binding⟩ := m
    exact .intro rfl rfl rfl hqualification rfl hdecls hnested

theorem Module.counterpart_value (m : Module) : m.Counterpart m.toModel.value :=
  (Module.paired_toModel (fun _ => Decl.declared_eq_counterpart) m).counterpart

/-- A declaration that the model declares is found there. -/
theorem Module.exists_counterpart {m : Module} {d : Decl} (hd : d ∈ m.declarations)
    (h : d.isDeclared = true) : ∃ d' ∈ m.toModel.value.declarations, d.Counterpart d' := by
  obtain ⟨d', hdeclared, hcounterpart⟩ := Decl.declared_eq_counterpart h
  refine ⟨d', ?_, hcounterpart⟩
  rw [Module.declarations_toModel, List.mem_flatMap]
  exact ⟨d, hd, by simp [hdeclared]⟩

/-! ## Counting -/

mutual

/-- Number of declarations that the model declares, in the module and in those
nested in it. -/
def Module.declaredCount : Module → Nat
  | ⟨_, declarations, _, _⟩ => Decl.allDeclaredCount declarations

def Decl.declaredCount : Decl → Nat
  | .moduleDecl m => m.declaredCount
  | d => if d.isDeclared then 1 else 0

def Decl.allDeclaredCount : List Decl → Nat
  | [] => 0
  | d :: ds => d.declaredCount + Decl.allDeclaredCount ds

end

/-- The nested modules of a list can be counted apart. -/
theorem Decl.allDeclaredCount_eq (ds : List Decl) :
    Decl.allDeclaredCount ds = (ds.filter Decl.isDeclared).length +
      Decl.allDeclaredCount ((ds.filterMap Decl.module?).map .moduleDecl) := by
  induction ds with
  | nil => rfl
  | cons d ds ih =>
    rw [Decl.allDeclaredCount, ih, List.filter_cons, List.filterMap_cons]
    cases d with
    | moduleDecl m =>
      simp only [Decl.allDeclaredCount, Decl.declaredCount, Decl.isDeclared, Decl.module?,
        List.map_cons, Bool.false_eq_true, if_false]
      omega
    | aliasDecl a =>
      cases h : a.hasCounterpart with
      | false => simp [Decl.declaredCount, Decl.isDeclared, Decl.module?, h]
      | true =>
        simp only [Decl.declaredCount, Decl.isDeclared, Decl.module?, h, if_true, List.length_cons]
        omega
    | importEquals i => exact Nat.zero_add _
    | exportAssignment e => exact Nat.zero_add _
    | _ =>
      simp only [Decl.declaredCount, Decl.isDeclared, Decl.module?, if_true, List.length_cons]
      omega

mutual

-- The recursion is on the model: only there are the submodules a list of their own.
theorem Module.Counterpart.declarationCount_eq {m : Module} {m' : Model.Module}
    (h : m.Counterpart m') : m'.declarationCount = m.declaredCount := by
  obtain ⟨_, _, _, _, _, submodules', _⟩ := m'
  cases h with
  | intro _ _ _ _ _ hdecls hsubs =>
    have hcount := Module.Counterpart.countAll_eq hsubs
    obtain ⟨package, declarations, qualifier, binding⟩ := m
    rw [Model.Module.declarationCount, Module.declaredCount, Decl.allDeclaredCount_eq,
      hcount, hdecls.length_eq]

private theorem Module.Counterpart.countAll_eq {ms : List Module} {ms' : List Model.Module}
    (h : List.Forall₂ Module.Counterpart ms ms') :
    Model.Module.countAll ms' = Decl.allDeclaredCount (ms.map .moduleDecl) := by
  cases ms' with
  | nil =>
    cases h
    rfl
  | cons m' ms' =>
    cases h with
    | cons hm hms =>
      have hhead := Module.Counterpart.declarationCount_eq hm
      have htail := Module.Counterpart.countAll_eq hms
      rw [Model.Module.countAll, List.map_cons, Decl.allDeclaredCount, Decl.declaredCount, hhead,
        htail]

end

/-- A model is the counterpart of what it models, and so it declares as much. -/
theorem Module.counterpart_toModel (m : Module) :
    m.Counterpart m.toModel.value ∧ m.toModel.value.declarationCount = m.declaredCount := by
  have h := Module.counterpart_value m
  exact ⟨h, h.declarationCount_eq⟩

end Bindings.Source
