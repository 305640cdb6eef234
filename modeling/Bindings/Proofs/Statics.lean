-- SUMMARY: Where statics are left among instance members: only in classes inside companions of classes that were built before.
import Bindings.Proofs.Contents
import Bindings.Proofs.Reservation
import Bindings.Proofs.Resplitting

/-!
# Statics among instance members

Classes and interfaces are modelled with their statics in a companion. A class of the
model that becomes a member is re-split, and so are the classes nested in it by way of
members. A class that stands in a companion is not looked at: it keeps the statics it
has among its members, and so do the classes inside it. Nowhere else in a module is
there a static among the members of a class or interface.
-/
namespace Bindings

namespace Model

/-! ## Classes inside classes -/

/-- Whether the second class is the first or stands inside it, by way of members or of
members of companions. -/
inductive Class.Encloses : Class → Class → Prop
  | self {c : Class} : Class.Encloses c c
  | member {c d e : Class} (hd : .nested d ∈ c.members) (h : Class.Encloses d e) :
      Class.Encloses c e
  | companion {c d e : Class} (hd : .nested d ∈ c.companion.members) (h : Class.Encloses d e) :
      Class.Encloses c e

/-- Whether no static is among the members of the class or of a class inside it. -/
def Class.KeepsApart (c : Class) : Prop := ∀ d, c.Encloses d → d.IsApart

/-- Whether no static is among the given members or among those of a class inside them
or inside the members of their companion. -/
structure Member.KeepApart (members companion : List Member) : Prop where
  isStatic : ∀ m ∈ members, m.isStatic = false
  inMembers : ∀ d, .nested d ∈ members → d.KeepsApart
  inCompanion : ∀ d, .nested d ∈ companion → d.KeepsApart

theorem Class.keepsApart_iff {c : Class} :
    c.KeepsApart ↔ Member.KeepApart c.members c.companion.members := by
  constructor
  · intro h
    exact ⟨h c .self, fun d hd e he => h e (.member hd he), fun d hd e he => h e (.companion hd he)⟩
  · intro h d hd
    cases hd with
    | self => exact h.isStatic
    | member he hd => exact h.inMembers _ he d hd
    | companion he hd => exact h.inCompanion _ he d hd

/-- Whether the classes in companions keep their statics apart, in the companion of the
class and of every class it reaches by way of members. -/
def Class.CompanionsKeepApart (c : Class) : Prop :=
  ∀ d, c.Reaches d → ∀ e, .nested e ∈ d.companion.members → e.KeepsApart

theorem Class.companionsKeepApart_iff {c : Class} :
    c.CompanionsKeepApart ↔ (∀ e, .nested e ∈ c.companion.members → e.KeepsApart) ∧
      ∀ d, .nested d ∈ c.members → d.CompanionsKeepApart := by
  constructor
  · intro h
    exact ⟨h c .self, fun d hd e he => h e (.member hd he)⟩
  · rintro ⟨hself, hnested⟩ d hd
    cases hd with
    | self => exact hself
    | member he h => exact hnested _ he d h

theorem Class.nested_mem_companion_resplit_iff {c d : Class} :
    .nested d ∈ c.resplit.companion.members ↔ .nested d ∈ c.companion.members := by
  simp [Class.companion_resplit, Member.isStatic]

/-- Re-splitting sees to everything but the classes in companions. -/
theorem Class.keepsApart_resplit_iff (c : Class) :
    c.resplit.KeepsApart ↔ c.CompanionsKeepApart := by
  induction c using Class.induct with
  | step c ih _ =>
    rw [Class.keepsApart_iff, Class.companionsKeepApart_iff]
    constructor
    · rintro ⟨-, hmembers, hcompanion⟩
      constructor
      · intro e he
        exact hcompanion e (Class.nested_mem_companion_resplit_iff.mpr he)
      · intro d hd
        exact (ih d hd).mp (hmembers _ (Class.nested_mem_resplit_iff.mpr ⟨d, hd, rfl⟩))
    · rintro ⟨hcompanion, hnested⟩
      refine ⟨c.isApart_resplit, ?_, ?_⟩
      · intro d hd
        obtain ⟨d₀, hd₀, rfl⟩ := Class.nested_mem_resplit_iff.mp hd
        exact (ih d₀ hd₀).mpr (hnested d₀ hd₀)
      · intro d hd
        exact hcompanion d (Class.nested_mem_companion_resplit_iff.mp hd)

/-! ## Declarations and modules -/

/-- Whether no class or interface inside the declaration has a static among its members.
An object has no companion, and may have statics itself. -/
def Decl.KeepsApart : Decl → Prop
  | .classDecl c => c.KeepsApart
  | .interfaceDecl i => Member.KeepApart i.members i.companion.members
  | .objectDecl o => ∀ c, .nested c ∈ o.members → c.KeepsApart
  | .functionDecl _ => True
  | .variableDecl _ => True
  | .enumDecl _ => True
  | .aliasDecl _ => True

/-- Whether no class or interface of the module, at any depth, has a static among its
members. -/
def Module.KeepsApart (m : Module) : Prop :=
  ∀ n : Module, n.Inside m → ∀ d ∈ n.declarations, d.KeepsApart

end Model

namespace Source

/-! ## Sources -/

/-- Whether the first module is the second or stands in it, at any depth. -/
inductive Module.Inside : Module → Module → Prop
  | self {m : Module} : Module.Inside m m
  | nested {k n m : Module} (hn : n ∈ m.nested) (h : Module.Inside k n) : Module.Inside k m

/-- The members of a class-like declaration. -/
def Decl.members : Decl → List Member
  | .classDecl c => c.members
  | .interfaceDecl i => i.members
  | .objectDecl o => o.members
  | _ => []

/-- Whether every class that was built before keeps the statics of the classes in its
companions apart, and so does every class that it reaches by way of members. -/
def Member.CompanionsKeepApart (ms : List Member) : Prop :=
  ∀ c, .built c ∈ ms → c.CompanionsKeepApart

/-- The same for all members of the module, at any depth. -/
def Module.CompanionsKeepApart (m : Module) : Prop :=
  ∀ n : Module, n.Inside m → ∀ d ∈ n.declarations, Member.CompanionsKeepApart d.members

/-! ## Models of declarations -/

theorem Member.nested_not_mem_statics {ms : List Member} {d : Model.Class} :
    .nested d ∉ (Member.toSplit ms).value.statics := by
  intro hd
  rw [Member.value_toSplit] at hd
  exact Bool.false_ne_true (List.of_mem_filter hd)

theorem Member.keepApart_toSplit_iff (ms : List Member) :
    Model.Member.KeepApart (Member.toSplit ms).value.instances (Member.toSplit ms).value.statics ↔
      Member.CompanionsKeepApart ms := by
  constructor
  · intro h c hc
    rw [← Model.Class.keepsApart_resplit_iff]
    exact h.inMembers _ (Member.nested_mem_instances_iff.mpr ⟨c, hc, rfl⟩)
  · intro h
    refine ⟨Member.isStatic_of_mem_instances, ?_, ?_⟩
    · intro d hd
      obtain ⟨c, hc, rfl⟩ := Member.nested_mem_instances_iff.mp hd
      exact c.keepsApart_resplit_iff.mpr (h c hc)
    · intro d hd
      exact absurd hd Member.nested_not_mem_statics

theorem Object.keepsApart_members_iff (o : Object) :
    (∀ c, .nested c ∈ o.toModel.value.members → c.KeepsApart) ↔
      Member.CompanionsKeepApart o.members := by
  have hmembers : o.toModel.value.members = o.members.map fun m => m.toModel.value := by
    simp [Object.toModel]
  simp only [hmembers, Member.nested_mem_models_iff]
  constructor
  · intro h c hc
    exact c.keepsApart_resplit_iff.mp (h _ ⟨c, hc, rfl⟩)
  · rintro h _ ⟨c, hc, rfl⟩
    exact c.keepsApart_resplit_iff.mpr (h c hc)

theorem Decl.keepsApart_declared_iff (d : Decl) :
    (∀ d' ∈ d.declared, d'.KeepsApart) ↔ Member.CompanionsKeepApart d.members := by
  have hsingle (d' : Model.Decl) : (∀ e ∈ [d'], e.KeepsApart) ↔ d'.KeepsApart := by simp
  have hnone : Member.CompanionsKeepApart [] := by
    intro c hc
    cases hc
  cases d with
  | classDecl c =>
    exact (hsingle (.classDecl c.toModel.value)).trans
      (Model.Class.keepsApart_iff.trans (Member.keepApart_toSplit_iff c.members))
  | interfaceDecl i =>
    exact (hsingle (.interfaceDecl i.toModel.value)).trans (Member.keepApart_toSplit_iff i.members)
  | objectDecl o =>
    exact (hsingle (.objectDecl o.toModel.value)).trans o.keepsApart_members_iff
  | functionDecl f => exact (hsingle _).trans (iff_of_true trivial hnone)
  | variableDecl v => exact (hsingle _).trans (iff_of_true trivial hnone)
  | enumDecl e => exact (hsingle _).trans (iff_of_true trivial hnone)
  | aliasDecl a =>
    refine iff_of_true ?_ hnone
    cases ha : a.hasCounterpart with
    | true => simp [Decl.declared_aliasDecl ha, Model.Decl.KeepsApart]
    | false => simp [Decl.declared_of_not_isDeclared (d := .aliasDecl a) ha]
  | moduleDecl m => exact iff_of_true (fun _ h => nomatch h) hnone
  | importEquals i => exact iff_of_true (fun _ h => nomatch h) hnone
  | exportAssignment e => exact iff_of_true (fun _ h => nomatch h) hnone

/-! ## Models of modules -/

/-- The modules inside a model are the models of the modules inside. -/
theorem Module.inside_toModel_iff {m : Module} {k' : Model.Module} :
    k'.Inside m.toModel.value ↔ ∃ k : Module, k.Inside m ∧ k' = k.toModel.value := by
  constructor
  · intro h
    generalize hm : m.toModel.value = m' at h
    induction h generalizing m with
    | self => exact ⟨m, .self, hm.symm⟩
    | nested hn _ ih =>
      subst hm
      rw [Module.submodules_toModel] at hn
      obtain ⟨n, hn, hmodel⟩ := List.mem_map.mp hn
      obtain ⟨k, hk, rfl⟩ := ih hmodel
      exact ⟨k, .nested hn hk, rfl⟩
  · rintro ⟨k, hk, rfl⟩
    induction hk with
    | self => exact .self
    | nested hn _ ih =>
      refine .nested ?_ ih
      rw [Module.submodules_toModel]
      exact List.mem_map_of_mem hn

theorem Module.keepsApart_declarations_iff (m : Module) :
    (∀ d' ∈ m.toModel.value.declarations, d'.KeepsApart) ↔
      ∀ d ∈ m.declarations, Member.CompanionsKeepApart d.members := by
  simp only [Module.declarations_toModel, List.mem_flatMap, ← Decl.keepsApart_declared_iff]
  constructor
  · intro h d hd d' hd'
    exact h d' ⟨d, hd, hd'⟩
  · rintro h d' ⟨d, hd, hd'⟩
    exact h d hd d' hd'

/-- The model of a module keeps statics apart exactly if the source does so where the
model does not look: in classes inside companions of classes that were built before. -/
theorem Module.keepsApart_toModel_iff (m : Module) :
    m.toModel.value.KeepsApart ↔ m.CompanionsKeepApart := by
  constructor
  · intro h k hk
    rw [← Module.keepsApart_declarations_iff]
    exact h _ (Module.inside_toModel_iff.mpr ⟨k, hk, rfl⟩)
  · intro h k' hk'
    obtain ⟨k, hk, rfl⟩ := Module.inside_toModel_iff.mp hk'
    exact (Module.keepsApart_declarations_iff k).mpr (h k hk)

/-! ## A class in a companion -/

/-- `static of(): Unit`. -/
def staticMethod : Model.Member :=
  .method ⟨"of", [], .ref (.simple (.ident "Unit")), [], true, false, false, [], false, true⟩

/-- A class with nothing but members, in itself and in its companion. -/
def bareClass (name : String) (members companion : List Model.Member) : Model.Class :=
  ⟨.ident name, members, .ofMembers companion, none, [], [], []⟩

/-- A class with a member that was built before. The companion of that member holds a
class with a static method. -/
def staticInCompanion : Module :=
  .plain (.ident "lib") [.classDecl ⟨.ident "Outer",
    [.built (bareClass "Middle" [] [.nested (bareClass "Inner" [staticMethod] [])])],
    none, [], [], []⟩]

/-- The static method is still among the members of its class in the model. -/
theorem Module.not_keepsApart_staticInCompanion :
    ¬ staticInCompanion.toModel.value.KeepsApart := by
  intro h
  let inner := bareClass "Inner" [staticMethod] []
  let middle := bareClass "Middle" [] [.nested inner]
  let outer := bareClass "Outer" [.nested middle] []
  have houter : outer.KeepsApart := h _ .self (.classDecl outer) List.mem_cons_self
  have hinner : outer.Encloses inner :=
    .member (d := middle) List.mem_cons_self (.companion (d := inner) List.mem_cons_self .self)
  have hstatic := houter inner hinner staticMethod List.mem_cons_self
  cases hstatic

end Source

end Bindings
