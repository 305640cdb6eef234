-- SUMMARY: Source sets of the model can be written and read back, with everything in them.
import Bindings.Exchange.Model.Module
import Bindings.Proofs.Exchange.Reading

/-!
# The model, written and read

Reading what was written for a source set of the model gives the set back. Types are
nested in one another, members and classes are, and so are modules; for these the
readers are given a depth, and any depth that suffices for the written value does.
-/
namespace Bindings.Model

/-! ## Types -/

@[simp] theorem Reference.encode_ne_null (r : Reference) : r.encode ≠ .null := by
  cases r
  nofun

mutual

theorem Ty.decodeWithin_encode {n : Nat} (t : Ty) (h : t.encode.depth ≤ n) :
    Ty.decodeWithin n t.encode = some t := by
  obtain ⟨n, rfl⟩ := Value.exists_succ_of_depth_le h
  cases t with
  | ref r =>
    have hr := Reference.decodeWithin_encode r (Value.depth_variant_le_iff.mp h)
    simp [Ty.encode, Ty.decodeWithin, hr]
  | function params result description nullable =>
    have hparts := Value.depth_le_of_object (Value.depth_variant_le_iff.mp h)
    have hparams :=
      Ty.readAll_encodeParams params (Value.depth_le_of_part "parameters" hparts (by simp))
    have hresult := Ty.decodeWithin_encode result (hparts ("return_type", _) (by simp))
    simp [Ty.encode, Ty.decodeWithin, hparams, hresult]

theorem Reference.decodeWithin_encode {n : Nat} (r : Reference) (h : r.encode.depth ≤ n) :
    Reference.decodeWithin n r.encode = some r := by
  obtain ⟨n, rfl⟩ := Value.exists_succ_of_depth_le h
  obtain ⟨name, args, description, nullable⟩ := r
  have hparts := Value.depth_object_le_iff.mp h
  have hargs := Ty.readAll_encodeAll args (Value.depth_le_of_part "params" hparts (by simp))
  simp [Reference.encode, Reference.decodeWithin, hargs]

theorem Param.decodeWithin_encode {n : Nat} (p : Param) (h : p.encode.depth ≤ n) :
    Param.decodeWithin n p.encode = some p := by
  obtain ⟨n, rfl⟩ := Value.exists_succ_of_depth_le h
  obtain ⟨name, ty, initializer, vararg, isOptional⟩ := p
  have hparts := Value.depth_object_le_iff.mp h
  have hty := Ty.decodeWithin_encode ty (hparts ("ty", _) (by simp))
  have hinitializer :=
    Param.option?_encodeInitializer initializer (hparts ("initializer", _) (by simp))
  simp [Param.encode, Param.decodeWithin, hty, hinitializer]

theorem Param.option?_encodeInitializer {n : Nat} (o : Option Reference)
    (h : (Param.encodeInitializer o).depth ≤ n) :
    (Param.encodeInitializer o).option? (Reference.decodeWithin n) = some o := by
  cases o with
  | none => rfl
  | some r =>
    have hr := Reference.decodeWithin_encode r h
    simp [Param.encodeInitializer, Value.option?_of_ne_null, hr]

theorem Ty.readAll_encodeAll {n : Nat} (ts : List Ty)
    (h : ∀ v ∈ Ty.encodeAll ts, v.depth ≤ n) :
    Value.readAll (Ty.decodeWithin n) (Ty.encodeAll ts) = some ts := by
  cases ts with
  | nil => rfl
  | cons t ts =>
    obtain ⟨ht, hts⟩ := List.forall_mem_cons.mp h
    exact Value.readAll_cons (Ty.decodeWithin_encode t ht) (Ty.readAll_encodeAll ts hts)

theorem Ty.readAll_encodeParams {n : Nat} (ps : List Param)
    (h : ∀ v ∈ Ty.encodeParams ps, v.depth ≤ n) :
    Value.readAll (Param.decodeWithin n) (Ty.encodeParams ps) = some ps := by
  cases ps with
  | nil => rfl
  | cons p ps =>
    obtain ⟨hp, hps⟩ := List.forall_mem_cons.mp h
    exact Value.readAll_cons (Param.decodeWithin_encode p hp) (Ty.readAll_encodeParams ps hps)

end

@[simp] theorem Ty.decode?_encode (t : Ty) : Ty.decode? t.encode = some t :=
  Ty.decodeWithin_encode t (Nat.le_refl _)

@[simp] theorem Reference.decode?_encode (r : Reference) : Reference.decode? r.encode = some r :=
  Reference.decodeWithin_encode r (Nat.le_refl _)

@[simp] theorem Param.decode?_encode (p : Param) : Param.decode? p.encode = some p :=
  Param.decodeWithin_encode p (Nat.le_refl _)

@[simp] theorem TypeParam.decode?_encode (p : TypeParam) : TypeParam.decode? p.encode = some p := by
  simp [TypeParam.encode, TypeParam.decode?]

/-! ## Members -/

@[simp] theorem Annotation.decode?_encode (a : Annotation) : decode? a.encode = some a := by
  simp [encode, decode?]

@[simp] theorem Heritage.decode?_encode (h : Heritage) : decode? h.encode = some h := by
  simp [encode, decode?]

@[simp] theorem Constructor.encode_ne_null (c : Constructor) : c.encode ≠ .null := nofun

@[simp] theorem Constructor.decode?_encode (c : Constructor) : decode? c.encode = some c := by
  simp [encode, decode?]

@[simp] theorem Method.decode?_encode (m : Method) : decode? m.encode = some m := by
  simp [encode, decode?]

@[simp] theorem Property.decode?_encode (p : Property) : decode? p.encode = some p := by
  simp [encode, decode?]

mutual

theorem Member.decodeWithin_encode {n : Nat} (m : Member) (h : m.encode.depth ≤ n) :
    Member.decodeWithin n m.encode = some m := by
  obtain ⟨n, rfl⟩ := Value.exists_succ_of_depth_le h
  cases m with
  | constructor c => simp [Member.encode, Member.decodeWithin]
  | method m => simp [Member.encode, Member.decodeWithin]
  | property p => simp [Member.encode, Member.decodeWithin]
  | nested c =>
    have hc := Class.decodeWithin_encode c (Value.depth_variant_le_iff.mp h)
    simp [Member.encode, Member.decodeWithin, hc]

theorem Companion.decodeWithin_encode {n : Nat} (c : Companion) (h : c.encode.depth ≤ n) :
    Companion.decodeWithin n c.encode = some c := by
  obtain ⟨n, rfl⟩ := Value.exists_succ_of_depth_le h
  obtain ⟨name, members, parents⟩ := c
  have hparts := Value.depth_object_le_iff.mp h
  have hmembers :=
    Member.readAll_encodeAll members (Value.depth_le_of_part "members" hparts (by simp))
  simp [Companion.encode, Companion.decodeWithin, hmembers]

theorem Class.decodeWithin_encode {n : Nat} (c : Class) (h : c.encode.depth ≤ n) :
    Class.decodeWithin n c.encode = some c := by
  obtain ⟨n, rfl⟩ := Value.exists_succ_of_depth_le h
  obtain ⟨name, members, companion, primary, typeParams, parents, annotations⟩ := c
  have hparts := Value.depth_object_le_iff.mp h
  have hmembers :=
    Member.readAll_encodeAll members (Value.depth_le_of_part "members" hparts (by simp))
  have hcompanion :=
    Companion.decodeWithin_encode companion (hparts ("companion_object", _) (by simp))
  simp [Class.encode, Class.decodeWithin, hmembers, hcompanion]

theorem Member.readAll_encodeAll {n : Nat} (ms : List Member)
    (h : ∀ v ∈ Member.encodeAll ms, v.depth ≤ n) :
    Value.readAll (Member.decodeWithin n) (Member.encodeAll ms) = some ms := by
  cases ms with
  | nil => rfl
  | cons m ms =>
    obtain ⟨hm, hms⟩ := List.forall_mem_cons.mp h
    exact Value.readAll_cons (Member.decodeWithin_encode m hm) (Member.readAll_encodeAll ms hms)

end

@[simp] theorem Member.decode?_encode (m : Member) : Member.decode? m.encode = some m :=
  Member.decodeWithin_encode m (Nat.le_refl _)

@[simp] theorem Companion.decode?_encode (c : Companion) : Companion.decode? c.encode = some c :=
  Companion.decodeWithin_encode c (Nat.le_refl _)

@[simp] theorem Class.decode?_encode (c : Class) : Class.decode? c.encode = some c :=
  Class.decodeWithin_encode c (Nat.le_refl _)

/-! ## Declarations -/

@[simp] theorem Interface.decode?_encode (i : Interface) : decode? i.encode = some i := by
  simp [encode, decode?]

@[simp] theorem Function.decode?_encode (f : Function) : decode? f.encode = some f := by
  simp [encode, decode?]

@[simp] theorem Variable.decode?_encode (v : Variable) : decode? v.encode = some v := by
  simp [encode, decode?]

@[simp] theorem EnumToken.decode?_encode (t : EnumToken) : decode? t.encode = some t := by
  simp [encode, decode?]

@[simp] theorem Enum.decode?_encode (e : Enum) : decode? e.encode = some e := by
  simp [encode, decode?]

@[simp] theorem Object.decode?_encode (o : Object) : decode? o.encode = some o := by
  simp [encode, decode?]

@[simp] theorem Alias.decode?_encode (a : Alias) : decode? a.encode = some a := by
  simp [encode, decode?]

@[simp] theorem Decl.decode?_encode (d : Decl) : decode? d.encode = some d := by
  cases d <;> simp [encode, decode?]

/-! ## Source sets -/

mutual

theorem Module.decodeWithin_encode {n : Nat} (m : Module) (h : m.encode.depth ≤ n) :
    Module.decodeWithin n m.encode = some m := by
  obtain ⟨n, rfl⟩ := Value.exists_succ_of_depth_le h
  obtain ⟨qualifier, name, shortName, declarations, annotations, submodules, imports⟩ := m
  have hparts := Value.depth_object_le_iff.mp h
  have hsubmodules :=
    Module.readAll_encodeAll submodules (Value.depth_le_of_part "submodules" hparts (by simp))
  simp [Module.encode, Module.decodeWithin, hsubmodules]

theorem Module.readAll_encodeAll {n : Nat} (ms : List Module)
    (h : ∀ v ∈ Module.encodeAll ms, v.depth ≤ n) :
    Value.readAll (Module.decodeWithin n) (Module.encodeAll ms) = some ms := by
  cases ms with
  | nil => rfl
  | cons m ms =>
    obtain ⟨hm, hms⟩ := List.forall_mem_cons.mp h
    exact Value.readAll_cons (Module.decodeWithin_encode m hm) (Module.readAll_encodeAll ms hms)

end

@[simp] theorem Module.decode?_encode (m : Module) : Module.decode? m.encode = some m :=
  Module.decodeWithin_encode m (Nat.le_refl _)

@[simp] theorem File.decode?_encode (f : File) : decode? f.encode = some f := by
  simp [encode, decode?]

@[simp] theorem SourceSet.decode?_encode (s : SourceSet) : decode? s.encode = some s := by
  simp [encode, decode?]

end Bindings.Model
