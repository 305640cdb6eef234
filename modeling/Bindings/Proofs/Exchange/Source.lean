-- SUMMARY: Source sets can be written and read back, with everything in them, and so can source sets of the model.
import Bindings.Exchange.Source.Decl
import Bindings.Proofs.Exchange.Model

/-!
# Sources, written and read

Reading what was written for a source set gives the set back, with the classes of the
model that stand among its members. No two source sets are written alike, and no two
source sets of the model are.
-/
namespace Bindings

namespace Source

/-! ## Types -/

@[simp] theorem Initializer.encode_ne_null (i : Initializer) : i.encode ≠ .null := nofun

@[simp] theorem Initializer.decode?_encode (i : Initializer) : decode? i.encode = some i := by
  simp [encode, decode?]

@[simp] theorem Tag.encode_ne_null (t : Tag) : t.encode ≠ .null := by
  cases t <;> nofun

/-- Nullability and tag stand behind the parts of every shape. -/
theorem Ty.complete?_encodeTag {read : Value → Option Tag} {tag : Option Tag}
    (h : (Ty.encodeTag tag).option? read = some tag) (shape : Shape) (nullable : Bool) :
    Ty.complete? read shape (.bool nullable) (Ty.encodeTag tag) = some ⟨shape, nullable, tag⟩ := by
  simp [Ty.complete?, h]

mutual

theorem Ty.decodeWithin_encode {n : Nat} (t : Ty) (h : t.encode.depth ≤ n) :
    Ty.decodeWithin n t.encode = some t := by
  obtain ⟨n, rfl⟩ := Value.exists_succ_of_depth_le h
  obtain ⟨shape, nullable, tag⟩ := t
  have hparts := Value.depth_le_of_object (Value.depth_variant_le_iff.mp h)
  have htag := Ty.option?_encodeTag tag (hparts ("meta", _) (by simp))
  have hcomplete := Ty.complete?_encodeTag htag
  cases shape with
  | named name args =>
    have hargs := Ty.readAll_encodeAll args
      (Value.depth_le_of_part "params" hparts (by simp [Shape.encodeParts]))
    simp only [Ty.encode, Shape.encodeParts]
    simp [Ty.decodeWithin, Shape.partNames, hargs, hcomplete]
  | union members =>
    have hmembers := Ty.readAll_encodeAll members
      (Value.depth_le_of_part "members" hparts (by simp [Shape.encodeParts]))
    simp only [Ty.encode, Shape.encodeParts]
    simp [Ty.decodeWithin, Shape.partNames, hmembers, hcomplete]
  | intersection members =>
    have hmembers := Ty.readAll_encodeAll members
      (Value.depth_le_of_part "members" hparts (by simp [Shape.encodeParts]))
    simp only [Ty.encode, Shape.encodeParts]
    simp [Ty.decodeWithin, Shape.partNames, hmembers, hcomplete]
  | tuple elements =>
    have helements := Ty.readAll_encodeAll elements
      (Value.depth_le_of_part "elements" hparts (by simp [Shape.encodeParts]))
    simp only [Ty.encode, Shape.encodeParts]
    simp [Ty.decodeWithin, Shape.partNames, helements, hcomplete]
  | function params result =>
    have hparams := Param.readAll_encodeAll params
      (Value.depth_le_of_part "parameters" hparts (by simp [Shape.encodeParts]))
    have hresult := Ty.decodeWithin_encode result
      (hparts ("return_type", _) (by simp [Shape.encodeParts]))
    simp only [Ty.encode, Shape.encodeParts]
    simp [Ty.decodeWithin, Shape.partNames, hparams, hresult, hcomplete]
  | generated name typeParams =>
    have htypeParams := TypeParam.readAll_encodeAll typeParams
      (Value.depth_le_of_part "type_parameters" hparts (by simp [Shape.encodeParts]))
    simp only [Ty.encode, Shape.encodeParts]
    simp [Ty.decodeWithin, Shape.partNames, htypeParams, hcomplete]
  | literal token =>
    simp only [Ty.encode, Shape.encodeParts]
    simp [Ty.decodeWithin, Shape.partNames, hcomplete]

theorem Tag.decodeWithin_encode {n : Nat} (t : Tag) (h : t.encode.depth ≤ n) :
    Tag.decodeWithin n t.encode = some t := by
  obtain ⟨n, rfl⟩ := Value.exists_succ_of_depth_le h
  cases t with
  | receiver => simp [Tag.encode, Tag.decodeWithin]
  | intersection members =>
    have hdepth := Value.depth_le_of_array (Value.depth_variant_le_iff.mp h)
    have hmembers := Ty.readAll_encodeAll members hdepth
    simp [Tag.encode, Tag.decodeWithin, hmembers]
  | mute => simp [Tag.encode, Tag.decodeWithin]
  | stringLiteral token => simp [Tag.encode, Tag.decodeWithin]

theorem Ty.option?_encodeTag {n : Nat} (tag : Option Tag) (h : (Ty.encodeTag tag).depth ≤ n) :
    (Ty.encodeTag tag).option? (Tag.decodeWithin n) = some tag := by
  cases tag with
  | none => rfl
  | some tag =>
    have htag := Tag.decodeWithin_encode tag h
    simp [Ty.encodeTag, Value.option?_of_ne_null, htag]

theorem Param.decodeWithin_encode {n : Nat} (p : Param) (h : p.encode.depth ≤ n) :
    Param.decodeWithin n p.encode = some p := by
  obtain ⟨n, rfl⟩ := Value.exists_succ_of_depth_le h
  obtain ⟨name, ty, initializer, vararg, isOptional⟩ := p
  have hparts := Value.depth_object_le_iff.mp h
  have hty := Ty.decodeWithin_encode ty (hparts ("ty", _) (by simp))
  simp [Param.encode, Param.decodeWithin, hty]

theorem TypeParam.decodeWithin_encode {n : Nat} (p : TypeParam) (h : p.encode.depth ≤ n) :
    TypeParam.decodeWithin n p.encode = some p := by
  obtain ⟨n, rfl⟩ := Value.exists_succ_of_depth_le h
  obtain ⟨name, constraints⟩ := p
  have hparts := Value.depth_object_le_iff.mp h
  have hconstraints :=
    Ty.readAll_encodeAll constraints (Value.depth_le_of_part "constraints" hparts (by simp))
  simp [TypeParam.encode, TypeParam.decodeWithin, hconstraints]

theorem Ty.readAll_encodeAll {n : Nat} (ts : List Ty) (h : ∀ v ∈ Ty.encodeAll ts, v.depth ≤ n) :
    Value.readAll (Ty.decodeWithin n) (Ty.encodeAll ts) = some ts := by
  cases ts with
  | nil => rfl
  | cons t ts =>
    obtain ⟨ht, hts⟩ := List.forall_mem_cons.mp h
    exact Value.readAll_cons (Ty.decodeWithin_encode t ht) (Ty.readAll_encodeAll ts hts)

theorem Param.readAll_encodeAll {n : Nat} (ps : List Param)
    (h : ∀ v ∈ Param.encodeAll ps, v.depth ≤ n) :
    Value.readAll (Param.decodeWithin n) (Param.encodeAll ps) = some ps := by
  cases ps with
  | nil => rfl
  | cons p ps =>
    obtain ⟨hp, hps⟩ := List.forall_mem_cons.mp h
    exact Value.readAll_cons (Param.decodeWithin_encode p hp) (Param.readAll_encodeAll ps hps)

theorem TypeParam.readAll_encodeAll {n : Nat} (ps : List TypeParam)
    (h : ∀ v ∈ TypeParam.encodeAll ps, v.depth ≤ n) :
    Value.readAll (TypeParam.decodeWithin n) (TypeParam.encodeAll ps) = some ps := by
  cases ps with
  | nil => rfl
  | cons p ps =>
    obtain ⟨hp, hps⟩ := List.forall_mem_cons.mp h
    exact Value.readAll_cons (TypeParam.decodeWithin_encode p hp)
      (TypeParam.readAll_encodeAll ps hps)

end

@[simp] theorem Ty.decode?_encode (t : Ty) : Ty.decode? t.encode = some t :=
  Ty.decodeWithin_encode t (Nat.le_refl _)

@[simp] theorem Param.decode?_encode (p : Param) : Param.decode? p.encode = some p :=
  Param.decodeWithin_encode p (Nat.le_refl _)

@[simp] theorem TypeParam.decode?_encode (p : TypeParam) : TypeParam.decode? p.encode = some p :=
  TypeParam.decodeWithin_encode p (Nat.le_refl _)

/-! ## Members -/

@[simp] theorem Constructor.encode_ne_null (c : Constructor) : c.encode ≠ .null := nofun

@[simp] theorem Constructor.decode?_encode (c : Constructor) : decode? c.encode = some c := by
  simp [encode, decode?]

@[simp] theorem Method.decode?_encode (m : Method) : decode? m.encode = some m := by
  simp [encode, decode?]

@[simp] theorem Property.decode?_encode (p : Property) : decode? p.encode = some p := by
  simp [encode, decode?]

@[simp] theorem Getter.decode?_encode (g : Getter) : decode? g.encode = some g := by
  simp [encode, decode?]

@[simp] theorem Member.decode?_encode (m : Member) : decode? m.encode = some m := by
  cases m <;> simp [encode, decode?]

@[simp] theorem HeritageSymbol.decode?_encode (s : HeritageSymbol) :
    decode? s.encode = some s := by
  cases s <;> simp [encode, decode?]

@[simp] theorem Heritage.decode?_encode (h : Heritage) : decode? h.encode = some h := by
  simp [encode, decode?]

/-! ## Declarations -/

@[simp] theorem Class.decode?_encode (c : Class) : decode? c.encode = some c := by
  simp [encode, decode?]

@[simp] theorem Interface.decode?_encode (i : Interface) : decode? i.encode = some i := by
  simp [encode, decode?]

@[simp] theorem Function.decode?_encode (f : Function) : decode? f.encode = some f := by
  simp [encode, decode?]

@[simp] theorem Variable.decode?_encode (v : Variable) : decode? v.encode = some v := by
  simp [encode, decode?]

@[simp] theorem Object.decode?_encode (o : Object) : decode? o.encode = some o := by
  simp [encode, decode?]

@[simp] theorem Alias.decode?_encode (a : Alias) : decode? a.encode = some a := by
  simp [encode, decode?]

@[simp] theorem ImportEquals.decode?_encode (i : ImportEquals) : decode? i.encode = some i := by
  simp [encode, decode?]

@[simp] theorem ExportAssignment.decode?_encode (e : ExportAssignment) :
    decode? e.encode = some e := by
  simp [encode, decode?]

@[simp] theorem Binding.decode?_encode (b : Binding) : decode? b.encode = some b := by
  cases b <;> simp [encode, decode?]

/-! ## Source sets -/

mutual

theorem Decl.decodeWithin_encode {n : Nat} (d : Decl) (h : d.encode.depth ≤ n) :
    Decl.decodeWithin n d.encode = some d := by
  obtain ⟨n, rfl⟩ := Value.exists_succ_of_depth_le h
  cases d with
  | moduleDecl m =>
    have hm := Module.decodeWithin_encode m (Value.depth_variant_le_iff.mp h)
    simp [Decl.encode, Decl.decodeWithin, hm]
  | _ => simp [Decl.encode, Decl.decodeWithin]

theorem Module.decodeWithin_encode {n : Nat} (m : Module) (h : m.encode.depth ≤ n) :
    Module.decodeWithin n m.encode = some m := by
  obtain ⟨n, rfl⟩ := Value.exists_succ_of_depth_le h
  obtain ⟨package, declarations, qualifier, binding⟩ := m
  have hparts := Value.depth_object_le_iff.mp h
  have hdeclarations :=
    Decl.readAll_encodeAll declarations (Value.depth_le_of_part "declarations" hparts (by simp))
  simp [Module.encode, Module.decodeWithin, hdeclarations]

theorem Decl.readAll_encodeAll {n : Nat} (ds : List Decl)
    (h : ∀ v ∈ Decl.encodeAll ds, v.depth ≤ n) :
    Value.readAll (Decl.decodeWithin n) (Decl.encodeAll ds) = some ds := by
  cases ds with
  | nil => rfl
  | cons d ds =>
    obtain ⟨hd, hds⟩ := List.forall_mem_cons.mp h
    exact Value.readAll_cons (Decl.decodeWithin_encode d hd) (Decl.readAll_encodeAll ds hds)

end

@[simp] theorem Module.decode?_encode (m : Module) : Module.decode? m.encode = some m :=
  Module.decodeWithin_encode m (Nat.le_refl _)

@[simp] theorem File.decode?_encode (f : File) : decode? f.encode = some f := by
  simp [encode, decode?]

@[simp] theorem SourceSet.decode?_encode (s : SourceSet) : decode? s.encode = some s := by
  simp [encode, decode?]

end Source

/-! ## Both forms -/

/-- What is written for a source set, before or after it is modelled, is read as that
set and is written for no other. -/
theorem decode?_encode_sourceSets :
    (∀ s : Source.SourceSet, Source.SourceSet.decode? s.encode = some s) ∧
      (∀ s : Model.SourceSet, Model.SourceSet.decode? s.encode = some s) ∧
      (∀ s t : Source.SourceSet, s.encode = t.encode → s = t) ∧
      ∀ s t : Model.SourceSet, s.encode = t.encode → s = t := by
  have hsource := Source.SourceSet.decode?_encode
  have hmodel := Model.SourceSet.decode?_encode
  exact ⟨hsource, hmodel, fun _ _ => Value.injective_of_read hsource,
    fun _ _ => Value.injective_of_read hmodel⟩

end Bindings
