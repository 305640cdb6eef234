-- SUMMARY: Reading back what was written: lists, options, fields and variants, and names.
import Bindings.Exchange.Name

/-!
# Reading what was written

Readers of lists, options, records and variants give back what was written if the
readers of the parts do. Readers of nested data are given a bound on the depth of the
value. Every part of a value is less deep than the value itself, so that the bound
suffices for the parts whenever it does for the whole.
-/
namespace Bindings

namespace Value

/-! ## Depth -/

theorem depth_pos (v : Value) : 0 < v.depth := by
  cases v <;> simp [depth]

/-- A depth that suffices for some value is not zero. -/
theorem exists_succ_of_depth_le {v : Value} {n : Nat} (h : v.depth ≤ n) : ∃ m, n = m + 1 :=
  Nat.exists_eq_add_one.mpr (Nat.lt_of_lt_of_le v.depth_pos h)

theorem depthAll_le_iff {items : List Value} {n : Nat} :
    depthAll items ≤ n ↔ ∀ v ∈ items, v.depth ≤ n := by
  induction items with
  | nil => simp [depthAll]
  | cons v vs ih => rw [depthAll, Nat.max_le, ih, List.forall_mem_cons]

theorem depthFields_le_iff {fields : List (String × Value)} {n : Nat} :
    depthFields fields ≤ n ↔ ∀ field ∈ fields, field.2.depth ≤ n := by
  induction fields with
  | nil => simp [depthFields]
  | cons field fields ih => rw [depthFields, Nat.max_le, ih, List.forall_mem_cons]

theorem depth_array_le_iff {items : List Value} {n : Nat} :
    (array items).depth ≤ n + 1 ↔ ∀ v ∈ items, v.depth ≤ n := by
  rw [depth, Nat.add_le_add_iff_right, depthAll_le_iff]

theorem depth_object_le_iff {fields : List (String × Value)} {n : Nat} :
    (object fields).depth ≤ n + 1 ↔ ∀ field ∈ fields, field.2.depth ≤ n := by
  rw [depth, Nat.add_le_add_iff_right, depthFields_le_iff]

theorem depth_variant_le_iff {name : String} {payload : Value} {n : Nat} :
    (variant name payload).depth ≤ n + 1 ↔ payload.depth ≤ n := by
  simp [variant, depth_object_le_iff]

/-- A bound on the depth is one on the depth of what is inside. -/
theorem depth_le_of_array {items : List Value} {n : Nat} (h : (array items).depth ≤ n) :
    ∀ v ∈ items, v.depth ≤ n :=
  depth_array_le_iff.mp (Nat.le_succ_of_le h)

theorem depth_le_of_object {fields : List (String × Value)} {n : Nat}
    (h : (object fields).depth ≤ n) : ∀ field ∈ fields, field.2.depth ≤ n :=
  depth_object_le_iff.mp (Nat.le_succ_of_le h)

theorem depth_le_of_part (name : String) {fields : List (String × Value)} {items : List Value}
    {n : Nat} (hparts : ∀ field ∈ fields, field.2.depth ≤ n) (h : (name, array items) ∈ fields) :
    ∀ v ∈ items, v.depth ≤ n :=
  depth_le_of_array (hparts _ h)

/-! ## Records and variants -/

@[simp] theorem fields?_object (names : List String) (fields : List (String × Value)) :
    (object fields).fields? names = some (names.map fun name => field name fields) := rfl

@[simp] theorem objectFields?_object (names : List String) (fields : List (String × Value)) :
    (object fields).objectFields? names = some (names.map fun name => field name fields) := rfl

@[simp] theorem field_cons_self (name : String) (v : Value) (fields : List (String × Value)) :
    field name ((name, v) :: fields) = v := by
  simp [field]

@[simp] theorem field_cons_of_ne {name key : String} (h : key ≠ name) (v : Value)
    (fields : List (String × Value)) : field name ((key, v) :: fields) = field name fields := by
  simp [field, h]

@[simp] theorem variant?_variant (name : String) (payload : Value) :
    (variant name payload).variant? = some (name, payload) := rfl

/-- What follows is looked at when the name of the variant is known, and not before. -/
@[simp ↓] theorem variant?_bind {β : Type} (name : String) (payload : Value)
    (next : String × Value → Option β) :
    (variant name payload).variant? >>= next = next (name, payload) := rfl

@[simp ↓] theorem fields?_bind {β : Type} (names : List String) (fields : List (String × Value))
    (next : List Value → Option β) :
    (object fields).fields? names >>= next = next (names.map fun name => field name fields) := rfl

@[simp] theorem variant?_string (name : String) : (string name).variant? = some (name, null) := rfl

@[simp] theorem string?_string (s : String) : (string s).string? = some s := rfl

@[simp] theorem bool?_bool (b : Bool) : (bool b).bool? = some b := rfl

@[simp] theorem empty?_null : null.empty? = some () := rfl

/-! ## Lists and options -/

section Parts

variable {α : Type} {read : Value → Option α} {encode : α → Value}

@[simp] theorem list?_array (items : List Value) : (array items).list? read = readAll read items :=
  rfl

theorem readAll_cons {v : Value} {vs : List Value} {a : α} {as : List α} (hv : read v = some a)
    (hvs : readAll read vs = some as) : readAll read (v :: vs) = some (a :: as) := by
  simp [readAll, hv, hvs]

theorem readAll_map {as : List α} (h : ∀ a ∈ as, read (encode a) = some a) :
    readAll read (as.map encode) = some as := by
  induction as with
  | nil => rfl
  | cons a as ih =>
    have ha := h a List.mem_cons_self
    have has := ih fun b hb => h b (List.mem_cons_of_mem _ hb)
    exact readAll_cons ha has

@[simp] theorem list?_list (h : ∀ a, read (encode a) = some a) (as : List α) :
    (list encode as).list? read = some as :=
  readAll_map fun a _ => h a

theorem option?_of_ne_null {v : Value} (h : v ≠ null) : v.option? read = some <$> read v := by
  cases v with
  | null => exact absurd rfl h
  | _ => rfl

@[simp] theorem option?_null : null.option? read = some none := rfl

/-- What is written for a value that is there must not be read as an absent one. -/
@[simp] theorem option?_option (hnull : ∀ a, encode a ≠ null)
    (h : ∀ a, read (encode a) = some a) (o : Option α) :
    (option encode o).option? read = some o := by
  cases o with
  | none => rfl
  | some a => simp [option, option?_of_ne_null (hnull a), h a]

end Parts

@[simp] theorem list?_string (ss : List String) : (list string ss).list? string? = some ss :=
  list?_list string?_string ss

@[simp] theorem option?_string (o : Option String) :
    (option string o).option? string? = some o := by
  cases o <;> rfl

/-- Distinct values are written differently if what is written can be read. -/
theorem injective_of_read {α : Type} {read : Value → Option α} {encode : α → Value}
    (h : ∀ a, read (encode a) = some a) {a b : α} (hab : encode a = encode b) : a = b := by
  have hread := h a
  rw [hab, h b] at hread
  exact (Option.some.inj hread).symm

end Value

/-! ## Names -/

namespace Name

@[simp] theorem encode_ne_null (n : Name) : n.encode ≠ .null := by
  cases n <;> nofun

theorem decodeWithin_encode {n : Name} {depth : Nat} (h : n.encode.depth ≤ depth) :
    decodeWithin depth n.encode = some n := by
  induction n generalizing depth with
  | ident s =>
    obtain ⟨depth, rfl⟩ := Value.exists_succ_of_depth_le h
    simp [encode, decodeWithin]
  | qualified outer s ih =>
    obtain ⟨depth, rfl⟩ := Value.exists_succ_of_depth_le h
    have hparts := Value.depth_le_of_object (Value.depth_variant_le_iff.mp h)
    have houter := ih (hparts ("left", outer.encode) List.mem_cons_self)
    simp [encode, decodeWithin, houter]

@[simp] theorem decode?_encode (n : Name) : decode? n.encode = some n :=
  decodeWithin_encode (Nat.le_refl _)

end Name

end Bindings
