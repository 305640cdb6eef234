-- SUMMARY: Values of the exchange format, and the readers for records, variants, lists and options.
import Bindings.Text.Segments

/-!
# Exchange values

Trees are exchanged as nested values. A record is written as an object with all
its fields; it is read from an object, where a missing field counts as `null`, or
from an array of exactly its fields in order. A variant is written as an object
with its name as the only key, or as the name alone when it carries nothing.
An absent option is written as `null`.
-/
namespace Bindings

/-- A value of the exchange format. Numbers are decimal: a mantissa and the
number of its digits after the point. -/
inductive Value where
  | null
  | bool (b : Bool)
  | number (mantissa : Int) (places : Nat)
  | string (s : String)
  | array (items : List Value)
  | object (fields : List (String × Value))
  deriving Inhabited

namespace Value

/-! ## Depth -/

mutual

/-- How deep values are nested in a value, itself included. -/
def depth : Value → Nat
  | null => 1
  | bool _ => 1
  | number _ _ => 1
  | string _ => 1
  | array items => depthAll items + 1
  | object fields => depthFields fields + 1

def depthAll : List Value → Nat
  | [] => 0
  | v :: vs => max v.depth (depthAll vs)

def depthFields : List (String × Value) → Nat
  | [] => 0
  | (_, v) :: fields => max v.depth (depthFields fields)

end

/-! ## Writing -/

def list (encode : α → Value) (items : List α) : Value := array (items.map encode)

def option (encode : α → Value) : Option α → Value
  | none => null
  | some a => encode a

/-- A variant that carries `payload`. -/
def variant (name : String) (payload : Value) : Value := object [(name, payload)]

/-! ## Reading -/

def bool? : Value → Option Bool
  | bool b => some b
  | _ => none

def string? : Value → Option String
  | string s => some s
  | _ => none

def items? : Value → Option (List Value)
  | array items => some items
  | _ => none

/-- The outcome of reading every item, if each can be read. -/
def readAll (read : Value → Option α) : List Value → Option (List α)
  | [] => some []
  | v :: vs => do
    let a ← read v
    let as ← readAll read vs
    return a :: as

def list? (read : Value → Option α) (v : Value) : Option (List α) := do
  let items ← v.items?
  readAll read items

/-- `null` is read as an absent option. -/
def option? (read : Value → Option α) : Value → Option (Option α)
  | null => some none
  | v => some <$> read v

/-- The field of an object; a missing one counts as `null`. -/
def field (name : String) : List (String × Value) → Value
  | [] => null
  | (key, v) :: fields => if key = name then v else field name fields

/-- The fields of an object with the given field names, in order. -/
def objectFields? (names : List String) : Value → Option (List Value)
  | object fields => some (names.map fun name => field name fields)
  | _ => none

/-- The fields of a record with the given field names, in order. -/
def fields? (names : List String) : Value → Option (List Value)
  | object fields => objectFields? names (object fields)
  | array items => if items.length = names.length then some items else none
  | _ => none

/-- The name of a variant and what it carries, `null` if nothing. -/
def variant? : Value → Option (String × Value)
  | string name => some (name, null)
  | object [(name, payload)] => some (name, payload)
  | _ => none

/-- Succeeds on a payload that carries nothing. -/
def empty? : Value → Option Unit
  | null => some ()
  | _ => none

end Value

end Bindings
