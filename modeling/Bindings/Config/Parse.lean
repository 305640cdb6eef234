-- SUMMARY: Reading of a configuration from its JSON text, and from the bytes of a file.
import Bindings.Config.Basic
import Bindings.Config.Reader

/-!
# Configuration texts

A record is written as an object, where unknown fields are ignored and known ones
may stand once, or as a list of its fields in order, where the last ones may be
missing. The text is read from left to right and the first problem wins, whether
the text is malformed there or says something unacceptable.
-/
namespace Bindings.Config

open Reader

/-! ## Parts -/

/-- The fault of a value that is not of the wanted kind. Anything but a list or
record is read to its end first, so that a malformed value counts as that. -/
def wrongType (wanted : Wanted) : Reader α := do
  let refuse (found : Found) : Reader α := throw (.unacceptable (.wrongType found wanted))
  match ← peekToken? with
  | none => throw .endOfText
  | some 'n' =>
    word "null".toList
    refuse .null
  | some 't' =>
    word "true".toList
    refuse (.bool true)
  | some 'f' =>
    word "false".toList
    refuse (.bool false)
  | some '"' =>
    let s ← quoted .strict
    refuse (.string s)
  | some '[' => refuse .list
  | some '\x7b' => refuse .record
  | some c =>
    if !startsNumber c then throw .malformed
    let found ← number
    refuse found

/-- `null`, or what `read` reads. -/
def nullable (read : Reader α) : Reader (Option α) := do
  match ← peekToken? with
  | some 'n' =>
    word "null".toList
    return none
  | _ => some <$> read

def string : Reader String := do
  match ← peekToken? with
  | some '"' => quoted .strict
  | _ => wrongType .string

/-- The strings of a list and its end. -/
def stringsWithin : (limit : Nat) → (isFirst : Bool) → Reader (List String)
  | 0, _ => throw .endOfText
  | limit + 1, isFirst => do
    if ← nextItem isFirst then
      let s ← string
      let rest ← stringsWithin limit false
      return s :: rest
    else
      skipOne
      return []

def strings : Reader (List String) := do
  match ← peekToken? with
  | some '[' =>
    skipOne
    let limit ← stepLimit
    stringsWithin limit true
  | _ => wrongType .list

/-- A switch: a boolean or one of the words for it. -/
def switch (room : Room) : Reader Bool := do
  match ← anyValue room with
  | .bool b => return b
  | .string s =>
    match switch? s with
    | some b => return b
    | none => throw (.unacceptable (.unknownSwitch s))
  | .other => throw (.unacceptable .notASwitch)

/-! ## Records -/

/-- A known field of a record: its name, and how its value is read and kept. -/
structure Field (ρ : Type) where
  name : String
  read : Room → ρ → Reader ρ

/-- The rest of a record that is written as a list, and its end. -/
def listedFields (room : Room) : List (Field ρ) → ρ → (isFirst : Bool) → Reader ρ
  | [], record, _ => finish record
  | field :: fields, record, isFirst => do
    if ← nextItem isFirst then
      let record ← field.read room record
      listedFields room fields record false
    else finish record
where
  finish (record : ρ) : Reader ρ := do
    match ← peekToken? with
    | none => throw .endOfText
    | some ']' =>
      skipOne
      return record
    | some _ => throw .malformed

/-- The rest of a record that is written as an object, and its end. `seen` are
the known fields so far. -/
def namedFieldsWithin (room : Room) (fields : List (Field ρ)) :
    (limit : Nat) → (seen : List String) → ρ → (isFirst : Bool) → Reader ρ
  | 0, _, _, _ => throw .endOfText
  | limit + 1, seen, record, isFirst => do
    if ← nextField isFirst then
      let name ← quoted .strict
      match fields.find? fun field => field.name == name with
      | some field =>
        if seen.contains name then throw (.unacceptable (.repeatedField name))
        colon
        let record ← field.read room record
        namedFieldsWithin room fields limit (name :: seen) record false
      | none =>
        colon
        skipValue
        namedFieldsWithin room fields limit seen record false
    else
      skipOne
      return record

/-- A record with the given fields; `empty` has none of them. -/
def record (wanted : Wanted) (fields : List (Field ρ)) (empty : ρ) (room : Room) : Reader ρ := do
  match ← peekToken? with
  | some '[' =>
    let room ← enter room
    skipOne
    listedFields room fields empty true
  | some '\x7b' =>
    let room ← enter room
    skipOne
    let limit ← stepLimit
    namedFieldsWithin room fields limit [] empty true
  | _ => wrongType wanted

/-! ## The configuration -/

def passOptions : Room → Reader PassOptions :=
  record .passOptions
    [⟨"itemArrayLike", fun room _ => return ⟨← nullable (switch room)⟩⟩]
    ⟨none⟩

def config : Room → Reader Config :=
  record .config
    [⟨"libRootPackage", fun _ c => return { c with libRootPackage := ← nullable string }⟩,
      ⟨"workingDirectory", fun _ c =>
        return { c with workingDirectory := ← nullable string }⟩,
      ⟨"reservedNames", fun _ c => return { c with reservedNames := ← nullable strings }⟩,
      ⟨"passes", fun room c => return { c with passes := ← nullable (passOptions room) }⟩]
    empty

/-- A configuration and nothing after it. -/
def wholeText : Reader Config := do
  let c ← config (some depthLimit)
  match ← peekToken? with
  | none => return c
  | some _ => throw .malformed

/-- Read a configuration from its text. -/
def parse (text : String) : Except Fault Config := (·.1) <$> wholeText.run text.toList

/-- What is said of a text that cannot be read. -/
def parseMessage : String := "failed to parse kbind config JSON"

/-! ## Files -/

/-- Why a file does not give a configuration. -/
inductive LoadError where
  | notFound
  | notText
  | faulty (fault : Fault)
  deriving DecidableEq, Repr

/-- Read a configuration from the contents of a file, if there is such a file. -/
def load (contents : Option ByteArray) : Except LoadError Config :=
  match contents with
  | none => .error .notFound
  | some bytes =>
    match String.fromUTF8? bytes with
    | none => .error .notText
    | some text =>
      match parse text with
      | .error fault => .error (.faulty fault)
      | .ok c => .ok c

/-- What is said of the file at `path`. -/
def LoadError.message (path : String) : LoadError → String
  | notFound => "failed to read kbind config: " ++ path
  | notText => "failed to read kbind config: " ++ path
  | faulty _ => "failed to parse kbind config: " ++ path ++ ": " ++ parseMessage

end Bindings.Config
