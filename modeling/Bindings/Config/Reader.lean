-- SUMMARY: Reading of JSON text from left to right: tokens, strings, numbers, and whole values.
import Bindings.Config.Number

/-!
# Reading JSON text

A reader takes characters from the front of the text and stops at the first
fault. Values that matter are read strictly. Values that are skipped are held to
the shape of the format only: their strings may have unpaired surrogates, their
numbers may be too large, and they may be nested at any depth.
-/
namespace Bindings.Config

/-- Takes a value from the front of a text, or stops at the first fault. -/
abbrev Reader (α : Type) := StateT (List Char) (Except Fault) α

/-- How much a value is held to. -/
inductive Rigour where
  /-- The value is needed. -/
  | strict
  /-- The value is skipped. -/
  | lenient
  deriving DecidableEq, Repr

namespace Reader

/-! ## Single characters -/

/-- The next character, which stays. -/
def peek? : Reader (Option Char) := do
  let text ← get
  return text.head?

/-- Drop the next character. -/
def skipOne : Reader Unit := modify List.tail

/-- Take the next character. -/
def next : Reader Char := do
  match ← get with
  | [] => throw .endOfText
  | c :: rest =>
    set rest
    return c

def isBlank (c : Char) : Bool := c == ' ' || c == '\n' || c == '\t' || c == '\r'

/-- The next character that is not blank, which stays. -/
def peekToken? : Reader (Option Char) := do
  modify fun text => text.dropWhile isBlank
  peek?

/-- Take the characters of a word. -/
def word : List Char → Reader Unit
  | [] => return ()
  | c :: cs => do
    let d ← next
    if d = c then word cs else throw .malformed

/-- The decimal digits at the front. -/
def digits : Reader (List Char) := do
  let text ← get
  set (text.dropWhile Char.isDigit)
  return text.takeWhile Char.isDigit

/-! ## Strings -/

def hexDigit? (c : Char) : Option Nat :=
  if c.isDigit then some (c.toNat - '0'.toNat)
  else if 'a' ≤ c ∧ c ≤ 'f' then some (c.toNat - 'a'.toNat + 10)
  else if 'A' ≤ c ∧ c ≤ 'F' then some (c.toNat - 'A'.toNat + 10)
  else none

/-- The value of four hexadecimal digits. A text of fewer than four bytes ends
too early, whatever it holds. -/
def hexUnit : Reader Nat := do
  match ← get with
  | a :: b :: c :: d :: rest =>
    match [a, b, c, d].mapM hexDigit? with
    | some ds =>
      set rest
      return ds.foldl (fun n d => 16 * n + d) 0
    | none => throw .malformed
  | short => throw (if (String.ofList short).utf8ByteSize < 4 then .endOfText else .malformed)

def isHighSurrogate (unit : Nat) : Bool := 0xd800 ≤ unit && unit ≤ 0xdbff

def isLowSurrogate (unit : Nat) : Bool := 0xdc00 ≤ unit && unit ≤ 0xdfff

/-- The character of an escape by code units. Surrogates must come in pairs,
unless the string is skipped. -/
def unicodeEscape (rigour : Rigour) : Reader Char := do
  let unit ← hexUnit
  match rigour with
  | .lenient => return '?'
  | .strict =>
    if isLowSurrogate unit then throw .malformed
    else if isHighSurrogate unit then
      word ['\\', 'u']
      let low ← hexUnit
      if isLowSurrogate low then
        return Char.ofNat (0x10000 + (unit - 0xd800) * 0x400 + (low - 0xdc00))
      else throw .malformed
    else return Char.ofNat unit

/-- The character of an escape, after the backslash. -/
def escape (rigour : Rigour) : Reader Char := do
  match ← next with
  | '"' => return '"'
  | '\\' => return '\\'
  | '/' => return '/'
  | 'b' => return '\x08'
  | 'f' => return '\x0c'
  | 'n' => return '\n'
  | 'r' => return '\r'
  | 't' => return '\t'
  | 'u' => unicodeEscape rigour
  | _ => throw .malformed

/-- The characters up to the closing quote, in a text of fewer than `limit`
characters. -/
def quotedWithin (rigour : Rigour) : (limit : Nat) → Reader (List Char)
  | 0 => throw .endOfText
  | limit + 1 => do
    match ← next with
    | '"' => return []
    | '\\' =>
      let c ← escape rigour
      let cs ← quotedWithin rigour limit
      return c :: cs
    | c =>
      if c < ' ' then throw .malformed
      else
        let cs ← quotedWithin rigour limit
        return c :: cs

/-- A string, from its opening quote on. -/
def quoted (rigour : Rigour) : Reader String := do
  skipOne
  let text ← get
  let cs ← quotedWithin rigour (text.length + 1)
  return String.ofList cs

/-! ## Numbers -/

/-- The fault of a number that stops where a digit must follow. A skipped number
is never too short, only wrong. -/
def missingDigit (rigour : Rigour) : Reader α := do
  match rigour, ← peek? with
  | .strict, none => throw .endOfText
  | _, _ => throw .malformed

/-- At least one digit. -/
def someDigits (rigour : Rigour) : Reader (List Char) := do
  let ds ← digits
  if ds.isEmpty then missingDigit rigour else return ds

/-- The digits before the point; a leading zero stands alone. -/
def whole (rigour : Rigour) : Reader (List Char) := do
  let ds ← someDigits rigour
  match ds with
  | '0' :: _ :: _ => throw .malformed
  | _ => return ds

def fraction (rigour : Rigour) : Reader (List Char) := do
  match ← peek? with
  | some '.' =>
    skipOne
    someDigits rigour
  | _ => return []

def exponent (rigour : Rigour) : Reader (Option Int) := do
  let c ← peek?
  if c = some 'e' ∨ c = some 'E' then
    skipOne
    let sign ← peek?
    if sign = some '+' ∨ sign = some '-' then skipOne
    let ds ← someDigits rigour
    let n : Int := Numeral.digitsValue ds
    return some (if sign = some '-' then -n else n)
  else return none

/-- A number, from its sign on. -/
def numeral (rigour : Rigour) : Reader Numeral := do
  let negative := (← peek?) = some '-'
  if negative then skipOne
  let whole ← whole rigour
  let fraction ← fraction rigour
  let exponent ← exponent rigour
  return ⟨negative, whole, fraction, exponent⟩

/-- The value of a number that is needed. -/
def number : Reader Found := do
  let n ← numeral .strict
  match n.found? with
  | some found => return found
  | none => throw .malformed

def startsNumber (c : Char) : Bool := c == '-' || c.isDigit

/-! ## Lists and records -/

/-- Whether a list has another item, which is then at the front. -/
def nextItem (isFirst : Bool) : Reader Bool := do
  match ← peekToken? with
  | none => throw .endOfText
  | some ']' => return false
  | some c =>
    if isFirst then return true
    else if c ≠ ',' then throw .malformed
    else
      skipOne
      match ← peekToken? with
      | none => throw .endOfText
      | some ']' => throw .malformed
      | some _ => return true

/-- Whether a record has another field, whose name is then at the front. -/
def nextField (isFirst : Bool) : Reader Bool := do
  match ← peekToken? with
  | none => throw .endOfText
  | some '\x7d' => return false
  | some c =>
    if isFirst then
      if c = '"' then return true else throw .malformed
    else if c ≠ ',' then throw .malformed
    else
      skipOne
      match ← peekToken? with
      | none => throw .endOfText
      | some '"' => return true
      | some _ => throw .malformed

/-- The colon after a field's name. -/
def colon : Reader Unit := do
  match ← peekToken? with
  | none => throw .endOfText
  | some ':' => skipOne
  | some _ => throw .malformed

/-- How many lists and records may still be opened; none, when there is no limit. -/
abbrev Room := Option Nat

/-- How many lists and records may be open at once, and one. -/
def depthLimit : Nat := 128

/-- Open a list or record. -/
def enter (room : Room) : Reader Room :=
  match room with
  | none => return none
  | some n => if n ≤ 1 then throw .malformed else return some (n - 1)

/-! ## Whole values -/

/-- A value of any kind, as far as a switch looks at it. -/
inductive AnyValue where
  | bool (b : Bool)
  | string (s : String)
  | other
  deriving DecidableEq, Repr

mutual

/-- A value of any kind, in a text that needs fewer than `limit` steps. -/
def valueWithin (rigour : Rigour) : (limit : Nat) → Room → Reader AnyValue
  | 0, _ => throw .endOfText
  | limit + 1, room => do
    match ← peekToken? with
    | none => throw .endOfText
    | some 'n' =>
      word "null".toList
      return .other
    | some 't' =>
      word "true".toList
      return .bool true
    | some 'f' =>
      word "false".toList
      return .bool false
    | some '"' =>
      let s ← quoted rigour
      return .string s
    | some '[' =>
      let room ← enter room
      skipOne
      itemsWithin rigour limit room true
      return .other
    | some '\x7b' =>
      let room ← enter room
      skipOne
      fieldsWithin rigour limit room true
      return .other
    | some c =>
      if !startsNumber c then throw .malformed
      match rigour with
      | .strict =>
        let _ ← number
        return .other
      | .lenient =>
        let _ ← numeral .lenient
        return .other

/-- The items of a list and its end. -/
def itemsWithin (rigour : Rigour) : (limit : Nat) → Room → (isFirst : Bool) → Reader Unit
  | 0, _, _ => throw .endOfText
  | limit + 1, room, isFirst => do
    if ← nextItem isFirst then
      let _ ← valueWithin rigour limit room
      itemsWithin rigour limit room false
    else skipOne

/-- The fields of a record and its end. -/
def fieldsWithin (rigour : Rigour) : (limit : Nat) → Room → (isFirst : Bool) → Reader Unit
  | 0, _, _ => throw .endOfText
  | limit + 1, room, isFirst => do
    if ← nextField isFirst then
      let _ ← quoted rigour
      colon
      let _ ← valueWithin rigour limit room
      fieldsWithin rigour limit room false
    else skipOne

end

/-- Enough steps for any value of the text at the front: a list or record takes
two for each character, its own and that of its contents. -/
def stepLimit : Reader Nat := do
  let text ← get
  return 2 * text.length + 2

/-- A value of any kind that is needed. -/
def anyValue (room : Room) : Reader AnyValue := do
  let limit ← stepLimit
  valueWithin .strict limit room

/-- Pass over a value. -/
def skipValue : Reader Unit := do
  let limit ← stepLimit
  let _ ← valueWithin .lenient limit none

end Reader

end Bindings.Config
