-- SUMMARY: What can be wrong with a configuration text, and how it is worded.
import Bindings.Decimal.Shortest
import Bindings.Text.Quoted

/-!
# Faults of a configuration text

A text is malformed, ends too early, or is well formed and says something that a
configuration cannot say. Only the last kind of fault has words of its own.
-/
namespace Bindings.Config

/-- A value that was found where another kind was wanted. -/
inductive Found where
  | null
  | bool (b : Bool)
  | integer (n : Int)
  | float (negative : Bool) (magnitude : Binary64)
  | string (s : String)
  | list
  | record
  deriving DecidableEq, Repr

/-- A kind of value that can be wanted. -/
inductive Wanted where
  | config
  | passOptions
  | string
  | list
  deriving DecidableEq, Repr

/-- Why a well-formed text is no configuration. -/
inductive Cause where
  | wrongType (found : Found) (wanted : Wanted)
  | repeatedField (name : String)
  /-- A switch that is neither `null`, nor a boolean, nor a string. -/
  | notASwitch
  | unknownSwitch (word : String)
  deriving DecidableEq, Repr

/-- The first problem of a text. -/
inductive Fault where
  | malformed
  | endOfText
  | unacceptable (cause : Cause)
  deriving DecidableEq, Repr

/-! ## Words -/

/-- Numbers with up to 16 places before the point, or with up to four zeros after
it, are written without an exponent. -/
def numberLayout : Decimal.Layout := ⟨5, 16⟩

def Found.text : Found → String
  | null => "null"
  | bool b => "boolean `" ++ (if b then "true" else "false") ++ "`"
  | integer n => "integer `" ++ toString n ++ "`"
  | float negative magnitude =>
    "floating point `" ++ (if negative then "-" else "")
      ++ (Decimal.shortest magnitude).text numberLayout ++ "`"
  | string s => "string " ++ Text.quoted s
  | list => "sequence"
  | record => "map"

def Wanted.text : Wanted → String
  | config => "struct KbindConfig"
  | passOptions => "struct PassOptions"
  | string => "a string"
  | list => "a sequence"

def Cause.message : Cause → String
  | wrongType found wanted => "invalid type: " ++ found.text ++ ", expected " ++ wanted.text
  | repeatedField name => "duplicate field `" ++ name ++ "`"
  | notASwitch => "data did not match any variant of untagged enum Switch"
  | unknownSwitch word =>
    "invalid passes.itemArrayLike value '" ++ word ++ "': expected a boolean or one of "
      ++ "\"on\", \"off\", \"yes\", \"no\", \"1\", \"0\""

end Bindings.Config
