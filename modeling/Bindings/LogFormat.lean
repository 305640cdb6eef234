-- SUMMARY: The three layouts of log output and the words that choose them.
import Bindings.Text.Blank

/-!
# Log formats

An unknown word chooses the text layout, so reading a format never fails.
-/
namespace Bindings

/-- How log events are laid out. -/
inductive LogFormat where
  | text
  | tree
  | json
  deriving DecidableEq, Repr, Inhabited

/-- Read a format; blanks around the word and its case do not matter. -/
def LogFormat.ofText (s : String) : LogFormat :=
  match Text.word s with
  | "tree" => .tree
  | "json" => .json
  | _ => .text

end Bindings
