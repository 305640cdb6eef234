-- SUMMARY: Lexical file paths: steps, normal form, joining, parent, and text.
import Bindings.Text.Segments

/-!
# Paths

A path is read by its text alone; no file system is asked. Segments are
separated by `/`, empty and `.` segments stand for nothing, `..` is a step up.
The normal form resolves each step up against the step before it; at the root a
step up stays at the root, and at the start of a relative path it is kept.
-/
namespace Bindings

/-- One step of a path. -/
inductive Step where
  | up
  | into (name : String)
  deriving DecidableEq, Repr

def Step.text : Step → String
  | up => ".."
  | into name => name

/-- The step a segment stands for, if any. -/
def Step.ofSegment? : String → Option Step
  | "" => none
  | "." => none
  | ".." => some .up
  | name => some (.into name)

/-- Steps from the root, or from wherever the path is used. -/
structure Path where
  isAbsolute : Bool
  steps : List Step
  deriving DecidableEq, Repr

namespace Path

/-! ## Reading and writing -/

/-- Whether the text starts at the root. -/
def startsAtRoot (s : String) : Bool := s.toList.head? == some '/'

def ofText (s : String) : Path :=
  ⟨startsAtRoot s, (Text.segments '/' s).filterMap Step.ofSegment?⟩

def text (p : Path) : String :=
  (if p.isAbsolute then "/" else "") ++ Text.joined "/" (p.steps.map Step.text)

/-! ## Joining -/

/-- `q` seen from `p`: an absolute path replaces `p`. -/
def join (p q : Path) : Path :=
  if q.isAbsolute then q else ⟨p.isAbsolute, p.steps ++ q.steps⟩

/-- The text of a path below another, without resolving either. -/
def joinText (base s : String) : String :=
  if startsAtRoot s then s
  else if base.isEmpty || base.toList.getLast? == some '/' then base ++ s
  else base ++ "/" ++ s

/-- The path without its last step; the root and the empty path have none. -/
def parent? (p : Path) : Option Path :=
  if p.steps.isEmpty then none else some ⟨p.isAbsolute, p.steps.dropLast⟩

/-! ## Normal form -/

/-- One more step after those in `kept`, which has the latest step first. -/
def advance (isAbsolute : Bool) (kept : List Step) : Step → List Step
  | .into name => .into name :: kept
  | .up =>
    match kept with
    | .into _ :: before => before
    | [] => if isAbsolute then [] else [.up]
    | .up :: _ => .up :: kept

/-- Every step up resolved against the step before it. -/
def normal (p : Path) : Path :=
  ⟨p.isAbsolute, (p.steps.foldl (advance p.isAbsolute) []).reverse⟩

/-- The normal form of a path given as text, as text. -/
def normalText (s : String) : String := (ofText s).normal.text

end Path

end Bindings
