-- SUMMARY: Concerns, fallbacks that carry one, values that report several, and the log that collects them.

/-!
# Diagnostics

Nothing in a source is fatal. A node that cannot be handled gets a safe
fallback and a `Concern` that says why. A `Recovered` value is one such node; a
`Reported` value is the outcome of many nodes, with their concerns in the order
in which they were raised. A `Log` keeps concerns in order of arrival.
-/
namespace Bindings

/-! ## Concerns -/

/-- What kind of node could not be handled. -/
inductive Concern.Kind where
  | unknownTypeExpression
  | unknownDeclaration
  | unresolvedName
  deriving DecidableEq, Repr

def Concern.Kind.label : Concern.Kind → String
  | unknownTypeExpression => "UnknownTypeExpression"
  | unknownDeclaration => "UnknownDeclaration"
  | unresolvedName => "UnresolvedName"

/-- A recoverable condition, in words. -/
structure Concern where
  kind : Concern.Kind
  message : String
  deriving DecidableEq, Repr

def Concern.text (c : Concern) : String := c.kind.label ++ ": " ++ c.message

/-! ## Values with concerns -/

/-- A value and the concerns raised while it was made, the earliest first. -/
structure Reported (α : Type) where
  value : α
  concerns : List Concern
  deriving DecidableEq, Repr

namespace Reported

/-- A value without concerns. -/
def clean (value : α) : Reported α := ⟨value, []⟩

/-- Whether nothing had to be replaced by a fallback. -/
def isClean (x : Reported α) : Bool := x.concerns.isEmpty

/-- The concerns of the first value stand before those of the second. -/
def andThen (x : Reported α) (f : α → Reported β) : Reported β :=
  ⟨(f x.value).value, x.concerns ++ (f x.value).concerns⟩

instance : Monad Reported where
  pure := clean
  bind := andThen

@[simp] theorem value_pure (a : α) : (pure a : Reported α).value = a := rfl

@[simp] theorem concerns_pure (a : α) : (pure a : Reported α).concerns = [] := rfl

@[simp] theorem value_bind (x : Reported α) (f : α → Reported β) :
    (x >>= f).value = (f x.value).value := rfl

@[simp] theorem concerns_bind (x : Reported α) (f : α → Reported β) :
    (x >>= f).concerns = x.concerns ++ (f x.value).concerns := rfl

@[simp] theorem value_map (f : α → β) (x : Reported α) : (f <$> x).value = f x.value := rfl

@[simp] theorem concerns_map (f : α → β) (x : Reported α) :
    (f <$> x).concerns = x.concerns := by
  show x.concerns ++ [] = x.concerns
  simp

/-- The values of `f` along a list, with the concerns in list order. -/
def each (f : α → Reported β) : List α → Reported (List β)
  | [] => pure []
  | a :: as => do
    let b ← f a
    let bs ← each f as
    return b :: bs

@[simp] theorem value_each (f : α → Reported β) (as : List α) :
    (each f as).value = as.map fun a => (f a).value := by
  induction as with
  | nil => rfl
  | cons a as ih => simp [each, ih]

@[simp] theorem concerns_each (f : α → Reported β) (as : List α) :
    (each f as).concerns = as.flatMap fun a => (f a).concerns := by
  induction as with
  | nil => rfl
  | cons a as ih => simp [each, ih]

/-- The value of `f` at an optional argument. -/
def optional (f : α → Reported β) : Option α → Reported (Option β)
  | none => pure none
  | some a => some <$> f a

end Reported

/-! ## Fallbacks -/

/-- A plain success, or a fallback with the concern that made it necessary. -/
inductive Recovered (α : Type) where
  | clean (value : α)
  | degraded (value : α) (concern : Concern)
  deriving DecidableEq, Repr

namespace Recovered

/-- Whether the value is a fallback. -/
def isDegraded : Recovered α → Bool
  | clean _ => false
  | degraded _ _ => true

def map (f : α → β) : Recovered α → Recovered β
  | clean a => clean (f a)
  | degraded a c => degraded (f a) c

/-- Report the concern, if there is one. -/
def resolve : Recovered α → Reported α
  | clean a => ⟨a, []⟩
  | degraded a c => ⟨a, [c]⟩

end Recovered

/-! ## The log -/

/-- Every concern so far, the earliest first. -/
structure Log where
  concerns : List Concern
  deriving DecidableEq, Repr

namespace Log

def empty : Log := ⟨[]⟩

def report (log : Log) (c : Concern) : Log := ⟨log.concerns ++ [c]⟩

def isEmpty (log : Log) : Bool := log.concerns.isEmpty

def size (log : Log) : Nat := log.concerns.length

/-- How many concerns of a kind there are. -/
def count (log : Log) (kind : Concern.Kind) : Nat :=
  log.concerns.countP fun c => c.kind == kind

end Log

/-- Take the value and add its concerns to a log. -/
def Reported.into (x : Reported α) (log : Log) : α × Log :=
  (x.value, x.concerns.foldl Log.report log)

theorem Log.concerns_foldl_report (cs : List Concern) (log : Log) :
    (cs.foldl Log.report log).concerns = log.concerns ++ cs := by
  induction cs generalizing log with
  | nil => simp
  | cons c cs ih => simp [ih, Log.report]

end Bindings
