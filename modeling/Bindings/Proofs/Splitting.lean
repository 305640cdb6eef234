-- SUMMARY: Splitting members puts each translated member into one of two parts, in order, in a single run over the members.
import Bindings.Proofs.Concerns.SourceSet
import Bindings.Proofs.Everywhere

/-!
# Splitting members

Members are modelled one after the other, and each model is put with the instances or
with the statics of the members behind it. Which of the two it is can be read off the
source. Both parts keep the order of the source, and the log does too: it does not tell
the concerns of statics from those of instances. A list can be split in pieces, with the
log that one piece leaves handed to the next.
-/
namespace Bindings

namespace Model.Split

/-- The split with one more member in front of the part it belongs to. -/
def cons (m : Member) (split : Split) : Split :=
  if m.isStatic then ⟨split.instances, m :: split.statics⟩
  else ⟨m :: split.instances, split.statics⟩

theorem ofMembers_cons (m : Member) (ms : List Member) :
    ofMembers (m :: ms) = (ofMembers ms).cons m := by
  cases h : m.isStatic <;> simp [ofMembers, cons, h]

end Model.Split

namespace Source

/-! ## One run over the members -/

/-- One run over the members. Each is modelled once, into the log that the members before
it left, and its model goes in front of one of the two parts that the members behind it
are split into. -/
inductive Member.SplitRun : List Member → Log → Model.Split → Log → Prop
  | nil {log : Log} : Member.SplitRun [] log ⟨[], []⟩ log
  | static {m : Member} {ms : List Member} {split : Model.Split} {log log' : Log}
      (isStatic : m.isStatic = true)
      (behind : Member.SplitRun ms (m.toModel.into log).2 split log') :
      Member.SplitRun (m :: ms) log
        ⟨split.instances, (m.toModel.into log).1 :: split.statics⟩ log'
  | inline {m : Member} {ms : List Member} {split : Model.Split} {log log' : Log}
      (isStatic : m.isStatic = false)
      (behind : Member.SplitRun ms (m.toModel.into log).2 split log') :
      Member.SplitRun (m :: ms) log
        ⟨(m.toModel.into log).1 :: split.instances, split.statics⟩ log'

theorem Member.into_toSplit_cons (m : Member) (ms : List Member) (log : Log) :
    (Member.toSplit (m :: ms)).into log =
      (((Member.toSplit ms).into (m.toModel.into log).2).1.cons (m.toModel.into log).1,
        ((Member.toSplit ms).into (m.toModel.into log).2).2) := by
  simp [Reported.into_eq, Member.value_toSplit, Model.Split.ofMembers_cons]

theorem Member.isStatic_into (m : Member) (log : Log) :
    (m.toModel.into log).1.isStatic = m.isStatic :=
  m.isStatic_toModel

/-- Splitting is one run over the members. -/
theorem Member.splitRun_iff {ms : List Member} {log log' : Log} {split : Model.Split} :
    Member.SplitRun ms log split log' ↔ (Member.toSplit ms).into log = (split, log') := by
  constructor
  · intro h
    induction h with
    | nil => rfl
    | static hstatic _ ih =>
      rw [Member.into_toSplit_cons, ih, Model.Split.cons, Member.isStatic_into, hstatic]
      rfl
    | inline hinline _ ih =>
      rw [Member.into_toSplit_cons, ih, Model.Split.cons, Member.isStatic_into, hinline]
      rfl
  · intro h
    induction ms generalizing log log' split with
    | nil =>
      cases h
      exact .nil
    | cons m ms ih =>
      rw [Member.into_toSplit_cons, Model.Split.cons, Member.isStatic_into] at h
      have hbehind : Member.SplitRun ms (m.toModel.into log).2 _ _ := ih rfl
      -- The flag of the source says which of the two rules comes first.
      cases hstatic : m.isStatic with
      | true =>
        rw [hstatic] at h
        cases h
        exact .static hstatic hbehind
      | false =>
        rw [hstatic] at h
        cases h
        exact .inline hstatic hbehind

/-! ## The two parts -/

/-- Whether the parts hold the models of all members, each part in the order of the
source: the statics those of the members that are static there, and the instances those of
all others. -/
structure Member.Parts (ms : List Member) (split : Model.Split) : Prop where
  instances : split.instances = (ms.filter fun m => !m.isStatic).map fun m => m.toModel.value
  statics : split.statics = (ms.filter Member.isStatic).map fun m => m.toModel.value
  total : (split.statics ++ split.instances).Perm (ms.map fun m => m.toModel.value)

theorem Member.parts_toSplit (ms : List Member) : Member.Parts ms (Member.toSplit ms).value := by
  rw [Member.value_toSplit]
  exact {
    instances := Member.filter_models not ms
    statics := Member.filter_models id ms
    total := List.filter_append_perm Model.Member.isStatic _ }

/-! ## Lists in pieces -/

/-- Whether a list can be split in the pieces `xs` and `ys`, with the log that the first
piece leaves handed to the second. -/
structure Member.SplitsInPieces (xs ys : List Member) (log : Log) : Prop where
  instances : (Member.toSplit (xs ++ ys)).value.instances =
    (Member.toSplit xs).value.instances ++ (Member.toSplit ys).value.instances
  statics : (Member.toSplit (xs ++ ys)).value.statics =
    (Member.toSplit xs).value.statics ++ (Member.toSplit ys).value.statics
  concerns : (Member.toSplit (xs ++ ys)).concerns =
    (Member.toSplit xs).concerns ++ (Member.toSplit ys).concerns
  log : ((Member.toSplit (xs ++ ys)).into log).2 =
    ((Member.toSplit ys).into ((Member.toSplit xs).into log).2).2

theorem Member.splitsInPieces (xs ys : List Member) (log : Log) :
    Member.SplitsInPieces xs ys log where
  instances := by simp [Member.value_toSplit, Model.Split.ofMembers]
  statics := by simp [Member.value_toSplit, Model.Split.ofMembers]
  concerns := by simp
  log := by simp [Reported.into_eq]

/-! ## Classes and interfaces -/

/-- Splitting is one run over the members that models each once, in order, whatever the
log holds. The parts hold the models of all members, the log gets the concerns of all
members in the order of the source, and a list can be split in pieces. The members of a
class or interface and those of its companion are the two parts. -/
theorem Member.toSplit_partitions :
    (∀ (ms : List Member) (log log' : Log) (split : Model.Split),
      Member.SplitRun ms log split log' ↔ (Member.toSplit ms).into log = (split, log')) ∧
    (∀ (ms : List Member) (log : Log),
      Member.Parts ms ((Member.toSplit ms).into log).1 ∧
        ((Member.toSplit ms).into log).2.concerns =
          log.concerns ++ ms.flatMap fun m => m.toModel.concerns) ∧
    (∀ (xs ys : List Member) (log : Log), Member.SplitsInPieces xs ys log) ∧
    (∀ c : Class, (Member.toSplit c.members).value =
      ⟨c.toModel.value.members, c.toModel.value.companion.members⟩) ∧
    ∀ i : Interface, (Member.toSplit i.members).value =
      ⟨i.toModel.value.members, i.toModel.value.companion.members⟩ := by
  refine ⟨?run, ?parts, Member.splitsInPieces, fun _ => rfl, fun _ => rfl⟩
  case run =>
    intro ms log log' split
    exact Member.splitRun_iff
  case parts =>
    intro ms log
    refine ⟨Member.parts_toSplit ms, ?_⟩
    rw [Reported.into_eq]
    simp

end Source

end Bindings
