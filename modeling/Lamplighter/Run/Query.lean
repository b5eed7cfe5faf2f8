import Lamplighter.Network.Basic

/-!
# Queries: what follows from one request for a state

A state is taken only from the bulb that was asked.  A request that got no answer in time, or whose
answer is a timeout, is sent again until the retries are used up; a request that another bulb
answered is sent again at no cost; any other fault ends the query.
-/

namespace Lamplighter

inductive Verdict where
  | take (state : BulbState)
  /-- ask again, with so many retries used -/
  | again (retries : Nat)
  | give (fault : Fault)
  deriving DecidableEq, Repr

namespace Query

/-- no answer came: ask again, or give up -/
def unanswered (name : String) (maxRetries : Int) (retries : Nat) : Verdict :=
  if maxRetries ≤ Int.ofNat retries then .give (.silent name retries) else .again (retries + 1)

/-- what follows from the result of a request; there is none if no answer came in time -/
def judge (handle : Handle) (maxRetries : Int) (retries : Nat) :
    Option (Except Fault Reply) → Verdict
  | none => unanswered handle.name maxRetries retries
  | some (.error (.timeout _)) => unanswered handle.name maxRetries retries
  | some (.error fault) => .give fault
  | some (.ok (.state answering state)) =>
    if answering.serial = handle.serial then .take state else .again retries
  | some (.ok .nothing) => .again retries

theorem judge_eq_take {handle : Handle} {maxRetries : Int} {retries : Nat}
    {result : Option (Except Fault Reply)} {state : BulbState}
    (h : judge handle maxRetries retries result = .take state) :
    ∃ answering, result = some (.ok (.state answering state)) ∧
      answering.serial = handle.serial := by
  unfold judge unanswered at h
  split at h
  · split at h <;> simp at h
  · split at h <;> simp at h
  · simp at h
  · rename_i answering s
    split at h
    · rename_i hs
      exact ⟨answering, by simp_all, hs⟩
    · simp at h
  · simp at h

end Query

end Lamplighter
