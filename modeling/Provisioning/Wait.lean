import Provisioning.State
import Provisioning.Watch

/-!
Waiting for an object to finish provisioning. A change of state names the states that mean more
waiting and those that mean success; every other state is a failure, and a wait that sees none but
pending ones ends when its time is up.
-/

namespace Provisioning

/-- What to wait through, what to wait for, and how long. -/
structure StateChange where
  pending : List State
  target : List State
  limit : Millis := .ofMinutes 30
  /-- The pause between two polls. -/
  interval : Millis := .ofSeconds 15
deriving DecidableEq

/-- How a wait ends. -/
inductive Settled where
  /-- A target state was reached. -/
  | succeeded (state : State)
  /-- A state was reported that is neither pending nor a target. -/
  | failed (state : State)
  /-- The time was up; `last` is the last state reported. -/
  | timedOut (last : Option State)
deriving DecidableEq

namespace StateChange

/-- What a reported state means: nothing yet, or the end of the wait. A state that is both pending
and a target counts as a target. -/
def classify (c : StateChange) (s : State) : Option Settled :=
  if s ∈ c.target then some (.succeeded s)
  else if s ∈ c.pending then none
  else some (.failed s)

/-- The target states, for messages. -/
def expected (c : StateChange) : String := ", ".intercalate (c.target.map State.label)

/-- What a poll means: an error ends the wait as a state does. -/
def judge {ε : Type} (c : StateChange) : Except ε State → Verdict State (Except ε Settled)
  | .error e => .settled (.error e)
  | .ok s =>
    match c.classify s with
    | some settled => .settled (.ok settled)
    | none => .pending s

/-- The watch that a wait keeps: the pause after a poll is cut short where the time is up. -/
def watch {σ ε : Type} (c : StateChange) (poll : Millis → σ → Answer σ (Except ε State)) :
    Watch σ (Except ε State) State (Except ε Settled) where
  limit := c.limit
  look := poll
  judge := c.judge
  pause _ after := min c.interval after

/-- How the wait is over: by an error of a poll, or settled. -/
def outcome {ε : Type} : Watched State (Except ε Settled) → Except ε Settled
  | .settled r => r
  | .expired last => .ok (.timedOut last)

end StateChange

end Provisioning
