/-!
Time, and watching something until it settles, within a limit of time. The thing watched is any
state that answers when it is looked at; an answer takes its time, and a look that would take longer
than what is left of the limit is given up when the limit is reached. Time passes only while an
answer is awaited and between the looks. A clock is asked for nothing but the deadline, before the
first look.
-/

namespace Provisioning

/-! ### Spans and clocks -/

/-- A span of time, or a moment on a clock, in milliseconds. Any span can be written down, but no
clock holds every moment. -/
abbrev Millis := Nat

namespace Millis

/-- The span of a number of seconds. -/
def ofSeconds (n : Nat) : Millis := 1000 * n

/-- The span of a number of minutes. -/
def ofMinutes (n : Nat) : Millis := ofSeconds (60 * n)

/-- The decimals of a second, without zeros at the end. -/
def fractionText (ms : Nat) : String :=
  let three := [ms / 100, ms / 10 % 10, ms % 10]
  let kept := (three.reverse.dropWhile (· = 0)).reverse
  if kept.isEmpty then "" else "." ++ String.join (kept.map toString)

/-- A span in the largest unit it fills: whole and fractional seconds, else milliseconds. The empty
span counts in nanoseconds. -/
def text (span : Millis) : String :=
  if span = 0 then "0ns"
  else if span < 1000 then toString span ++ "ms"
  else toString (span / 1000) ++ fractionText (span % 1000) ++ "s"

end Millis

/-- A clock: the moment it shows, and the last moment that it can hold. -/
structure Clock where
  now : Millis
  last : Millis
deriving DecidableEq

namespace Clock

/-- Whether the clock can hold the moment that lies a span ahead, as it has to for a deadline. -/
def Holds (c : Clock) (span : Millis) : Prop := c.now + span ≤ c.last

instance (c : Clock) (span : Millis) : Decidable (c.Holds span) :=
  inferInstanceAs (Decidable (_ ≤ _))

/-- The clock a span later. -/
def after (c : Clock) (span : Millis) : Clock := { c with now := c.now + span }

@[simp] theorem after_zero (c : Clock) : c.after 0 = c := rfl

/-- The clock of a machine, which counts seconds in 64 bits, one of them for the sign. -/
def machine (now : Millis) : Clock := ⟨now, .ofSeconds (UInt64.size / 2) - 1⟩

end Clock

/-! ### Answers -/

/-- An answer: how long it takes, what it says, and the state it leaves behind. -/
structure Answer (σ α : Type) where
  delay : Millis
  value : α
  /-- The state once the answer is given. -/
  next : σ
  /-- The state if the asker gives up before. -/
  abandoned : σ

namespace Answer

/-- An answer that takes no time. -/
def now {σ α : Type} (value : α) (next : σ) : Answer σ α := ⟨0, value, next, next⟩

/-- The answer with its value changed. -/
def map {σ α β : Type} (f : α → β) (a : Answer σ α) : Answer σ β :=
  { a with value := f a.value }

end Answer

/-! ### Watches -/

/-- What an answer says to one who watches. -/
inductive Verdict (γ β : Type) where
  /-- Nothing is settled; `seen` is worth remembering. -/
  | pending (seen : γ)
  | settled (outcome : β)

/-- How to watch a state `σ` whose answers are `α`, until a `β` is known. -/
structure Watch (σ α γ β : Type) where
  limit : Millis
  /-- One look, told how much time is left for it. -/
  look : Millis → σ → Answer σ α
  judge : α → Verdict γ β
  /-- The pause after a look, from what was left before it and what is left after it. -/
  pause : (before after : Millis) → Millis

/-- One look: when it began, the time it was given, when it was over, and the answer if there was
one by then. -/
structure Look (α : Type) where
  start : Millis
  remaining : Millis
  stop : Millis
  answer : Option α

/-- How a watch ended. -/
inductive Watched (γ β : Type) where
  | settled (outcome : β)
  /-- The limit passed; `last` is what was seen last. -/
  | expired (last : Option γ)

/-- Why a watch has no end. -/
inductive Endless where
  /-- The clock cannot hold the deadline, so the program breaks off before the first look. -/
  | beyondClock
  /-- The patience of a watch without pauses was not enough to see its end. -/
  | unsettled
deriving DecidableEq

/-- The end of a watch: its outcome, the state and the time it left, and the looks it took. -/
structure Watch.End (σ α γ β : Type) where
  result : Watched γ β
  state : σ
  elapsed : Millis
  looks : List (Look α)

namespace Watch

variable {σ α γ β : Type}

/-- The watch from the time `elapsed` on, with at most `patience` looks; there is no end if those do
not suffice. -/
def runFrom (w : Watch σ α γ β) (patience : Nat) (elapsed : Millis) (last : Option γ) (state : σ) :
    Option (End σ α γ β) :=
  let remaining := w.limit - elapsed
  if remaining = 0 then some ⟨.expired last, state, elapsed, []⟩
  else match patience with
    | 0 => none
    | patience + 1 =>
      let answer := w.look remaining state
      let after := elapsed + answer.delay
      if remaining < answer.delay then
        let limit := elapsed + remaining
        some ⟨.expired last, answer.abandoned, limit, [⟨elapsed, remaining, limit, none⟩]⟩
      else
        let this : Look α := ⟨elapsed, remaining, after, some answer.value⟩
        match w.judge answer.value with
        | .settled outcome => some ⟨.settled outcome, answer.next, after, [this]⟩
        | .pending seen =>
          (w.runFrom patience (after + w.pause remaining (w.limit - after)) (some seen)
            answer.next).map fun e => { e with looks := this :: e.looks }
termination_by patience

/-- The watch from its beginning. -/
def run (w : Watch σ α γ β) (patience : Nat) (state : σ) : Option (End σ α γ β) :=
  w.runFrom patience 0 none state

/-- The watch by a clock. Its deadline is fixed before the first look. -/
def start (w : Watch σ α γ β) (clock : Clock) (patience : Nat) (state : σ) :
    Except Endless (End σ α γ β) :=
  if clock.Holds w.limit then
    match w.run patience state with
    | some e => .ok e
    | none => .error .unsettled
  else .error .beyondClock

end Watch

end Provisioning
