import Mathlib.Algebra.Order.Floor.Div
import Provisioning.Proofs.Wait
import Provisioning.Proofs.Watch.Timing

/-!
How long a wait takes. The polls of a wait follow one another at its interval (`Paced`): each one is
given what is left of the limit, and begins one interval after the one before it was answered. As
they all begin before the limit, there are no more of them than intervals begun in it; so a wait
with an interval ends, and never after its limit, if the clock can hold its deadline.
-/

namespace Provisioning.StateChange

variable {σ ε α : Type}

/-- The polls of a wait, as they follow one another. -/
structure Paced (c : StateChange) (looks : List (Look α)) : Prop where
  /-- The first poll is made at once. -/
  first : ∀ look ∈ looks.head?, look.start = 0
  /-- Each poll is given what is left of the limit. -/
  within : ∀ look ∈ looks, look.Within c.limit
  /-- Each later poll is given less. -/
  shrinking : looks.Pairwise fun a b => b.remaining < a.remaining
  /-- Each later poll begins one interval after the answer to the one before it. -/
  spaced : looks.IsChain fun a b => a.answer.isSome ∧ b.start = a.stop + c.interval

variable {c : StateChange} {poll : Millis → σ → Answer σ (Except ε State)} {s : σ}

/-! ### The number of polls -/

/-- Polls that follow one another at an interval take it up each time but the last. -/
theorem start_add_lt {looks : List (Look α)}
    (hspaced : looks.IsChain fun a b => a.answer.isSome ∧ b.start = a.stop + c.interval)
    (hwithin : ∀ look ∈ looks, look.Within c.limit) :
    ∀ look ∈ looks.head?, look.start + (looks.length - 1) * c.interval < c.limit := by
  induction hspaced with
  | nil => nofun
  | singleton a =>
    rintro look ⟨⟩
    have ha := hwithin a List.mem_cons_self
    have := ha.given
    have := ha.remaining
    grind
  | @cons_cons a b rest hab _ ih =>
    rintro look ⟨⟩
    obtain ⟨ha, hrest⟩ := List.forall_mem_cons.mp hwithin
    have hb := ih hrest b rfl
    have hle := ha.start_le_stop
    simp only [List.length_cons, Nat.add_sub_cancel, Nat.add_mul, Nat.one_mul] at hb ⊢
    grind

/-- There are no more polls than intervals begun within the limit. -/
theorem Paced.length_le {looks : List (Look α)} (h : c.Paced looks) (hinterval : 0 < c.interval) :
    looks.length ≤ c.limit ⌈/⌉ c.interval := by
  cases hlooks : looks with
  | nil => exact Nat.zero_le _
  | cons look rest =>
    have hlt := start_add_lt h.spaced h.within look (by rw [hlooks]; rfl)
    rw [hlooks] at hlt
    by_contra hmore
    have hle : c.limit ⌈/⌉ c.interval ≤ rest.length := Nat.le_of_lt_succ (Nat.lt_of_not_le hmore)
    have hlimit : c.limit ≤ c.interval * rest.length := (ceilDiv_le_iff_le_mul hinterval).mp hle
    rw [Nat.mul_comm] at hlimit
    simp only [List.length_cons, Nat.add_sub_cancel] at hlt
    exact absurd hlt (Nat.not_lt.mpr (Nat.le_add_left_of_le hlimit))

/-! ### The watch of a wait -/

theorem punctual_watch : (c.watch poll).Punctual := fun _ after => Nat.min_le_right c.interval after

theorem advances_watch (hinterval : 0 < c.interval) : (c.watch poll).Advances :=
  Watch.advances_of_pause fun _ _ _ hafter => Nat.lt_min.mpr ⟨hinterval, hafter⟩

/-- The polls of a wait follow one another. -/
theorem paced_looks {e : Watch.End σ (Except ε State) State (Except ε Settled)}
    (h : (c.watch poll).Course ⟨0, s⟩ none e) (hinterval : 0 < c.interval) : c.Paced e.looks := by
  have hwithin := h.within
  have hspaced : e.looks.IsChain fun a b => a.answer.isSome ∧ b.start = a.stop + c.interval := by
    refine h.spaced.imp ?_
    rintro a b ⟨hanswered, hstart, hbegun⟩
    refine ⟨hanswered, ?_⟩
    -- A pause that is cut short ends at the limit, where no poll begins.
    change b.start = a.stop + min c.interval (c.limit - a.stop) at hstart
    change b.start < c.limit at hbegun
    grind
  refine ⟨fun look hlook => (h.head look hlook).1, hwithin, ?_, hspaced⟩
  have htrans : Trans (fun a b : Look (Except ε State) => b.remaining < a.remaining)
      (fun a b : Look (Except ε State) => b.remaining < a.remaining)
      (fun a b : Look (Except ε State) => b.remaining < a.remaining) :=
    ⟨fun hab hbc => Nat.lt_trans hbc hab⟩
  refine List.IsChain.pairwise (hspaced.imp_of_mem_imp ?_)
  rintro a b ha hb ⟨-, hstart⟩
  have := (hwithin a ha).remaining
  have := (hwithin a ha).start_le_stop
  have := (hwithin b hb).remaining
  grind

/-- A wait that says that its time is up has used it up. -/
theorem expired_of_timedOut {e : Watch.End σ (Except ε State) State (Except ε Settled)}
    (h : (c.watch poll).Course ⟨0, s⟩ none e) {last : Option State}
    (hlast : outcome e.result = .ok (.timedOut last)) : e.result = .expired last := by
  obtain ⟨n, -, hstopped⟩ := h.stopped
  cases hstopped with
  | exhausted _ _ => cases hlast; rfl
  | late _ _ _ => cases hlast; rfl
  | settled _ hjudge =>
    rcases judge_eq_settled_iff.mp hjudge with ⟨e, -, rfl⟩ | ⟨state, settled, -, hsome, rfl⟩
    · cases hlast
    · cases hlast
      rcases classify_eq_some_iff.mp hsome with ⟨-, hfalse⟩ | ⟨-, -, hfalse⟩ <;> cases hfalse

/-- A wait with an interval has an end that is the same whatever patience there is for it beyond one
poll for each interval begun within its limit. -/
theorem exists_end (poll : Millis → σ → Answer σ (Except ε State)) (s : σ)
    (hinterval : 0 < c.interval) :
    ∃ e : Watch.End σ (Except ε State) State (Except ε Settled),
      (c.watch poll).Course ⟨0, s⟩ none e
      ∧ (∀ patience, c.limit ⌈/⌉ c.interval ≤ patience → (c.watch poll).run patience s = some e)
      ∧ ∀ patience e', (c.watch poll).run patience s = some e' → e' = e := by
  obtain ⟨e, hcourse⟩ := (advances_watch hinterval).exists_course (w := c.watch poll) ⟨0, s⟩ none
  have hlength := (paced_looks hcourse hinterval).length_le hinterval
  refine ⟨e, hcourse, fun patience henough => ?_, fun patience e' hrun => ?_⟩
  · exact Watch.run_eq_some_iff.mpr ⟨hcourse, Nat.le_trans hlength henough⟩
  · exact (Watch.run_eq_some_iff.mp hrun).1.unique hcourse

/-- A wait with an interval ends, with the same end whatever patience there is for it beyond one
poll for each interval begun within its limit. It takes no longer than its limit, and just as long
if it times out. Its polls are those made at its moments, and follow one another: each is given what
is left of the limit, less each time, and begins one interval after the answer to the one before
it. Only where the clock cannot hold the deadline there is no wait at all, with any patience. -/
theorem wait_timely (c : StateChange) (poll : Millis → σ → Answer σ (Except ε State))
    (clock : Clock) (s : σ) (hinterval : 0 < c.interval) :
    (¬ clock.Holds c.limit →
      ∀ patience, (c.watch poll).start clock patience s = .error .beyondClock)
    ∧ (clock.Holds c.limit → ∃ e : Watch.End σ (Except ε State) State (Except ε Settled),
      (∀ patience, c.limit ⌈/⌉ c.interval ≤ patience →
        (c.watch poll).start clock patience s = .ok e)
      ∧ (∀ patience e', (c.watch poll).start clock patience s = .ok e' → e' = e)
      ∧ e.elapsed ≤ c.limit
      ∧ (∀ last, outcome e.result = .ok (.timedOut last) → e.elapsed = c.limit)
      ∧ e.looks = ((List.range e.looks.length).map fun n =>
        (c.watch poll).made ((c.watch poll).next^[n] ⟨0, s⟩))
      ∧ c.Paced e.looks
      ∧ e.looks.length ≤ c.limit ⌈/⌉ c.interval
      ∧ (c.limit = 0 → e.looks = [])) := by
  refine ⟨fun hbeyond _ => Watch.start_of_not_holds hbeyond, fun hheld => ?_⟩
  obtain ⟨e, hcourse, hrun, hunique⟩ := exists_end poll s hinterval
  have hpaced := paced_looks hcourse hinterval
  have hlength := hpaced.length_le hinterval
  have hlimit : e.elapsed ≤ c.limit := hcourse.elapsed_le punctual_watch (Nat.zero_le _)
  refine ⟨e, ?_, ?_, hlimit, ?_, hcourse.looks_eq, hpaced, hlength, ?_⟩
  · intro patience henough
    exact Watch.start_of_run hheld (hrun patience henough)
  · intro patience e' hstart
    exact hunique patience e' (Watch.start_eq_ok_iff.mp hstart).2
  · intro last hlast
    exact Nat.le_antisymm hlimit (hcourse.limit_le (expired_of_timedOut hcourse hlast))
  · intro hzero
    rw [hzero, zero_ceilDiv] at hlength
    exact List.eq_nil_of_length_eq_zero (Nat.le_zero.mp hlength)

/-- Two slow polls, the pause after the second of which is cut short; by a clock that has less time
left than that there are none. -/
theorem wait_timely_slow : ∃ e : Watch.End Unit (Except Unit State) State (Except Unit Settled),
    0 < (15 : Millis)
    ∧ ((⟨[.creating], [.succeeded], 60, 15⟩ : StateChange).watch
      (fun _ _ => (⟨20, .ok .creating, (), ()⟩ : Answer Unit (Except Unit State)))).start
        ⟨40, 100⟩ 4 () = .ok e
    ∧ e.elapsed = 60 ∧ e.looks.map Look.start = [0, 35]
    ∧ StateChange.Paced ⟨[.creating], [.succeeded], 60, 15⟩ e.looks
    ∧ ((⟨[.creating], [.succeeded], 60, 15⟩ : StateChange).watch
      (fun _ _ => (⟨20, .ok .creating, (), ()⟩ : Answer Unit (Except Unit State)))).start
        ⟨41, 100⟩ 4 () = .error .beyondClock := by
  have htimely (clock : Clock) := wait_timely (⟨[.creating], [.succeeded], 60, 15⟩ : StateChange)
    (fun _ _ => (⟨20, .ok .creating, (), ()⟩ : Answer Unit (Except Unit State))) clock ()
    (by decide)
  obtain ⟨e, hstart, -, -, -, -, hpaced, -⟩ := (htimely ⟨40, 100⟩).2 (by decide)
  replace hstart := hstart 4 (by decide)
  have hend : ((⟨[.creating], [.succeeded], 60, 15⟩ : StateChange).watch
      (fun _ _ => (⟨20, .ok .creating, (), ()⟩ : Answer Unit (Except Unit State)))).run 4 ()
      = some ⟨.expired (some .creating), (), 60,
        [⟨0, 60, 20, some (.ok .creating)⟩, ⟨35, 25, 55, some (.ok .creating)⟩]⟩ := by
    cbv
  have hrun := (Watch.start_eq_ok_iff.mp hstart).2
  refine ⟨e, by decide, hstart, ?_, ?_, hpaced, (htimely ⟨41, 100⟩).1 (by decide) 4⟩
  · rw [← Option.some.inj (hend.symm.trans hrun)]
  · rw [← Option.some.inj (hend.symm.trans hrun)]
    rfl

end Provisioning.StateChange
