import Provisioning.Proofs.Watch
import Provisioning.Wait

/-!
How a wait comes out. A wait is decided by the first poll that completes in time and says anything
but a pending state which is no target: an error, a target, or a state of neither kind. If there is
no such poll it times out, with the state that the last completed poll reported. `Comes` puts this
down for the polls alone; a wait that returns comes out that way and polls no more than that.
-/

namespace Provisioning.StateChange

variable {σ τ ε : Type} (c : StateChange) (poll : Millis → σ → Answer σ (Except ε State)) (s : σ)

/-! ### The decision -/

/-- Whether the poll `n`, counted from 0, begins within the limit and completes in what is left of
it, be it at its very end, with a result. -/
def Completes (n : Nat) (r : Except ε State) : Prop := (c.watch poll).Answers ⟨0, s⟩ n r

/-- Whether the poll `n` completes with a pending state that is no target. -/
def Continues (n : Nat) : Prop :=
  ∃ state, c.Completes poll s n (.ok state) ∧ state ∈ c.pending ∧ state ∉ c.target

/-- Whether the poll `n` is the first that completes with anything but a pending state that is no
target. -/
structure Decides (n : Nat) (r : Except ε State) : Prop where
  completes : c.Completes poll s n r
  conclusive : ∀ state, r = .ok state → state ∈ c.pending → state ∈ c.target
  before : ∀ k < n, c.Continues poll s k

/-- Whether the last poll that completes reports a state; there is none if no poll completes. -/
def LastSeen : Option State → Prop
  | none => ∀ n r, ¬ c.Completes poll s n r
  | some state => ∃ n, c.Completes poll s n (.ok state) ∧ ∀ k r, c.Completes poll s k r → k ≤ n

/-- How a wait comes out. -/
def Comes : Except ε Settled → Prop
  | .error e => ∃ n, c.Decides poll s n (.error e)
  | .ok (.succeeded state) => ∃ n, c.Decides poll s n (.ok state) ∧ state ∈ c.target
  | .ok (.failed state) =>
    ∃ n, c.Decides poll s n (.ok state) ∧ state ∉ c.target ∧ state ∉ c.pending
  | .ok (.timedOut last) => (¬ ∃ n r, c.Decides poll s n r) ∧ c.LastSeen poll s last

variable {c poll s}

/-! ### What a poll means -/

theorem classify_eq_none_iff {state : State} :
    c.classify state = none ↔ state ∈ c.pending ∧ state ∉ c.target := by
  unfold classify
  split
  · simp_all
  · split <;> simp_all

theorem classify_eq_some_iff {state : State} {settled : Settled} :
    c.classify state = some settled ↔ state ∈ c.target ∧ settled = .succeeded state
      ∨ state ∉ c.target ∧ state ∉ c.pending ∧ settled = .failed state := by
  unfold classify
  split
  · simp_all [eq_comm]
  · split <;> simp_all [eq_comm]

theorem judge_of_none {state : State} (h : c.classify state = none) :
    c.judge (.ok state : Except ε State) = .pending state := by
  simp [judge, h]

theorem judge_of_some {state : State} {settled : Settled} (h : c.classify state = some settled) :
    c.judge (.ok state : Except ε State) = .settled (.ok settled) := by
  simp [judge, h]

theorem judge_eq_pending_iff {r : Except ε State} {state : State} :
    c.judge r = .pending state ↔ r = .ok state ∧ c.classify state = none := by
  constructor
  · intro h
    cases r with
    | error e => cases h
    | ok reported =>
      cases hclassify : c.classify reported with
      | none =>
        rw [judge_of_none hclassify] at h
        cases h
        exact ⟨rfl, hclassify⟩
      | some settled =>
        rw [judge_of_some hclassify] at h
        cases h
  · rintro ⟨rfl, hnone⟩
    exact judge_of_none hnone

theorem judge_eq_settled_iff {r : Except ε State} {outcome : Except ε Settled} :
    c.judge r = .settled outcome ↔ (∃ e, r = .error e ∧ outcome = .error e)
      ∨ ∃ state settled, r = .ok state ∧ c.classify state = some settled
        ∧ outcome = .ok settled := by
  constructor
  · intro h
    cases r with
    | error e =>
      cases h
      exact .inl ⟨e, rfl, rfl⟩
    | ok state =>
      cases hclassify : c.classify state with
      | none =>
        rw [judge_of_none hclassify] at h
        cases h
      | some settled =>
        rw [judge_of_some hclassify] at h
        cases h
        exact .inr ⟨state, settled, rfl, hclassify, rfl⟩
  · rintro (⟨e, rfl, rfl⟩ | ⟨state, settled, rfl, hsome, rfl⟩)
    · rfl
    · exact judge_of_some hsome

theorem continues_iff {n : Nat} :
    c.Continues poll s n ↔ ∃ state, (c.watch poll).Passes ⟨0, s⟩ n state := by
  constructor
  · rintro ⟨state, hcompletes, hstate⟩
    exact ⟨state, _, hcompletes, judge_eq_pending_iff.mpr ⟨rfl, classify_eq_none_iff.mpr hstate⟩⟩
  · rintro ⟨state, r, hcompletes, hjudge⟩
    obtain ⟨rfl, hnone⟩ := judge_eq_pending_iff.mp hjudge
    exact ⟨state, hcompletes, classify_eq_none_iff.mp hnone⟩

/-- A result is conclusive exactly if it settles the wait. -/
theorem conclusive_iff {r : Except ε State} :
    (∀ state, r = .ok state → state ∈ c.pending → state ∈ c.target)
      ↔ ∃ outcome, c.judge r = .settled outcome := by
  constructor
  · intro h
    cases hjudge : c.judge r with
    | settled outcome => exact ⟨outcome, rfl⟩
    | pending state =>
      obtain ⟨rfl, hnone⟩ := judge_eq_pending_iff.mp hjudge
      obtain ⟨hpending, htarget⟩ := classify_eq_none_iff.mp hnone
      exact absurd (h state rfl hpending) htarget
  · rintro ⟨outcome, hjudge⟩ state rfl hpending
    by_contra htarget
    rw [judge_eq_pending_iff.mpr ⟨rfl, classify_eq_none_iff.mpr ⟨hpending, htarget⟩⟩] at hjudge
    cases hjudge

/-! ### One decision -/

theorem Decides.passed {n : Nat} {r : Except ε State} (h : c.Decides poll s n r) :
    (c.watch poll).Passed ⟨0, s⟩ n :=
  fun k hk => continues_iff.mp (h.before k hk)

theorem Decides.not_passes {n : Nat} {r : Except ε State} (h : c.Decides poll s n r) :
    ¬ ∃ state, (c.watch poll).Passes ⟨0, s⟩ n state := by
  rintro ⟨state, r', hcompletes, hjudge⟩
  obtain ⟨outcome, hsettled⟩ := conclusive_iff.mp h.conclusive
  rw [← h.completes.value_unique hcompletes] at hjudge
  cases hjudge.symm.trans hsettled

/-- There is one poll at most that decides a wait, and it says one thing. -/
theorem Decides.unique {n n' : Nat} {r r' : Except ε State} (h : c.Decides poll s n r)
    (h' : c.Decides poll s n' r') : n = n' ∧ r = r' := by
  have hn : n = n' := Nat.le_antisymm (h.passed.le_of_not_passes h'.not_passes)
    (h'.passed.le_of_not_passes h.not_passes)
  subst hn
  exact ⟨rfl, h.completes.value_unique h'.completes⟩

/-- A poll that completes does so after polls that complete. -/
theorem Completes.of_le {n k : Nat} {r : Except ε State} (h : c.Completes poll s n r)
    (hle : k ≤ n) : ∃ r', c.Completes poll s k r' :=
  ⟨_, h.1.of_le hle, rfl⟩

/-- Where no poll decides, every poll that completes means more waiting. -/
theorem Completes.continues {n : Nat} {r : Except ε State} (h : c.Completes poll s n r)
    (hnone : ¬ ∃ n r, c.Decides poll s n r) : c.Continues poll s n := by
  induction n using Nat.strongRecOn generalizing r with
  | ind n ih =>
    have hbefore : ∀ k < n, c.Continues poll s k := by
      intro k hk
      obtain ⟨r', hr'⟩ := h.of_le (Nat.le_of_lt hk)
      exact ih k hk hr'
    cases hjudge : c.judge r with
    | pending state => exact continues_iff.mpr ⟨state, r, h, hjudge⟩
    | settled outcome =>
      exact absurd ⟨n, r, h, conclusive_iff.mpr ⟨outcome, hjudge⟩, hbefore⟩ hnone

theorem LastSeen.unique {last last' : Option State} (h : c.LastSeen poll s last)
    (h' : c.LastSeen poll s last') : last = last' := by
  cases last with
  | none =>
    cases last' with
    | none => rfl
    | some state' =>
      obtain ⟨n', hn', -⟩ := h'
      exact absurd hn' (h n' _)
  | some state =>
    obtain ⟨n, hn, hlast⟩ := h
    cases last' with
    | none => exact absurd hn (h' n _)
    | some state' =>
      obtain ⟨n', hn', hlast'⟩ := h'
      have heq : n = n' := Nat.le_antisymm (hlast' n _ hn) (hlast n' _ hn')
      subst heq
      cases hn.value_unique hn'
      rfl

/-- A wait comes out as the poll that decides it says, or times out. -/
theorem comes_iff {outcome : Except ε Settled} :
    c.Comes poll s outcome ↔ (∃ n r, c.Decides poll s n r ∧ c.judge r = .settled outcome)
      ∨ ∃ last, outcome = .ok (.timedOut last) ∧ (¬ ∃ n r, c.Decides poll s n r)
        ∧ c.LastSeen poll s last := by
  constructor
  · intro h
    match outcome, h with
    | .error e, ⟨n, hn⟩ => exact .inl ⟨n, _, hn, rfl⟩
    | .ok (.succeeded state), ⟨n, hn, htarget⟩ =>
      refine .inl ⟨n, _, hn, judge_eq_settled_iff.mpr (.inr ⟨state, _, rfl, ?_, rfl⟩)⟩
      exact classify_eq_some_iff.mpr (.inl ⟨htarget, rfl⟩)
    | .ok (.failed state), ⟨n, hn, htarget, hpending⟩ =>
      refine .inl ⟨n, _, hn, judge_eq_settled_iff.mpr (.inr ⟨state, _, rfl, ?_, rfl⟩)⟩
      exact classify_eq_some_iff.mpr (.inr ⟨htarget, hpending, rfl⟩)
    | .ok (.timedOut last), h => exact .inr ⟨last, rfl, h⟩
  · rintro (⟨n, r, hn, hjudge⟩ | ⟨last, rfl, h⟩)
    · rcases judge_eq_settled_iff.mp hjudge with ⟨e, rfl, rfl⟩ | ⟨state, settled, rfl, hsome, rfl⟩
      · exact ⟨n, hn⟩
      · rcases classify_eq_some_iff.mp hsome with ⟨htarget, rfl⟩ | ⟨htarget, hpending, rfl⟩
        · exact ⟨n, hn, htarget⟩
        · exact ⟨n, hn, htarget, hpending⟩
    · exact h

/-- A wait has one outcome at most. -/
theorem Comes.unique {outcome outcome' : Except ε Settled} (h : c.Comes poll s outcome)
    (h' : c.Comes poll s outcome') : outcome = outcome' := by
  rcases comes_iff.mp h with ⟨n, r, hn, hjudge⟩ | ⟨last, rfl, hnone, hlast⟩
  · rcases comes_iff.mp h' with ⟨n', r', hn', hjudge'⟩ | ⟨last', rfl, hnone', -⟩
    · obtain ⟨-, rfl⟩ := hn.unique hn'
      rw [hjudge] at hjudge'
      cases hjudge'
      rfl
    · exact absurd ⟨n, r, hn⟩ hnone'
  · rcases comes_iff.mp h' with ⟨n', r', hn', -⟩ | ⟨last', rfl, -, hlast'⟩
    · exact absurd ⟨n', r', hn'⟩ hnone
    · rw [hlast.unique hlast']

/-! ### The watch of a wait -/

/-- Where the polls before the poll `n` continue the wait and the poll `n` does not complete, what
was seen last is what the last completed poll reported. -/
theorem lastSeen_of_seen {n : Nat} {last : Option State}
    (hn : ∀ r, ¬ c.Completes poll s n r) (hseen : (c.watch poll).Seen ⟨0, s⟩ none n last) :
    c.LastSeen poll s last := by
  have hlt : ∀ k r, c.Completes poll s k r → k < n := by
    intro k r hk
    refine Nat.lt_of_not_le fun hle => ?_
    obtain ⟨r', hr'⟩ := hk.of_le hle
    exact hn r' hr'
  cases n with
  | zero =>
    cases hseen
    exact fun k r hk => Nat.not_lt_zero k (hlt k r hk)
  | succ n =>
    obtain ⟨state, ⟨r, hcompletes, hjudge⟩, rfl⟩ := hseen
    obtain ⟨rfl, -⟩ := judge_eq_pending_iff.mp hjudge
    exact ⟨n, hcompletes, fun k r hk => Nat.le_of_lt_succ (hlt k r hk)⟩

/-- A wait that the poll `n` neither continues nor decides is not decided at all. -/
theorem not_decides_of_passed {n : Nat} (hpassed : (c.watch poll).Passed ⟨0, s⟩ n)
    (hn : ∀ r, ¬ c.Completes poll s n r) : ¬ ∃ n r, c.Decides poll s n r := by
  rintro ⟨k, r, hk⟩
  obtain ⟨r', hr'⟩ := hk.completes.of_le (hpassed.le_of_not_passes hk.not_passes)
  exact hn r' hr'

/-- The course of a wait ends in its outcome. -/
theorem comes_of_course {e : Watch.End σ (Except ε State) State (Except ε Settled)}
    (h : (c.watch poll).Course ⟨0, s⟩ none e) : c.Comes poll s (outcome e.result) := by
  obtain ⟨n, hpassed, hstopped⟩ := h.stopped
  cases hstopped with
  | exhausted hover hseen =>
    have hn : ∀ r, ¬ c.Completes poll s n r :=
      fun r hr => absurd hr.1.1 (Nat.not_lt.mpr hover)
    exact ⟨not_decides_of_passed hpassed hn, lastSeen_of_seen hn hseen⟩
  | late _ hlate hseen =>
    have hn : ∀ r, ¬ c.Completes poll s n r :=
      fun r hr => absurd hr.1.2 (Nat.not_le.mpr hlate)
    exact ⟨not_decides_of_passed hpassed hn, lastSeen_of_seen hn hseen⟩
  | settled hanswers hjudge =>
    exact comes_iff.mpr (.inl ⟨n, _, ⟨hanswers, conclusive_iff.mpr ⟨_, hjudge⟩,
      fun k hk => continues_iff.mpr (hpassed k hk)⟩, hjudge⟩)

/-- What a wait leaves once a poll decides it: no poll comes after that one. -/
theorem Decides.end_eq {e : Watch.End σ (Except ε State) State (Except ε Settled)} {n : Nat}
    {r : Except ε State} (hn : c.Decides poll s n r) (h : (c.watch poll).Course ⟨0, s⟩ none e) :
    e.looks = (c.watch poll).records ⟨0, s⟩ (n + 1)
      ∧ e.state = ((c.watch poll).answer ((c.watch poll).next^[n] ⟨0, s⟩)).next := by
  obtain ⟨k, hpassed, hstopped⟩ := h.stopped
  have hk : ¬ ∃ state, (c.watch poll).Passes ⟨0, s⟩ k state :=
    fun ⟨_, hpasses⟩ => hstopped.not_passes hpasses
  have heq : n = k := Nat.le_antisymm (hn.passed.le_of_not_passes hk)
    (hpassed.le_of_not_passes hn.not_passes)
  subst heq
  cases hstopped with
  | exhausted hover _ => exact absurd hn.completes.1.1 (Nat.not_lt.mpr hover)
  | late _ hlate _ => exact absurd hn.completes.1.2 (Nat.not_le.mpr hlate)
  | settled _ _ => exact ⟨rfl, rfl⟩

/-- A wait that comes out in some way has a course. -/
theorem Comes.exists_course {outcome : Except ε Settled} (h : c.Comes poll s outcome) :
    ∃ e, (c.watch poll).Course ⟨0, s⟩ none e := by
  rcases comes_iff.mp h with ⟨n, r, hn, -⟩ | ⟨last, -, hnone, hlast⟩
  · exact hn.passed.exists_course hn.not_passes
  · cases last with
    | none =>
      refine Watch.Passed.exists_course (n := 0) nofun ?_
      rintro ⟨state, r, hcompletes, -⟩
      exact hlast 0 r hcompletes
    | some state =>
      obtain ⟨n, hn, hlast⟩ := hlast
      refine Watch.Passed.exists_course (n := n + 1) ?_ ?_
      · intro k hk
        obtain ⟨r, hr⟩ := hn.of_le (Nat.le_of_lt_succ hk)
        exact continues_iff.mp (hr.continues hnone)
      · rintro ⟨state, r, hcompletes, -⟩
        exact Nat.not_succ_le_self n (hlast (n + 1) r hcompletes)

/-- A wait that returns comes out as its polls say. -/
theorem outcome_eq_iff {e : Watch.End σ (Except ε State) State (Except ε Settled)}
    (h : (c.watch poll).Course ⟨0, s⟩ none e) {r : Except ε Settled} :
    outcome e.result = r ↔ c.Comes poll s r := by
  constructor
  · rintro rfl
    exact comes_of_course h
  · exact (comes_of_course h).unique

/-- What a wait says is settled is what a state means that is no reason to wait on, or that the time
is up. -/
theorem Comes.terminal {settled : Settled} (h : c.Comes poll s (.ok settled)) :
    (∃ state, c.classify state = some settled) ∨ ∃ last, settled = .timedOut last := by
  rcases comes_iff.mp h with ⟨n, r, -, hjudge⟩ | ⟨last, hlast, -⟩
  · rcases judge_eq_settled_iff.mp hjudge with ⟨e, -, hsettled⟩ | ⟨state, _, -, hsome, hsettled⟩
    · cases hsettled
    · cases hsettled
      exact .inl ⟨state, hsome⟩
  · cases hlast
    exact .inr ⟨last, rfl⟩

/-- A wait that returns fails with the error, or is settled with the target or the other state that
is not pending, of the first poll that completes with such a thing; where there is no such poll, it
times out with the state of the last poll that completed. It makes no poll after the one that
decides it. And it does return, given the patience, where its polls say one of these things. -/
theorem wait_outcome_iff (c : StateChange) (poll : Millis → σ → Answer σ (Except ε State)) (s : σ) :
    (∀ {patience : Nat} {e : Watch.End σ (Except ε State) State (Except ε Settled)},
      (c.watch poll).run patience s = some e →
        (∀ error, outcome e.result = .error error ↔ ∃ n, c.Decides poll s n (.error error))
        ∧ (∀ state, outcome e.result = .ok (.succeeded state)
          ↔ ∃ n, c.Decides poll s n (.ok state) ∧ state ∈ c.target)
        ∧ (∀ state, outcome e.result = .ok (.failed state)
          ↔ ∃ n, c.Decides poll s n (.ok state) ∧ state ∉ c.target ∧ state ∉ c.pending)
        ∧ (∀ last, outcome e.result = .ok (.timedOut last)
          ↔ (¬ ∃ n r, c.Decides poll s n r) ∧ c.LastSeen poll s last)
        ∧ (∀ settled, outcome e.result = .ok settled →
          (∃ state, c.classify state = some settled) ∨ ∃ last, settled = .timedOut last)
        ∧ ∀ n r, c.Decides poll s n r →
          e.looks = (c.watch poll).records ⟨0, s⟩ (n + 1)
          ∧ e.state = ((c.watch poll).answer ((c.watch poll).next^[n] ⟨0, s⟩)).next)
    ∧ ∀ r, c.Comes poll s r → ∃ patience e, (c.watch poll).run patience s = some e := by
  refine ⟨?_, ?_⟩
  · intro patience e hrun
    obtain ⟨hcourse, -⟩ := Watch.run_eq_some_iff.mp hrun
    refine ⟨fun _ => outcome_eq_iff hcourse, fun _ => outcome_eq_iff hcourse,
      fun _ => outcome_eq_iff hcourse, fun _ => outcome_eq_iff hcourse, ?_,
      fun n r hn => hn.end_eq hcourse⟩
    intro settled hsettled
    exact ((outcome_eq_iff hcourse).mp hsettled).terminal
  · intro r hr
    obtain ⟨e, hcourse⟩ := hr.exists_course
    exact ⟨e.looks.length, e, Watch.run_eq_some_iff.mpr ⟨hcourse, Nat.le_refl _⟩⟩

/-- A poll that takes all the time there is decides the wait. -/
theorem wait_outcome_at_limit : ∃ n,
    StateChange.Decides ⟨[.creating], [.succeeded], 60, 15⟩
      (fun _ _ => (⟨60, .ok .succeeded, (), ()⟩ : Answer Unit (Except Unit State))) () n
      (.ok .succeeded)
    ∧ State.succeeded ∈ [State.succeeded] := by
  have hrun : ((⟨[.creating], [.succeeded], 60, 15⟩ : StateChange).watch
      (fun _ _ => (⟨60, .ok .succeeded, (), ()⟩ : Answer Unit (Except Unit State)))).run 1 ()
      = some ⟨.settled (.ok (.succeeded .succeeded)), (), 60,
        [⟨0, 60, 60, some (.ok .succeeded)⟩]⟩ := by
    cbv
  exact (((wait_outcome_iff _ _ ()).1 hrun).2.1 .succeeded).mp rfl

/-! ### Polls of a part of the state -/

/-- Polls that look at a part of a state complete as they do on that part alone. -/
theorem completes_of_part (part : σ → τ) {poll' : Millis → τ → Answer τ (Except ε State)}
    (hdelay : ∀ time s, (poll' time (part s)).delay = (poll time s).delay)
    (hvalue : ∀ time s, (poll' time (part s)).value = (poll time s).value)
    (hnext : ∀ time s, (poll' time (part s)).next = part (poll time s).next) {n : Nat}
    {r : Except ε State} : c.Completes poll' (part s) n r ↔ c.Completes poll s n r := by
  let project (m : Moment σ) : Moment τ := ⟨m.elapsed, part m.state⟩
  have hstep : Function.Semiconj project (c.watch poll).next (c.watch poll').next := by
    intro m
    simp only [project, Watch.next, Watch.answer, watch, hdelay, hnext]
  have hmoment : (c.watch poll').next^[n] ⟨0, part s⟩
      = project ((c.watch poll).next^[n] ⟨0, s⟩) :=
    (hstep.iterate_right n ⟨0, s⟩).symm
  unfold Completes Watch.Answers Watch.InTime Watch.answer
  rw [hmoment]
  simp only [project, watch, hdelay, hvalue]

theorem comes_of_part (part : σ → τ) {poll' : Millis → τ → Answer τ (Except ε State)}
    (hdelay : ∀ time s, (poll' time (part s)).delay = (poll time s).delay)
    (hvalue : ∀ time s, (poll' time (part s)).value = (poll time s).value)
    (hnext : ∀ time s, (poll' time (part s)).next = part (poll time s).next)
    {outcome : Except ε Settled} : c.Comes poll' (part s) outcome ↔ c.Comes poll s outcome := by
  have hcompletes : ∀ n r, c.Completes poll' (part s) n r ↔ c.Completes poll s n r :=
    fun _ _ => completes_of_part part hdelay hvalue hnext
  have hcontinues : ∀ n, c.Continues poll' (part s) n ↔ c.Continues poll s n := by
    intro n
    simp only [Continues, hcompletes]
  have hdecides : ∀ n r, c.Decides poll' (part s) n r ↔ c.Decides poll s n r := by
    intro n r
    constructor
    · rintro ⟨hn, hconclusive, hbefore⟩
      exact ⟨(hcompletes n r).mp hn, hconclusive, fun k hk => (hcontinues k).mp (hbefore k hk)⟩
    · rintro ⟨hn, hconclusive, hbefore⟩
      exact ⟨(hcompletes n r).mpr hn, hconclusive, fun k hk => (hcontinues k).mpr (hbefore k hk)⟩
  match outcome with
  | .error e => simp only [Comes, hdecides]
  | .ok (.succeeded state) => simp only [Comes, hdecides]
  | .ok (.failed state) => simp only [Comes, hdecides]
  | .ok (.timedOut none) => simp only [Comes, hdecides, LastSeen, hcompletes]
  | .ok (.timedOut (some state)) => simp only [Comes, hdecides, LastSeen, hcompletes]

end Provisioning.StateChange
