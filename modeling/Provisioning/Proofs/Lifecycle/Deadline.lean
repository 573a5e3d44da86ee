import Provisioning.Plane.Rehearsal
import Provisioning.Proofs.Lifecycle.Absence
import Provisioning.Proofs.Lifecycle.Identity

/-!
When a deletion returns. Its reads keep to its limit, but the pause after a read is measured by what
was left before that read: after a slow one it may be longer than what is left then
(`Oversleeps`). A deletion returns within its limit exactly if that does not happen, and otherwise
when that pause is over.
-/

namespace Provisioning.Lifecycle

variable {σ Doc Obj : Type} [Managed Obj]

section Pauses

variable (l : Lifecycle σ Doc Obj) (key : NaturalKey) (w : World σ Obj) (n : Nat)

/-- The moment of the read `n`, counted from 0, of a deletion that was accepted in a world. -/
def readMoment : Moment (World σ Obj) := (l.deletionWatch key).next^[n] ⟨0, w⟩

/-- When the read `n` is answered. -/
def answerTime : Millis :=
  (l.readMoment key w n).elapsed + (l.client.get key (l.readMoment key w n).state.plane).delay

/-- The pause after the read `n`. -/
def pauseAfter : Millis :=
  min l.timeouts.poll (l.timeouts.delete - (l.readMoment key w n).elapsed)

/-- Whether all reads up to the read `n` find an object in time, and the pause after it is longer
than what is then left of the limit. -/
structure Oversleeps : Prop where
  found : ∀ k ≤ n, ∃ state, (l.deletionWatch key).Passes ⟨0, w⟩ k state
  longer : l.timeouts.delete - l.answerTime key w n < l.pauseAfter key w n

end Pauses

variable {l : Lifecycle σ Doc Obj} {key : NaturalKey} {id : String} {w after : World σ Obj}
  {r : Except Failure Unit} {n : Nat}

theorem readMoment_succ :
    (l.readMoment key w (n + 1)).elapsed = l.answerTime key w n + l.pauseAfter key w n := by
  unfold readMoment
  rw [Function.iterate_succ_apply']
  rfl

/-- A read that finds an object in time is answered by the limit. -/
theorem answerTime_le (h : ∃ state, (l.deletionWatch key).Passes ⟨0, w⟩ n state) :
    l.answerTime key w n ≤ l.timeouts.delete := by
  obtain ⟨_, _, ⟨⟨hbegun, hintime⟩, -⟩, -⟩ := h
  exact Nat.add_le_of_le_sub' (Nat.le_of_lt hbegun) hintime

namespace Oversleeps

theorem passed (h : l.Oversleeps key w n) : (l.deletionWatch key).Passed ⟨0, w⟩ (n + 1) :=
  fun k hk => h.found k (Nat.le_of_lt_succ hk)

/-- The next read would begin after the limit. -/
theorem limit_lt (h : l.Oversleeps key w n) :
    l.timeouts.delete < (l.readMoment key w (n + 1)).elapsed := by
  rw [readMoment_succ]
  exact (Nat.sub_lt_iff_lt_add' (answerTime_le (h.found n (Nat.le_refl n)))).mp h.longer

/-- A deletion that oversleeps returns when that pause is over, with its time up. -/
theorem ends {e : Watch.End (World σ Obj) (Except ClientError Obj) (Option State)
      (Except ClientError Unit)} (h : l.Oversleeps key w n)
    (hcourse : (l.deletionWatch key).Course ⟨0, w⟩ none e) :
    (∃ last, l.fadedResult key e.result = .error (.timedOut key .deleted l.timeouts.delete last))
      ∧ e.elapsed = l.answerTime key w n + l.pauseAfter key w n := by
  obtain ⟨⟨last, hexpired⟩, helapsed⟩ := hcourse.of_overrun h.passed h.limit_lt
  refine ⟨⟨last.join, by rw [hexpired]; rfl⟩, ?_⟩
  rw [helapsed, ← readMoment_succ]
  rfl

end Oversleeps

/-- The watch on an object overruns its limit exactly if a pause does. -/
theorem overruns_deletionWatch_iff :
    (l.deletionWatch key).Overruns ⟨0, w⟩ ↔ ∃ n, l.Oversleeps key w n := by
  constructor
  · rintro ⟨n, hpassed, hover⟩
    cases n with
    | zero => cases hover
    | succ n =>
      have hfound : ∀ k ≤ n, ∃ state, (l.deletionWatch key).Passes ⟨0, w⟩ k state :=
        fun k hk => hpassed k (Nat.lt_succ_of_le hk)
      refine ⟨n, hfound, ?_⟩
      change l.timeouts.delete < (l.readMoment key w (n + 1)).elapsed at hover
      rw [readMoment_succ] at hover
      exact Nat.sub_lt_left_of_lt_add (answerTime_le (hfound n (Nat.le_refl n))) hover
  · rintro ⟨n, h⟩
    exact ⟨n + 1, h.passed, h.limit_lt⟩

/-- A deletion is never late by more than the interval between its reads. -/
theorem elapsed_deletion_le
    {e : Watch.End (World σ Obj) (Except ClientError Obj) (Option State)
      (Except ClientError Unit)} (hcourse : (l.deletionWatch key).Course ⟨0, w⟩ none e) :
    e.elapsed ≤ l.timeouts.delete + l.timeouts.poll := by
  by_cases hover : (l.deletionWatch key).Overruns ⟨0, w⟩
  · obtain ⟨n, hn⟩ := overruns_deletionWatch_iff.mp hover
    rw [(hn.ends hcourse).2]
    exact Nat.add_le_add (answerTime_le (hn.found n (Nat.le_refl n))) (Nat.min_le_left _ _)
  · have hintime : e.elapsed ≤ l.timeouts.delete :=
      Nat.le_of_not_lt fun hlate => hover (hcourse.limit_lt_iff.mp hlate)
    exact Nat.le_add_right_of_le hintime

/-- A deletion that was accepted returns within its limit exactly if it does not oversleep. If it
does, it returns when that pause is over, with its time up; it is never late by more than the
interval between its reads. The reads themselves always keep to what is left of the limit. -/
theorem delete_in_time_iff (l : Lifecycle σ Doc Obj) (id : String) (key : NaturalKey)
    (w after : World σ Obj) (r : Except Failure Unit) (hkey : keyOf Obj id = .ok key)
    (haccepted : (l.client.delete key w.plane).value = .ok ())
    (hrun : l.delete id w = ended r after) :
    ∃ e, (l.deletionWatch key).run l.patience (l.askedWorld id key w) = some e
      ∧ r = l.fadedResult key e.result
      ∧ after.clock = (l.askedWorld id key w).clock.after e.elapsed
      ∧ (∀ look ∈ e.looks, look.Within l.timeouts.delete)
      ∧ (e.elapsed ≤ l.timeouts.delete ↔ ¬ ∃ n, l.Oversleeps key (l.askedWorld id key w) n)
      ∧ (∀ n, l.Oversleeps key (l.askedWorld id key w) n →
        (∃ last, r = .error (.timedOut key .deleted l.timeouts.delete last))
        ∧ e.elapsed = l.answerTime key (l.askedWorld id key w) n
          + l.pauseAfter key (l.askedWorld id key w) n)
      ∧ e.elapsed ≤ l.timeouts.delete + l.timeouts.poll := by
  cases hstart : (l.deletionWatch key).start (l.askedWorld id key w).clock l.patience
    (l.askedWorld id key w) with
  | error why =>
    rw [delete_of_endless hkey haccepted hstart] at hrun
    cases r <;> cases hrun
  | ok e =>
    obtain ⟨after', hrun', -, -, hclock⟩ := delete_of_start hkey haccepted hstart
    have hwatch := (Watch.start_eq_ok_iff.mp hstart).2
    have hcourse := (Watch.run_eq_some_iff.mp hwatch).1
    have hr : r = l.fadedResult key e.result := ended_inj (hrun.symm.trans hrun')
    have hafter : after = after' := (left_of_ended hrun).symm.trans (left_of_ended hrun')
    refine ⟨e, hwatch, hr, hafter ▸ hclock, hcourse.within, ?_, ?_, elapsed_deletion_le hcourse⟩
    · rw [← overruns_deletionWatch_iff, ← hcourse.limit_lt_iff]
      exact Nat.not_lt.symm
    · intro n hn
      rw [hr]
      exact hn.ends hcourse

/-! ### A deletion that is late -/

/-- A life cycle on a plane in rehearsal, with a minute for a deletion. -/
def hasty : Lifecycle (Rehearsal Object.Service) Document.Service Object.Service :=
  Kind.service.through (Rehearsal.client _)
    { Timeouts.default with delete := .ofMinutes 1, poll := .ofSeconds 15 } 60000

/-- The world of a plane that says that a deletion is done, and then gives the object out, late. -/
def lingeringWorld : World (Rehearsal Object.Service) Object.Service :=
  rehearsedWorld _ [⟨.ofSeconds 50, .give { name := "web", location := "westeurope" }⟩]
    [⟨0, .ignore⟩]

theorem keyOf_lingering :
    keyOf Object.Service (Store.idFor Object.Service ⟨"rg", "web"⟩) = .ok ⟨"rg", "web"⟩ :=
  (keyOf_idFor Store.segment_subscription (by decide) (by decide)).mpr (by decide)

theorem oversleeps_lingering :
    hasty.Oversleeps ⟨"rg", "web"⟩
      (hasty.askedWorld (Store.idFor Object.Service ⟨"rg", "web"⟩) ⟨"rg", "web"⟩ lingeringWorld)
      0 where
  found k hk := by
    obtain rfl := Nat.le_zero.mp hk
    exact ⟨none, _, ⟨⟨by decide, by decide⟩, rfl⟩, rfl⟩
  longer := by decide

/-- The deletion of a service that lingers says after 65 seconds that its minute is over. -/
theorem delete_in_time_lingering : ∃ r after,
    hasty.delete (Store.idFor Object.Service ⟨"rg", "web"⟩) lingeringWorld = ended r after
    ∧ (∃ last, r = .error (.timedOut ⟨"rg", "web"⟩ .deleted (.ofMinutes 1) last))
    ∧ after.clock.now = .ofSeconds 65 := by
  obtain ⟨r, after, hrun⟩ := exists_delete (l := hasty) keyOf_lingering (by decide) (by decide)
    lingeringWorld fun _ => by decide
  obtain ⟨e, -, -, hclock, -, -, hlate, -⟩ :=
    delete_in_time_iff hasty (Store.idFor Object.Service ⟨"rg", "web"⟩) ⟨"rg", "web"⟩
      lingeringWorld after r keyOf_lingering rfl hrun
  obtain ⟨htimedOut, helapsed⟩ := hlate 0 oversleeps_lingering
  refine ⟨r, after, hrun, htimedOut, ?_⟩
  rw [hclock, helapsed]
  rfl

/-- A deletion may return after its limit, counted from when it was accepted. -/
theorem delete_returns_late : ¬ ∀ (σ : Type) (kind : Kind) (client : Client σ kind.Obj)
    (timeouts : Timeouts) (patience : Nat) (id : String) (key : NaturalKey)
    (w after : World σ kind.Obj) (r : Except Failure Unit),
    keyOf kind.Obj id = .ok key → (client.delete key w.plane).value = .ok () →
    (kind.through client timeouts patience).delete id w = ended r after →
    after.clock.now ≤ ((kind.through client timeouts patience).askedWorld id key w).clock.now
      + timeouts.delete := by
  intro h
  obtain ⟨e, hwatch⟩ := exists_run_deletionWatch (l := hasty) (by decide) (by decide)
    ⟨"rg", "web"⟩
    (hasty.askedWorld (Store.idFor Object.Service ⟨"rg", "web"⟩) ⟨"rg", "web"⟩ lingeringWorld)
  obtain ⟨after, hrun, -, -, hclock⟩ :=
    delete_of_start (w := lingeringWorld) keyOf_lingering rfl
      (Watch.start_of_run (by decide) hwatch)
  have hlimit := h _ .service _ _ _ _ _ lingeringWorld after _ keyOf_lingering rfl hrun
  have helapsed := (oversleeps_lingering.ends (Watch.run_eq_some_iff.mp hwatch).1).2
  rw [hclock, helapsed] at hlimit
  exact absurd hlimit (by decide)

end Provisioning.Lifecycle
