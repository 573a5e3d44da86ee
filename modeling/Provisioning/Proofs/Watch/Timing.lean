import Mathlib.Data.List.Chain
import Provisioning.Proofs.Watch

/-!
The time that a watch takes. Every look of a course is the one made at its moment, begins before the
limit and is over by then (`Look.Within`), so that only a pause can end after the limit
(`Overruns`): a watch whose pauses never exceed what is left when they begin takes no longer than
its limit, and expires at no other time. A watch that every look brings nearer to its limit
(`Advances`) comes to an end.
-/

namespace Provisioning

/-- Whether a look began before the limit, was given all the time until then, and took no more. -/
structure Look.Within {α : Type} (limit : Millis) (look : Look α) : Prop where
  given : 0 < look.remaining
  remaining : look.start + look.remaining = limit
  start_le_stop : look.start ≤ look.stop
  stop_le : look.stop ≤ limit

namespace Watch

variable {σ α γ β : Type} (w : Watch σ α γ β)

/-- The record of the look at a moment, answered in time or given up at the limit. -/
def made (m : Moment σ) : Look α :=
  if (w.answer m).delay ≤ w.limit - m.elapsed then w.record m
  else ⟨m.elapsed, w.limit - m.elapsed, w.limit, none⟩

/-- Whether time passes from a look in time to the next one. -/
def Advances : Prop := ∀ m, w.InTime m → m.elapsed < (w.next m).elapsed

/-- Whether no pause is longer than what is left when it begins. -/
def Punctual : Prop := ∀ before after, w.pause before after ≤ after

/-- Whether all looks up to some moment mean more waiting, and the moment is after the limit. -/
def Overruns (m : Moment σ) : Prop := ∃ n, w.Passed m n ∧ w.limit < (w.next^[n] m).elapsed

variable {w} {m : Moment σ} {last : Option γ} {e : End σ α γ β}

/-! ### Looks -/

theorem made_of_inTime (h : w.InTime m) : w.made m = w.record m := if_pos h.2

theorem made_of_late (h : w.limit - m.elapsed < (w.answer m).delay) :
    w.made m = ⟨m.elapsed, w.limit - m.elapsed, w.limit, none⟩ :=
  if_neg (Nat.not_le.mpr h)

theorem within_made (h : m.elapsed < w.limit) : (w.made m).Within w.limit := by
  have hgiven : 0 < w.limit - m.elapsed := Nat.sub_pos_of_lt h
  have hlimit : m.elapsed + (w.limit - m.elapsed) = w.limit := Nat.add_sub_cancel' (Nat.le_of_lt h)
  unfold made
  split
  case isTrue hintime =>
    exact ⟨hgiven, hlimit, Nat.le_add_right _ _, Nat.add_le_of_le_sub' (Nat.le_of_lt h) hintime⟩
  case isFalse => exact ⟨hgiven, hlimit, Nat.le_of_lt h, Nat.le_refl _⟩

/-- The looks of a course are those that are made at its moments. -/
theorem Course.looks_eq (h : w.Course m last e) :
    e.looks = (List.range e.looks.length).map fun n => w.made (w.next^[n] m) := by
  induction h with
  | exhausted _ => rfl
  | late _ hlate => simp [made_of_late hlate]
  | settled hintime _ => simp [made_of_inTime hintime]
  | @pending m _ _ e hintime _ _ ih =>
    simp only [List.length_cons, List.range_succ_eq_map, List.map_cons, List.map_map,
      Function.iterate_zero_apply, made_of_inTime hintime, Function.comp_def,
      Function.iterate_succ_apply]
    exact congrArg (w.record m :: ·) ih

/-- What is true of every look that is made before the limit is true of the looks of a course. -/
theorem Course.within (h : w.Course m last e) : ∀ look ∈ e.looks, look.Within w.limit := by
  induction h with
  | exhausted _ => nofun
  | late hbegun hlate =>
    rw [← made_of_late hlate]
    exact List.forall_mem_singleton.mpr (within_made hbegun)
  | settled hintime _ =>
    rw [← made_of_inTime hintime]
    exact List.forall_mem_singleton.mpr (within_made hintime.1)
  | pending hintime _ _ ih =>
    rw [← made_of_inTime hintime]
    exact List.forall_mem_cons.mpr ⟨within_made hintime.1, ih⟩

/-- The first look of a course is made where it begins. -/
theorem Course.head (h : w.Course m last e) :
    ∀ look ∈ e.looks.head?, look.start = m.elapsed ∧ m.elapsed < w.limit := by
  intro look hlook
  cases h with
  | exhausted _ => cases hlook
  | late hbegun _ => cases hlook; exact ⟨rfl, hbegun⟩
  | settled hintime _ => cases hlook; exact ⟨rfl, hintime.1⟩
  | pending hintime _ _ => cases hlook; exact ⟨rfl, hintime.1⟩

/-- A look that follows another one begins when the pause after it is over, and before the limit;
the one before it was answered. -/
theorem Course.spaced (h : w.Course m last e) : e.looks.IsChain fun a b => a.answer.isSome
    ∧ b.start = a.stop + w.pause a.remaining (w.limit - a.stop) ∧ b.start < w.limit := by
  induction h with
  | exhausted _ => exact .nil
  | late _ _ => exact .singleton _
  | settled _ _ => exact .singleton _
  | pending _ _ hrest ih =>
    refine ih.cons fun b hb => ?_
    obtain ⟨hstart, hbegun⟩ := hrest.head b hb
    exact ⟨rfl, hstart, hstart ▸ hbegun⟩

/-! ### The limit -/

/-- A watch expires when its limit is reached, or later. -/
theorem Course.limit_le (h : w.Course m last e) {seen : Option γ}
    (hexpired : e.result = .expired seen) : w.limit ≤ e.elapsed := by
  induction h with
  | exhausted hover => exact hover
  | late _ _ => exact Nat.le_refl _
  | settled _ _ => cases hexpired
  | pending _ _ _ ih => exact ih hexpired

/-- A watch that overruns its limit expires when the pause is over that does. -/
theorem Course.of_overrun (h : w.Course m last e) {n : Nat} (hpassed : w.Passed m n)
    (hover : w.limit < (w.next^[n] m).elapsed) :
    (∃ seen, e.result = .expired seen) ∧ e.elapsed = (w.next^[n] m).elapsed := by
  obtain ⟨k, hk, hstopped⟩ := h.stopped
  have hn : ¬ ∃ seen, w.Passes m n seen := by
    rintro ⟨_, _, ⟨⟨hbegun, -⟩, -⟩, -⟩
    exact absurd hover (Nat.not_lt.mpr (Nat.le_of_lt hbegun))
  have heq : k = n := Nat.le_antisymm (hk.le_of_not_passes hn)
    (hpassed.le_of_not_passes fun ⟨_, hpasses⟩ => hstopped.not_passes hpasses)
  subst heq
  cases hstopped with
  | exhausted _ _ => exact ⟨⟨_, rfl⟩, rfl⟩
  | late hbegun _ _ => exact absurd hover (Nat.not_lt.mpr (Nat.le_of_lt hbegun))
  | settled hanswers _ => exact absurd hover (Nat.not_lt.mpr (Nat.le_of_lt hanswers.1.1))

/-- A watch takes longer than its limit exactly if it overruns it. -/
theorem Course.limit_lt_iff (h : w.Course m last e) : w.limit < e.elapsed ↔ w.Overruns m := by
  constructor
  · intro hover
    obtain ⟨n, hpassed, hstopped⟩ := h.stopped
    refine ⟨n, hpassed, ?_⟩
    cases hstopped with
    | exhausted _ _ => exact hover
    | late _ _ _ => exact absurd hover (Nat.lt_irrefl _)
    | settled hanswers _ =>
      obtain ⟨hbegun, hintime⟩ := hanswers.1
      exact absurd hover (Nat.not_lt.mpr (Nat.add_le_of_le_sub' (Nat.le_of_lt hbegun) hintime))
  · rintro ⟨n, hpassed, hover⟩
    rw [(h.of_overrun hpassed hover).2]
    exact hover

/-- A watch whose pauses end by its limit does not overrun it. -/
theorem Punctual.not_overruns (hw : w.Punctual) (hm : m.elapsed ≤ w.limit) : ¬ w.Overruns m := by
  rintro ⟨n, hpassed, hover⟩
  refine absurd hover (Nat.not_lt.mpr ?_)
  cases n with
  | zero => exact hm
  | succ n =>
    obtain ⟨_, _, ⟨⟨hbegun, hintime⟩, -⟩, -⟩ := hpassed n (Nat.lt_succ_self n)
    rw [Function.iterate_succ_apply']
    exact Nat.add_le_of_le_sub' (Nat.add_le_of_le_sub' (Nat.le_of_lt hbegun) hintime) (hw _ _)

theorem Course.elapsed_le (h : w.Course m last e) (hw : w.Punctual) (hm : m.elapsed ≤ w.limit) :
    e.elapsed ≤ w.limit :=
  Nat.le_of_not_lt fun hover => hw.not_overruns hm (h.limit_lt_iff.mp hover)

/-! ### The end -/

/-- Time passes with every look where there is a pause as long as there is time for one. -/
theorem advances_of_pause
    (hpause : ∀ before after, 0 < before → 0 < after → 0 < w.pause before after) :
    w.Advances := by
  rintro m ⟨hbegun, -⟩
  cases hdelay : (w.answer m).delay with
  | zero =>
    have hleft : 0 < w.limit - m.elapsed := Nat.sub_pos_of_lt hbegun
    have hpositive := hpause (w.limit - m.elapsed) (w.limit - m.elapsed) hleft hleft
    simpa [next, hdelay] using hpositive
  | succ delay =>
    have hanswered : m.elapsed < m.elapsed + (delay + 1) :=
      Nat.lt_add_of_pos_right (Nat.zero_lt_succ delay)
    simp only [next, hdelay]
    exact Nat.lt_of_lt_of_le hanswered (Nat.le_add_right _ _)

/-- A watch that every look brings nearer to its limit ends. -/
theorem Advances.exists_course (hw : w.Advances) (m : Moment σ) (last : Option γ) :
    ∃ e, w.Course m last e := by
  induction hleft : w.limit - m.elapsed using Nat.strongRecOn generalizing m last with
  | ind left ih =>
    rcases exists_course_or_pending m last with hcourse | ⟨hintime, seen, hjudge⟩
    · exact hcourse
    · have hless : w.limit - (w.next m).elapsed < left := by
        rw [← hleft]
        exact Nat.sub_lt_sub_left hintime.1 (hw m hintime)
      obtain ⟨e, hcourse⟩ := ih _ hless (w.next m) (some seen) rfl
      exact ⟨_, .pending hintime hjudge hcourse⟩

/-- A watch that every look brings nearer to its limit takes a look each moment at most. -/
theorem Course.length_le (h : w.Course m last e) (hw : w.Advances) :
    e.looks.length ≤ w.limit - m.elapsed := by
  induction h with
  | exhausted _ => exact Nat.zero_le _
  | late hbegun _ => exact Nat.sub_pos_of_lt hbegun
  | settled hintime _ => exact Nat.sub_pos_of_lt hintime.1
  | @pending m _ _ e hintime _ _ ih =>
    have hless : w.limit - (w.next m).elapsed < w.limit - m.elapsed :=
      Nat.sub_lt_sub_left hintime.1 (hw m hintime)
    exact Nat.lt_of_le_of_lt ih hless

end Watch

end Provisioning
