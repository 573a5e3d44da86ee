import Mathlib.Logic.Function.Iterate
import Provisioning.Watch

/-!
The course of a watch. `Course` says how a watch goes on from a moment, with one case for each way,
and without a bound on the number of looks: `runFrom` has an end exactly if there is a course with
that end whose looks its patience suffices for.

The looks of a watch are counted by the moments at which they begin. Whether a look is answered in
time (`Answers`) depends on nothing but how long the looks before it took, so the look at which a
watch stops can be told without running it: it is the first one that does not mean more waiting.
-/

namespace Provisioning

/-- Where a watch stands before a look: the time that has passed, and the state. -/
structure Moment (σ : Type) where
  elapsed : Millis
  state : σ

namespace Watch

variable {σ α γ β : Type} (w : Watch σ α γ β)

/-- The answer to a look at a moment. -/
def answer (m : Moment σ) : Answer σ α := w.look (w.limit - m.elapsed) m.state

/-- The moment of the look after the one at a moment, if that one is waited for. -/
def next (m : Moment σ) : Moment σ :=
  let after := m.elapsed + (w.answer m).delay
  ⟨after + w.pause (w.limit - m.elapsed) (w.limit - after), (w.answer m).next⟩

/-- Whether the look at a moment begins before the limit and is over by then. -/
def InTime (m : Moment σ) : Prop :=
  m.elapsed < w.limit ∧ (w.answer m).delay ≤ w.limit - m.elapsed

/-- The record of a look that is answered in time. -/
def record (m : Moment σ) : Look α :=
  ⟨m.elapsed, w.limit - m.elapsed, m.elapsed + (w.answer m).delay, some (w.answer m).value⟩

/-! ### Courses -/

/-- The course of a watch from a moment to its end, where `last` was seen before. -/
inductive Course : Moment σ → Option γ → End σ α γ β → Prop
  /-- The time is up. -/
  | exhausted {m : Moment σ} {last : Option γ} (hover : w.limit ≤ m.elapsed) :
      Course m last ⟨.expired last, m.state, m.elapsed, []⟩
  /-- The time is up before there is an answer. -/
  | late {m : Moment σ} {last : Option γ} (hbegun : m.elapsed < w.limit)
      (hlate : w.limit - m.elapsed < (w.answer m).delay) :
      Course m last ⟨.expired last, (w.answer m).abandoned, w.limit,
        [⟨m.elapsed, w.limit - m.elapsed, w.limit, none⟩]⟩
  | settled {m : Moment σ} {last : Option γ} {outcome : β} (hintime : w.InTime m)
      (hjudge : w.judge (w.answer m).value = .settled outcome) :
      Course m last ⟨.settled outcome, (w.answer m).next, m.elapsed + (w.answer m).delay,
        [w.record m]⟩
  | pending {m : Moment σ} {last : Option γ} {seen : γ} {e : End σ α γ β}
      (hintime : w.InTime m) (hjudge : w.judge (w.answer m).value = .pending seen)
      (hrest : Course (w.next m) (some seen) e) :
      Course m last { e with looks := w.record m :: e.looks }

variable {w} {m : Moment σ} {last : Option γ} {patience : Nat} {e : End σ α γ β}

theorem runFrom_of_over (h : w.limit ≤ m.elapsed) :
    w.runFrom patience m.elapsed last m.state = some ⟨.expired last, m.state, m.elapsed, []⟩ := by
  unfold runFrom
  simp [Nat.sub_eq_zero_of_le h]

theorem runFrom_zero (h : m.elapsed < w.limit) :
    w.runFrom 0 m.elapsed last m.state = none := by
  unfold runFrom
  simp [Nat.sub_ne_zero_of_lt h]

theorem runFrom_of_late (hbegun : m.elapsed < w.limit)
    (hlate : w.limit - m.elapsed < (w.answer m).delay) :
    w.runFrom (patience + 1) m.elapsed last m.state
      = some ⟨.expired last, (w.answer m).abandoned, w.limit,
        [⟨m.elapsed, w.limit - m.elapsed, w.limit, none⟩]⟩ := by
  unfold answer at hlate ⊢
  unfold runFrom
  simp [Nat.sub_ne_zero_of_lt hbegun, hlate, Nat.add_sub_cancel' (Nat.le_of_lt hbegun)]

theorem runFrom_of_settled {outcome : β} (hintime : w.InTime m)
    (hjudge : w.judge (w.answer m).value = .settled outcome) :
    w.runFrom (patience + 1) m.elapsed last m.state
      = some ⟨.settled outcome, (w.answer m).next, m.elapsed + (w.answer m).delay,
        [w.record m]⟩ := by
  obtain ⟨hbegun, hover⟩ := hintime
  unfold answer at hover hjudge
  unfold record answer runFrom
  simp [Nat.sub_ne_zero_of_lt hbegun, Nat.not_lt.mpr hover, hjudge]

theorem runFrom_of_pending {seen : γ} (hintime : w.InTime m)
    (hjudge : w.judge (w.answer m).value = .pending seen) :
    w.runFrom (patience + 1) m.elapsed last m.state
      = (w.runFrom patience (w.next m).elapsed (some seen) (w.next m).state).map fun e =>
        { e with looks := w.record m :: e.looks } := by
  obtain ⟨hbegun, hover⟩ := hintime
  unfold answer at hover hjudge
  unfold record next answer
  rw [runFrom]
  simp [Nat.sub_ne_zero_of_lt hbegun, Nat.not_lt.mpr hover, hjudge]

/-- The run of a watch with some patience is its course, if that takes no more looks. -/
theorem runFrom_eq_some_iff :
    w.runFrom patience m.elapsed last m.state = some e
      ↔ w.Course m last e ∧ e.looks.length ≤ patience := by
  constructor
  · intro h
    induction patience generalizing m last e with
    | zero =>
      by_cases hover : w.limit ≤ m.elapsed
      · rw [runFrom_of_over hover] at h
        cases h
        exact ⟨.exhausted hover, Nat.le_refl 0⟩
      · rw [runFrom_zero (Nat.lt_of_not_le hover)] at h
        cases h
    | succ patience ih =>
      by_cases hover : w.limit ≤ m.elapsed
      · rw [runFrom_of_over hover] at h
        cases h
        exact ⟨.exhausted hover, Nat.zero_le _⟩
      have hbegun := Nat.lt_of_not_le hover
      by_cases hlate : w.limit - m.elapsed < (w.answer m).delay
      · rw [runFrom_of_late hbegun hlate] at h
        cases h
        exact ⟨.late hbegun hlate, Nat.le_add_left 1 patience⟩
      have hintime : w.InTime m := ⟨hbegun, Nat.le_of_not_lt hlate⟩
      cases hjudge : w.judge (w.answer m).value with
      | settled outcome =>
        rw [runFrom_of_settled hintime hjudge] at h
        cases h
        exact ⟨.settled hintime hjudge, Nat.le_add_left 1 patience⟩
      | pending seen =>
        rw [runFrom_of_pending hintime hjudge] at h
        obtain ⟨rest, hrest, rfl⟩ := Option.map_eq_some_iff.mp h
        obtain ⟨hcourse, hlooks⟩ := ih hrest
        exact ⟨.pending hintime hjudge hcourse, Nat.succ_le_succ hlooks⟩
  · rintro ⟨hcourse, hlooks⟩
    induction hcourse generalizing patience with
    | exhausted hover => exact runFrom_of_over hover
    | late hbegun hlate =>
      obtain ⟨patience, rfl⟩ := Nat.exists_eq_add_of_le' hlooks
      exact runFrom_of_late hbegun hlate
    | settled hintime hjudge =>
      obtain ⟨patience, rfl⟩ := Nat.exists_eq_add_of_le' hlooks
      exact runFrom_of_settled hintime hjudge
    | pending hintime hjudge _ ih =>
      cases patience with
      | zero => cases hlooks
      | succ patience =>
        rw [runFrom_of_pending hintime hjudge, ih (Nat.le_of_succ_le_succ hlooks)]
        rfl

theorem run_eq_some_iff {s : σ} :
    w.run patience s = some e ↔ w.Course ⟨0, s⟩ none e ∧ e.looks.length ≤ patience :=
  runFrom_eq_some_iff (m := ⟨0, s⟩)

/-- There is one course at most. -/
theorem Course.unique {e' : End σ α γ β} (h : w.Course m last e) (h' : w.Course m last e') :
    e = e' := by
  have hrun := runFrom_eq_some_iff.mpr ⟨h, Nat.le_max_left e.looks.length e'.looks.length⟩
  have hrun' := runFrom_eq_some_iff.mpr ⟨h', Nat.le_max_right e.looks.length e'.looks.length⟩
  exact Option.some.inj (hrun.symm.trans hrun')

/-! ### The clock -/

section Clock

variable {clock : Clock} {s : σ}

theorem start_of_not_holds (h : ¬ clock.Holds w.limit) :
    w.start clock patience s = .error .beyondClock := if_neg h

theorem start_of_run (h : clock.Holds w.limit) (hrun : w.run patience s = some e) :
    w.start clock patience s = .ok e := by
  simp only [start, if_pos h, hrun]

theorem start_of_no_run (h : clock.Holds w.limit) (hrun : w.run patience s = none) :
    w.start clock patience s = .error .unsettled := by
  simp only [start, if_pos h, hrun]

/-- A watch by a clock is its run, if the clock can hold its deadline. -/
theorem start_eq_ok_iff :
    w.start clock patience s = .ok e ↔ clock.Holds w.limit ∧ w.run patience s = some e := by
  by_cases h : clock.Holds w.limit
  · cases hrun : w.run patience s with
    | none => simp [start_of_no_run h hrun]
    | some e' => simp [start_of_run h hrun, h]
  · simp [start_of_not_holds h, h]

end Clock

/-! ### What a course keeps -/

/-- A relation that every look respects, finished or given up, holds between the states at the
beginning and at the end of a course. -/
theorem Course.relates {R : σ → σ → Prop} (hrefl : ∀ s, R s s)
    (htrans : ∀ {s t u}, R s t → R t u → R s u)
    (hlook : ∀ time s, R s (w.look time s).next ∧ R s (w.look time s).abandoned)
    (h : w.Course m last e) : R m.state e.state := by
  induction h with
  | exhausted _ => exact hrefl _
  | late _ _ => exact (hlook _ _).2
  | settled _ _ => exact (hlook _ _).1
  | pending _ _ _ ih => exact htrans (hlook _ _).1 ih

/-! ### Looks, counted -/

variable (w)

/-- Whether the look `n`, counted from 0 at a moment, is answered in time with a value, where the
looks before it are waited for. -/
def Answers (m : Moment σ) (n : Nat) (value : α) : Prop :=
  w.InTime (w.next^[n] m) ∧ (w.answer (w.next^[n] m)).value = value

/-- Whether the look `n` is answered in time, and means more waiting. -/
def Passes (m : Moment σ) (n : Nat) (seen : γ) : Prop :=
  ∃ value, w.Answers m n value ∧ w.judge value = .pending seen

/-- Whether all looks before the look `n` mean more waiting. -/
def Passed (m : Moment σ) (n : Nat) : Prop := ∀ k < n, ∃ seen, w.Passes m k seen

/-- What was seen last before the look `n`, where `last` was seen before the look 0. -/
def Seen (m : Moment σ) (last : Option γ) : Nat → Option γ → Prop
  | 0, seen => seen = last
  | n + 1, seen => ∃ s, w.Passes m n s ∧ seen = some s

/-- The records of the looks before the look `n`. -/
def records (m : Moment σ) (n : Nat) : List (Look α) :=
  (List.range n).map fun k => w.record (w.next^[k] m)

/-- The end of a watch that stops at the look `n`. -/
inductive Stopped (m : Moment σ) (last : Option γ) (n : Nat) : End σ α γ β → Prop
  | exhausted {seen : Option γ} (hover : w.limit ≤ (w.next^[n] m).elapsed)
      (hseen : w.Seen m last n seen) :
      Stopped m last n
        ⟨.expired seen, (w.next^[n] m).state, (w.next^[n] m).elapsed, w.records m n⟩
  | late {seen : Option γ} (hbegun : (w.next^[n] m).elapsed < w.limit)
      (hlate : w.limit - (w.next^[n] m).elapsed < (w.answer (w.next^[n] m)).delay)
      (hseen : w.Seen m last n seen) :
      Stopped m last n
        ⟨.expired seen, (w.answer (w.next^[n] m)).abandoned, w.limit, w.records m n
          ++ [⟨(w.next^[n] m).elapsed, w.limit - (w.next^[n] m).elapsed, w.limit, none⟩]⟩
  | settled {value : α} {outcome : β} (hanswers : w.Answers m n value)
      (hjudge : w.judge value = .settled outcome) :
      Stopped m last n
        ⟨.settled outcome, (w.answer (w.next^[n] m)).next,
          (w.next^[n] m).elapsed + (w.answer (w.next^[n] m)).delay, w.records m (n + 1)⟩

variable {w} {n k : Nat}

theorem records_succ (m : Moment σ) (n : Nat) :
    w.records m (n + 1) = w.record m :: w.records (w.next m) n := by
  simp [records, List.range_succ_eq_map, Function.comp_def]

theorem Passed.cons {seen : γ} (hfirst : w.Passes m 0 seen) (h : w.Passed (w.next m) n) :
    w.Passed m (n + 1) := by
  intro k hk
  cases k with
  | zero => exact ⟨seen, hfirst⟩
  | succ k => exact h k (Nat.lt_of_succ_lt_succ hk)

theorem Seen.cons {first : γ} {seen : Option γ} (hfirst : w.Passes m 0 first)
    (h : w.Seen (w.next m) (some first) n seen) : w.Seen m last (n + 1) seen := by
  cases n with
  | zero => exact ⟨first, hfirst, h⟩
  | succ n => exact h

/-- A course stops at the first look that does not mean more waiting. -/
theorem Course.stopped (h : w.Course m last e) : ∃ n, w.Passed m n ∧ w.Stopped m last n e := by
  induction h with
  | exhausted hover => exact ⟨0, nofun, .exhausted hover rfl⟩
  | late hbegun hlate => exact ⟨0, nofun, .late hbegun hlate rfl⟩
  | settled hintime hjudge => exact ⟨0, nofun, .settled ⟨hintime, rfl⟩ hjudge⟩
  | @pending m last seen e hintime hjudge _ ih =>
    have hfirst : w.Passes m 0 seen := ⟨_, ⟨hintime, rfl⟩, hjudge⟩
    obtain ⟨n, hpassed, hstopped⟩ := ih
    refine ⟨n + 1, hpassed.cons hfirst, ?_⟩
    cases hstopped with
    | exhausted hover hseen =>
      rw [← records_succ]
      exact .exhausted hover (hseen.cons hfirst)
    | late hbegun hlate hseen =>
      rw [← List.cons_append, ← records_succ]
      exact .late hbegun hlate (hseen.cons hfirst)
    | settled hanswers hjudge =>
      rw [← records_succ]
      exact .settled hanswers hjudge

theorem Answers.value_unique {value value' : α} (h : w.Answers m n value)
    (h' : w.Answers m n value') : value = value' :=
  h.2.symm.trans h'.2

theorem Stopped.not_passes {seen : γ} (h : w.Stopped m last n e) : ¬ w.Passes m n seen := by
  rintro ⟨value, hanswers, hjudge⟩
  cases h with
  | exhausted hover _ => exact absurd hanswers.1.1 (Nat.not_lt.mpr hover)
  | late _ hlate _ => exact absurd hanswers.1.2 (Nat.not_le.mpr hlate)
  | settled hanswers' hjudge' =>
    rw [hanswers.value_unique hanswers', hjudge'] at hjudge
    cases hjudge

/-- No watch stops at two looks. -/
theorem Passed.le_of_not_passes (h : w.Passed m n) (hk : ¬ ∃ seen, w.Passes m k seen) : n ≤ k :=
  Nat.le_of_not_lt fun hlt => hk (h k hlt)

/-- A look that is in time comes after looks that are. -/
theorem InTime.of_next (h : w.InTime (w.next m)) : w.InTime m := by
  obtain ⟨hbegun, -⟩ := h
  have hover : m.elapsed + (w.answer m).delay < w.limit :=
    Nat.lt_of_le_of_lt (Nat.le_add_right _ _) hbegun
  exact ⟨Nat.lt_of_le_of_lt (Nat.le_add_right _ _) hover,
    Nat.le_sub_of_add_le' (Nat.le_of_lt hover)⟩

theorem InTime.of_le (h : w.InTime (w.next^[n] m)) (hle : k ≤ n) : w.InTime (w.next^[k] m) := by
  induction hle with
  | refl => exact h
  | step _ ih =>
    rw [Function.iterate_succ_apply'] at h
    exact ih h.of_next

/-- A watch is over with the look at a moment, or waits for another one. -/
theorem exists_course_or_pending (m : Moment σ) (last : Option γ) :
    (∃ e, w.Course m last e)
      ∨ w.InTime m ∧ ∃ seen, w.judge (w.answer m).value = .pending seen := by
  by_cases hover : w.limit ≤ m.elapsed
  · exact .inl ⟨_, .exhausted hover⟩
  have hbegun := Nat.lt_of_not_le hover
  by_cases hlate : w.limit - m.elapsed < (w.answer m).delay
  · exact .inl ⟨_, .late hbegun hlate⟩
  have hintime : w.InTime m := ⟨hbegun, Nat.le_of_not_lt hlate⟩
  cases hjudge : w.judge (w.answer m).value with
  | settled outcome => exact .inl ⟨_, .settled hintime hjudge⟩
  | pending seen => exact .inr ⟨hintime, seen, rfl⟩

/-- Where the looks up to one that does not mean more waiting do, there is a course. -/
theorem Passed.exists_course (h : w.Passed m n) (hn : ¬ ∃ seen, w.Passes m n seen) :
    ∃ e, w.Course m last e := by
  induction n generalizing m last with
  | zero =>
    rcases exists_course_or_pending m last with hcourse | ⟨hintime, seen, hjudge⟩
    · exact hcourse
    · exact absurd ⟨seen, _, ⟨hintime, rfl⟩, hjudge⟩ hn
  | succ n ih =>
    obtain ⟨seen, value, ⟨hintime, rfl⟩, hjudge⟩ := h 0 (Nat.zero_lt_succ n)
    have hrest : w.Passed (w.next m) n := fun k hk => h (k + 1) (Nat.succ_lt_succ hk)
    obtain ⟨e, hcourse⟩ : ∃ e, w.Course (w.next m) (some seen) e := ih hrest hn
    exact ⟨_, .pending hintime hjudge hcourse⟩

end Watch

end Provisioning
