import Provisioning.Proofs.Lifecycle.Calls
import Provisioning.Proofs.Watch.Timing

/-!
Deletions, whatever the plane answers. A deletion asks for one, and then reads the object until it
is said not to be there. `Fades` tells how the reads come out, with one case for each way that the
watch goes on; `Warranted` is what the calls of a deletion say of its result.
-/

namespace Provisioning

variable {σ Obj : Type}

/-! ### Answers -/

/-- The error that a call was answered with, if it was answered with one. -/
def Call.error? : Call Obj → Option ClientError
  | .get _ (some (.error e)) => some e
  | .put _ _ (.error e) => some e
  | .delete _ (.error e) => some e
  | _ => none

/-- The object that a read was answered with, if it was answered with one. -/
def Call.found? : Call Obj → Option Obj
  | .get _ (some (.ok object)) => some object
  | _ => none

/-- The error that the last of some calls was answered with, if it was answered with one. -/
def lastError? (calls : List (Call Obj)) : Option ClientError := calls.getLast?.bind Call.error?

/-- The object that was last read by some calls, if any was. -/
def lastFound? (calls : List (Call Obj)) : Option Obj := (calls.filterMap Call.found?).getLast?

theorem lastError?_cons {c : Call Obj} (h : c.error? = none) (calls : List (Call Obj)) :
    lastError? (c :: calls) = lastError? calls := by
  unfold lastError?
  rw [List.getLast?_cons]
  cases calls.getLast? with
  | none => exact h
  | some last => rfl

theorem error?_of_mem_dropLast_cons {c : Call Obj} {calls : List (Call Obj)} (h : c.error? = none)
    (hcalls : ∀ d ∈ calls.dropLast, d.error? = none) :
    ∀ d ∈ (c :: calls).dropLast, d.error? = none := by
  cases calls with
  | nil => exact List.forall_mem_nil _
  | cons d rest => exact List.forall_mem_cons.mpr ⟨h, hcalls⟩

namespace Lifecycle

variable {Doc : Type} [Managed Obj]

/-! ### What the calls of a deletion say -/

/-- What the calls of a deletion say of its result. -/
structure Warranted (l : Lifecycle σ Doc Obj) (key : NaturalKey) (calls : List (Call Obj))
    (r : Except Failure Unit) : Prop where
  /-- An error ends a deletion, be it only that there is no such object. -/
  ended_by_error : ∀ c ∈ calls.dropLast, c.error? = none
  /-- The deletion succeeds if the last answer is that there is no such object, and only then. -/
  done_iff : r = .ok () ↔ ∃ e, lastError? calls = some e ∧ e.isNotFound = true
  /-- Any other error is what the deletion fails with. -/
  remote_iff : ∀ e, (∃ task, r = .error (.remote task key e))
    ↔ lastError? calls = some e ∧ e.isNotFound = false
  /-- Without an error, its time is up, and it tells the state of the object that was last read. -/
  timedOut_iff : ∀ last, r = .error (.timedOut key .deleted l.timeouts.delete last)
    ↔ lastError? calls = none ∧ last = (lastFound? calls).bind Managed.state

/-- What a deletion comes to when its reads have come out. -/
def fadedResult (l : Lifecycle σ Doc Obj) (key : NaturalKey) :
    Watched (Option State) (Except ClientError Unit) → Except Failure Unit
  | .settled (.ok ()) => .ok ()
  | .settled (.error e) => .error (.remote .awaitDeletion key e)
  | .expired last => .error (.timedOut key .deleted l.timeouts.delete last.join)

section Warranted

variable {l : Lifecycle σ Doc Obj} {key : NaturalKey} {calls : List (Call Obj)} {e : ClientError}

theorem Warranted.of_missing (hpatient : ∀ c ∈ calls.dropLast, c.error? = none)
    (herror : lastError? calls = some e) (hmissing : e.isNotFound = true) :
    l.Warranted key calls (.ok ()) where
  ended_by_error := hpatient
  done_iff := iff_of_true rfl ⟨e, herror, hmissing⟩
  remote_iff e' := by
    refine iff_of_false nofun ?_
    rintro ⟨herror', hother⟩
    cases herror.symm.trans herror'
    cases hmissing.symm.trans hother
  timedOut_iff last := by simp [herror]

theorem Warranted.of_other {task : Task} (hpatient : ∀ c ∈ calls.dropLast, c.error? = none)
    (herror : lastError? calls = some e) (hother : e.isNotFound = false) :
    l.Warranted key calls (.error (.remote task key e)) where
  ended_by_error := hpatient
  done_iff := by simp [herror, hother]
  remote_iff e' := by
    constructor
    · rintro ⟨_, ⟨⟩⟩
      exact ⟨herror, hother⟩
    · rintro ⟨herror', -⟩
      cases herror.symm.trans herror'
      exact ⟨task, rfl⟩
  timedOut_iff last := by simp [herror]

theorem Warranted.of_none (hpatient : ∀ c ∈ calls.dropLast, c.error? = none)
    (hnone : lastError? calls = none) :
    l.Warranted key calls (.error (.timedOut key .deleted l.timeouts.delete
      ((lastFound? calls).bind Managed.state))) where
  ended_by_error := hpatient
  done_iff := by simp [hnone]
  remote_iff e' := by simp [hnone]
  timedOut_iff last := by simp [hnone, eq_comm]

end Warranted

/-! ### The reads of a deletion -/

/-- How the reads that wait for an object to go away come out, where `last` was seen before. -/
inductive Fades (key : NaturalKey) : Option (Option State) → List (Call Obj) →
    Watched (Option State) (Except ClientError Unit) → Prop
  /-- The time is up. -/
  | exhausted {last : Option (Option State)} : Fades key last [] (.expired last)
  /-- The time is up before there is an answer. -/
  | late {last : Option (Option State)} : Fades key last [.get key none] (.expired last)
  | settled {last : Option (Option State)} (e : ClientError) :
      Fades key last [.get key (some (.error e))]
        (.settled (if e.isNotFound then .ok () else .error e))
  | found {last : Option (Option State)} {object : Obj} {calls : List (Call Obj)}
      {watched : Watched (Option State) (Except ClientError Unit)}
      (hrest : Fades key (some (Managed.state object)) calls watched) :
      Fades key last (.get key (some (.ok object)) :: calls) watched

namespace Fades

variable {key : NaturalKey} {last : Option (Option State)} {calls : List (Call Obj)}
  {watched : Watched (Option State) (Except ClientError Unit)}

theorem reads (h : Fades key last calls watched) : ∀ c ∈ calls, ∃ answer, c = .get key answer := by
  induction h with
  | exhausted => exact List.forall_mem_nil _
  | late => exact List.forall_mem_singleton.mpr ⟨_, rfl⟩
  | settled e => exact List.forall_mem_singleton.mpr ⟨_, rfl⟩
  | found _ ih => exact List.forall_mem_cons.mpr ⟨⟨_, rfl⟩, ih⟩

/-- No read but the last one is answered with an error. -/
theorem patient (h : Fades key last calls watched) : ∀ c ∈ calls.dropLast, c.error? = none := by
  induction h with
  | exhausted => exact List.forall_mem_nil _
  | late => exact List.forall_mem_nil _
  | settled e => exact List.forall_mem_nil _
  | found _ ih => exact error?_of_mem_dropLast_cons rfl ih

/-- The reads come out as the last of them is answered: with an error, which settles it, or with
none, and then the state of the object that was last read is known. -/
theorem watched_eq (h : Fades key last calls watched) :
    watched = match lastError? calls with
      | some e => .settled (if e.isNotFound then .ok () else .error e)
      | none => .expired (((lastFound? calls).map Managed.state).or last) := by
  induction h with
  | exhausted => rfl
  | late => rfl
  | settled e => rfl
  | @found last object calls watched _ ih =>
    rw [ih, lastError?_cons rfl]
    cases lastError? calls with
    | some e => rfl
    | none =>
      simp only [lastFound?, List.filterMap_cons, Call.found?, List.getLast?_cons]
      cases (calls.filterMap Call.found?).getLast? with
      | none => rfl
      | some object => rfl

end Fades

variable {l : Lifecycle σ Doc Obj} {key : NaturalKey} {id : String} {w : World σ Obj}

/-- A deletion that is accepted and then reads is warranted by how the reads come out. -/
theorem Fades.warranted {calls : List (Call Obj)}
    {watched : Watched (Option State) (Except ClientError Unit)}
    (h : Fades key none calls watched) :
    l.Warranted key (.delete key (.ok ()) :: calls) (l.fadedResult key watched) := by
  have hpatient := error?_of_mem_dropLast_cons (c := .delete key (.ok ())) rfl h.patient
  have herror : lastError? (.delete key (.ok ()) :: calls) = lastError? calls :=
    lastError?_cons rfl calls
  rw [h.watched_eq]
  cases hlast : lastError? calls with
  | none =>
    have hseen : (((lastFound? calls).map Managed.state).or none).join
        = (lastFound? calls).bind Managed.state := by
      cases lastFound? calls <;> rfl
    simp only [fadedResult, hseen]
    exact .of_none hpatient (herror.trans hlast)
  | some e =>
    cases hmissing : e.isNotFound with
    | true =>
      simp only [hmissing, if_true]
      exact .of_missing hpatient (herror.trans hlast) hmissing
    | false =>
      simp only [hmissing]
      exact .of_other hpatient (herror.trans hlast) hmissing

/-! ### The watch of a deletion -/

theorem judgeDeletion_eq_pending_iff {answer : Except ClientError Obj} {seen : Option State} :
    judgeDeletion answer = .pending seen
      ↔ ∃ object, answer = .ok object ∧ Managed.state object = seen := by
  cases answer with
  | error e => simp [judgeDeletion]
  | ok object => simp [judgeDeletion]

theorem judgeDeletion_eq_settled_iff {answer : Except ClientError Obj}
    {outcome : Except ClientError Unit} :
    judgeDeletion answer = .settled outcome
      ↔ ∃ e, answer = .error e ∧ (if e.isNotFound then .ok () else .error e) = outcome := by
  cases answer with
  | error e => simp [judgeDeletion]
  | ok object => simp [judgeDeletion]

/-- A read of the watch that is waited for is a call like any other. -/
theorem calls_next (m : Moment (World σ Obj)) :
    ((l.deletionWatch key).answer m).next.calls
      = m.state.calls ++ [.get key (some ((l.deletionWatch key).answer m).value)] :=
  World.calls_append_call _ _ _ _

/-- The course of the watch on an object is one of the ways in which its reads come out. -/
theorem fades_of_course {m : Moment (World σ Obj)} {last : Option (Option State)}
    {e : Watch.End (World σ Obj) (Except ClientError Obj) (Option State)
      (Except ClientError Unit)} (h : (l.deletionWatch key).Course m last e) :
    ∃ calls, e.state.calls = m.state.calls ++ calls ∧ Fades key last calls e.result := by
  induction h with
  | exhausted _ => exact ⟨[], (List.append_nil _).symm, .exhausted⟩
  | late _ _ => exact ⟨_, World.calls_append_call _ _ _ _, .late⟩
  | settled _ hjudge =>
    obtain ⟨e, hanswer, rfl⟩ := judgeDeletion_eq_settled_iff.mp hjudge
    refine ⟨_, calls_next _, ?_⟩
    rw [hanswer]
    exact .settled e
  | pending _ hjudge _ ih =>
    obtain ⟨object, hanswer, rfl⟩ := judgeDeletion_eq_pending_iff.mp hjudge
    obtain ⟨calls, hcalls, hfades⟩ := ih
    refine ⟨.get key (some (.ok object)) :: calls, ?_, .found hfades⟩
    rw [hcalls, Watch.next, calls_next, hanswer, List.append_assoc]
    rfl

/-! ### The run -/

variable (l) in
/-- The world in which a deletion has its answer. -/
def askedWorld (id : String) (key : NaturalKey) (w : World σ Obj) : World σ Obj :=
  (w.noted (.deleting id)).called (.delete key (l.client.delete key w.plane).value)
    (l.client.delete key w.plane)

theorem keyOf_of_parse {resource : ResourceId} (hparse : ResourceId.parse id = .ok resource)
    (htype : resource.isType (Managed.type Obj) = true) :
    keyOf Obj id = .ok resource.naturalKey := by
  simp only [keyOf, hparse, htype, if_true]

theorem delete_of_keyOf_error {failure : Failure} (hkey : keyOf Obj id = .error failure) :
    l.delete id w = .error (.failed failure) w :=
  run_bind_of_error (run_parseId_of_error hkey)

theorem delete_of_keyOf (hkey : keyOf Obj id = .ok key) :
    l.delete id w = (match (l.client.delete key w.plane).value with
      | .error e =>
        if e.isNotFound then note (.alreadyDeleted id) else fail (.remote .delete key e)
      | .ok () => do
        l.awaitDeletion key
        note (.deleted id) : Operation σ Obj Unit) (l.askedWorld id key w) := by
  have hasked : call (l.client.delete key) (fun answer => .delete key answer)
      (w.noted (.deleting id))
      = .ok (l.client.delete key w.plane).value (l.askedWorld id key w) := rfl
  unfold delete
  rw [run_bind_of_ok (run_parseId hkey), run_note_bind]
  exact run_bind_of_ok hasked

theorem awaitDeletion_of_start
    {e : Watch.End (World σ Obj) (Except ClientError Obj) (Option State)
      (Except ClientError Unit)}
    (h : (l.deletionWatch key).start w.clock l.patience w = .ok e) :
    l.awaitDeletion key w
      = ended (l.fadedResult key e.result) { e.state with clock := w.clock.after e.elapsed } := by
  unfold awaitDeletion
  rw [run_bind_of_ok (keep_of_start h)]
  match e.result with
  | .settled (.ok ()) => rfl
  | .settled (.error _) => rfl
  | .expired _ => rfl

/-- Where there is no such object, a deletion is done. -/
theorem delete_of_missing {e : ClientError} (hkey : keyOf Obj id = .ok key)
    (hrefused : (l.client.delete key w.plane).value = .error e) (hmissing : e.isNotFound = true) :
    l.delete id w = .ok () ((l.askedWorld id key w).noted (.alreadyDeleted id)) := by
  rw [delete_of_keyOf hkey, hrefused]
  simp only [hmissing, if_true]
  rfl

/-- A deletion that is refused, if only because there is no such object, is over. -/
theorem delete_of_refused {e : ClientError} (hkey : keyOf Obj id = .ok key)
    (hrefused : (l.client.delete key w.plane).value = .error e) :
    ∃ r after, l.delete id w = ended r after
      ∧ after.calls = w.calls ++ [.delete key (.error e)]
      ∧ l.Warranted key [.delete key (.error e)] r := by
  have hcalls : (l.askedWorld id key w).calls = w.calls ++ [.delete key (.error e)] := by
    simp [askedWorld, hrefused]
  cases hmissing : e.isNotFound with
  | true =>
    refine ⟨.ok (), _, delete_of_missing hkey hrefused hmissing, ?_, ?_⟩
    · rw [World.calls_noted, hcalls]
    · exact .of_missing (List.forall_mem_nil _) rfl hmissing
  | false =>
    refine ⟨.error (.remote .delete key e), l.askedWorld id key w, ?_, hcalls, ?_⟩
    · rw [delete_of_keyOf hkey, hrefused]
      simp only [hmissing]
      rfl
    · exact .of_other (List.forall_mem_nil _) rfl hmissing

/-- A deletion that is accepted ends as its watch does. -/
theorem delete_of_start (hkey : keyOf Obj id = .ok key)
    (haccepted : (l.client.delete key w.plane).value = .ok ())
    {e : Watch.End (World σ Obj) (Except ClientError Obj) (Option State)
      (Except ClientError Unit)}
    (h : (l.deletionWatch key).start (l.askedWorld id key w).clock l.patience
      (l.askedWorld id key w) = .ok e) :
    ∃ after, l.delete id w = ended (l.fadedResult key e.result) after
      ∧ after.plane = e.state.plane ∧ after.calls = e.state.calls
      ∧ after.clock = (l.askedWorld id key w).clock.after e.elapsed := by
  rw [delete_of_keyOf hkey, haccepted]
  have hawait := awaitDeletion_of_start h
  cases hresult : l.fadedResult key e.result with
  | ok _ =>
    rw [hresult] at hawait
    refine ⟨World.noted { e.state with clock := (l.askedWorld id key w).clock.after e.elapsed }
      (.deleted id), ?_, rfl, World.calls_noted _ _, rfl⟩
    exact run_bind_of_ok hawait
  | error failure =>
    rw [hresult] at hawait
    exact ⟨{ e.state with clock := (l.askedWorld id key w).clock.after e.elapsed },
      run_bind_of_error hawait, rfl, rfl, rfl⟩

/-- A deletion that is accepted has no result where its watch has no end. -/
theorem delete_of_endless (hkey : keyOf Obj id = .ok key)
    (haccepted : (l.client.delete key w.plane).value = .ok ()) {why : Endless}
    (h : (l.deletionWatch key).start (l.askedWorld id key w).clock l.patience
      (l.askedWorld id key w) = .error why) :
    l.delete id w = .error (.endless why) (l.askedWorld id key w) := by
  rw [delete_of_keyOf hkey, haccepted]
  exact run_bind_of_error (run_bind_of_error (keep_of_endless h))

/-- A deletion that is accepted breaks off, without a read, if the clock cannot hold the deadline of
its watch. -/
theorem delete_of_not_held (hkey : keyOf Obj id = .ok key)
    (haccepted : (l.client.delete key w.plane).value = .ok ())
    (hheld : ¬ (l.askedWorld id key w).clock.Holds l.timeouts.delete) :
    l.delete id w = .error (.endless .beyondClock) (l.askedWorld id key w) :=
  delete_of_endless hkey haccepted (Watch.start_of_not_holds hheld)

/-- The reads of a deletion are over with the first one if that says in time that there is no such
object. -/
theorem run_deletionWatch_of_missing {e : ClientError} (hlimit : 0 < l.timeouts.delete)
    (hpatience : 0 < l.patience) (hintime : (l.client.get key w.plane).delay ≤ l.timeouts.delete)
    (hanswer : (l.client.get key w.plane).value = .error e) (hmissing : e.isNotFound = true) :
    ∃ done, (l.deletionWatch key).run l.patience w = some done ∧ done.result = .settled (.ok ())
      ∧ done.state.plane = (l.client.get key w.plane).next := by
  have hjudge : judgeDeletion (l.client.get key w.plane).value = .settled (.ok ()) :=
    judgeDeletion_eq_settled_iff.mpr ⟨e, hanswer, by simp only [hmissing, if_true]⟩
  exact ⟨_, Watch.run_eq_some_iff.mpr ⟨.settled ⟨hlimit, hintime⟩ hjudge, hpatience⟩, rfl, rfl⟩

/-- The reads of a deletion with pauses are an end of themselves: there is a read for each
millisecond of its limit at most. -/
theorem exists_run_deletionWatch (hpoll : 0 < l.timeouts.poll)
    (hpatience : l.timeouts.delete ≤ l.patience) (key : NaturalKey) (w : World σ Obj) :
    ∃ e, (l.deletionWatch key).run l.patience w = some e := by
  have hadvances : (l.deletionWatch key).Advances :=
    Watch.advances_of_pause fun _ _ hbefore _ => Nat.lt_min.mpr ⟨hpoll, hbefore⟩
  obtain ⟨e, hcourse⟩ := hadvances.exists_course ⟨0, w⟩ none
  have hlength := hcourse.length_le hadvances
  exact ⟨e, Watch.run_eq_some_iff.mpr ⟨hcourse, Nat.le_trans hlength hpatience⟩⟩

end Lifecycle

end Provisioning
