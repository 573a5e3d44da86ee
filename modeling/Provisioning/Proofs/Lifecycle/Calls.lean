import Provisioning.Proofs.Lifecycle.Ends
import Provisioning.Proofs.Wait

/-!
The calls that operations make, whatever the plane answers. `Adds` says something of each call
between two worlds, and `Makes` names those that ask for a change, in their order. The first lemmas
on operations are here: what reads and waits come to by the answers of the plane alone.
-/

namespace Provisioning

variable {σ Obj : Type}

/-! ### Calls -/

/-- The key of the object that a call is about. -/
def Call.key : Call Obj → NaturalKey
  | .get key _ => key
  | .put key _ _ => key
  | .delete key _ => key

/-- The object that a call wrote under a key, if the plane accepted it. -/
def Call.accepted? (key : NaturalKey) : Call Obj → Option Obj
  | .put k object (.ok _) => if k = key then some object else none
  | _ => none

/-- The calls that were made in a world so far. -/
def World.calls (w : World σ Obj) : List (Call Obj) := journalCalls w.journal

/-- The object that was last written under a key, if any was accepted. -/
def World.lastAccepted (w : World σ Obj) (key : NaturalKey) : Option Obj :=
  (w.calls.filterMap (Call.accepted? key)).getLast?

/-- The notes that were made in a world so far. -/
def World.notes (w : World σ Obj) : List Note := journalNotes w.journal

/-- The world that one comes to when some things are noted. -/
def World.notedAll (w : World σ Obj) (notes : List Note) : World σ Obj :=
  { w with journal := w.journal ++ notes.map .note }

/-- The world that one comes to when something is noted. -/
def World.noted (w : World σ Obj) (n : Note) : World σ Obj := w.notedAll [n]

@[simp] theorem World.calls_notedAll (w : World σ Obj) (notes : List Note) :
    (w.notedAll notes).calls = w.calls := by
  simp [calls, notedAll, journalCalls, List.filterMap_map, Function.comp_def, Entry.call?]

@[simp] theorem World.notes_notedAll (w : World σ Obj) (notes : List Note) :
    (w.notedAll notes).notes = w.notes ++ notes := by
  simp [World.notes, notedAll, journalNotes, List.filterMap_map, Function.comp_def, Entry.note?]

@[simp] theorem World.lastAccepted_notedAll (w : World σ Obj) (notes : List Note)
    (key : NaturalKey) : (w.notedAll notes).lastAccepted key = w.lastAccepted key := by
  simp [lastAccepted]

@[simp] theorem World.plane_noted (w : World σ Obj) (n : Note) : (w.noted n).plane = w.plane := rfl

@[simp] theorem World.calls_noted (w : World σ Obj) (n : Note) : (w.noted n).calls = w.calls :=
  w.calls_notedAll [n]

@[simp] theorem World.lastAccepted_noted (w : World σ Obj) (n : Note) (key : NaturalKey) :
    (w.noted n).lastAccepted key = w.lastAccepted key := w.lastAccepted_notedAll [n] key

theorem World.calls_append_call (plane : σ) (clock : Clock) (journal : List (Entry Obj))
    (c : Call Obj) :
    World.calls { plane, clock, journal := journal ++ [.call c] }
      = journalCalls journal ++ [c] := by
  simp [calls, journalCalls, Entry.call?]

/-- The object of a write that was just accepted is the last one. -/
theorem World.lastAccepted_append_put (plane : σ) (clock : Clock) (journal : List (Entry Obj))
    (key : NaturalKey) (object stored : Obj) :
    World.lastAccepted
      { plane, clock, journal := journal ++ [.call (.put key object (.ok stored))] } key
      = some object := by
  rw [lastAccepted, calls_append_call, List.filterMap_append]
  simp [Call.accepted?]

/-- Whether the calls made between two worlds all have a property. -/
def Adds (p : Call Obj → Prop) (w after : World σ Obj) : Prop :=
  ∃ calls, after.calls = w.calls ++ calls ∧ ∀ c ∈ calls, p c

namespace Adds

variable {p q : Call Obj → Prop} {u v w : World σ Obj}

theorem of_calls_eq (h : v.calls = u.calls) : Adds p u v :=
  ⟨[], by simp [h], by simp⟩

theorem single {c : Call Obj} (h : v.calls = u.calls ++ [c]) (hc : p c) : Adds p u v :=
  ⟨[c], h, by simpa using hc⟩

theorem trans (huv : Adds p u v) (hvw : Adds p v w) : Adds p u w := by
  obtain ⟨first, hfirst, hp⟩ := huv
  obtain ⟨second, hsecond, hq⟩ := hvw
  refine ⟨first ++ second, by rw [hsecond, hfirst, List.append_assoc], ?_⟩
  intro c hc
  rcases List.mem_append.mp hc with hc | hc
  · exact hp c hc
  · exact hq c hc

theorem mono (h : Adds p u v) (hpq : ∀ c, p c → q c) : Adds q u v := by
  obtain ⟨calls, hcalls, hp⟩ := h
  exact ⟨calls, hcalls, fun c hc => hpq c (hp c hc)⟩

/-- Calls that ask for no change write nothing. -/
theorem lastAccepted_eq (h : Adds (fun c => c.mutates = false) u v) (key : NaturalKey) :
    v.lastAccepted key = u.lastAccepted key := by
  obtain ⟨calls, hcalls, hreads⟩ := h
  have hnone : calls.filterMap (Call.accepted? key) = [] := by
    refine List.filterMap_eq_nil_iff.mpr ?_
    intro c hc
    have hread := hreads c hc
    cases c with
    | get _ _ => rfl
    | put _ _ _ => cases hread
    | delete _ _ => cases hread
  rw [World.lastAccepted, hcalls, List.filterMap_append, hnone, List.append_nil]
  rfl

end Adds

/-- The changes that were asked for between two worlds, in their order. -/
def Makes (changes : List (Call Obj)) (w after : World σ Obj) : Prop :=
  ∃ calls, after.calls = w.calls ++ calls ∧ calls.filter Call.mutates = changes

/-- Whether the calls made between two worlds are all reads of the object under a key. -/
def OnlyReads (key : NaturalKey) (w after : World σ Obj) : Prop :=
  Adds (fun c => c.key = key ∧ c.mutates = false) w after

/-- The world that one comes to by a call. -/
def World.called {α : Type} (w : World σ Obj) (c : Call Obj) (a : Answer σ α) : World σ Obj :=
  ⟨a.next, w.clock.after a.delay, w.journal ++ [.call c]⟩

@[simp] theorem World.calls_called {α : Type} (w : World σ Obj) (c : Call Obj) (a : Answer σ α) :
    (w.called c a).calls = w.calls ++ [c] :=
  World.calls_append_call a.next (w.clock.after a.delay) w.journal c

@[simp] theorem World.notes_called {α : Type} (w : World σ Obj) (c : Call Obj) (a : Answer σ α) :
    (w.called c a).notes = w.notes := by
  simp [notes, called, journalNotes, Entry.note?]

namespace Makes

variable {changes more : List (Call Obj)} {u v w : World σ Obj}

/-- No change was asked for exactly if there were only reads. -/
theorem nil_iff : Makes [] u v ↔ Adds (fun c => c.mutates = false) u v := by
  unfold Makes Adds
  simp [List.filter_eq_nil_iff]

theorem refl (w : World σ Obj) : Makes [] w w := nil_iff.mpr (.of_calls_eq rfl)

theorem trans (huv : Makes changes u v) (hvw : Makes more v w) : Makes (changes ++ more) u w := by
  obtain ⟨first, hfirst, rfl⟩ := huv
  obtain ⟨second, hsecond, rfl⟩ := hvw
  exact ⟨first ++ second, by rw [hsecond, hfirst, List.append_assoc], List.filter_append _ _⟩

theorem notedAll (notes : List Note) (h : Makes changes u v) :
    Makes changes u (v.notedAll notes) := by
  simpa [Makes] using h

theorem noted (n : Note) (h : Makes changes u v) : Makes changes u (v.noted n) := h.notedAll [n]

/-- Reads in the end do not count. -/
theorem trans_reads (huv : Makes changes u v) (hvw : Makes [] v w) : Makes changes u w := by
  have h := huv.trans hvw
  rwa [List.append_nil] at h

theorem reads {key : NaturalKey} (huv : Makes changes u v) (hvw : OnlyReads key v w) :
    Makes changes u w :=
  huv.trans_reads (nil_iff.mpr (hvw.mono fun _ h => h.2))

/-- A call for a change comes last. -/
theorem called {α : Type} {c : Call Obj} {a : Answer σ α} (h : Makes changes u v)
    (hc : c.mutates = true) : Makes (changes ++ [c]) u (v.called c a) :=
  h.trans ⟨[c], World.calls_called v c a, by simp [hc]⟩

/-- What is true of reads and of the changes that were asked for is true of all calls. -/
theorem adds {p : Call Obj → Prop} (h : Makes changes u v) (hp : ∀ c ∈ changes, p c)
    (hreads : ∀ c : Call Obj, c.mutates = false → p c) : Adds p u v := by
  obtain ⟨calls, hcalls, rfl⟩ := h
  refine ⟨calls, hcalls, fun c hc => ?_⟩
  cases hmutates : c.mutates with
  | false => exact hreads c hmutates
  | true => exact hp c (List.mem_filter.mpr ⟨hc, hmutates⟩)

/-- What is not true of a change that was asked for is not true of all calls. -/
theorem not_adds {p : Call Obj → Prop} {c : Call Obj} (h : Makes changes u v) (hc : c ∈ changes)
    (hp : ¬ p c) : ¬ Adds p u v := by
  obtain ⟨calls, hcalls, rfl⟩ := h
  rintro ⟨calls', hcalls', hall⟩
  rw [hcalls, List.append_cancel_left_eq] at hcalls'
  subst hcalls'
  exact hp (hall c (List.mem_filter.mp hc).1)

end Makes

namespace OnlyReads

variable {key : NaturalKey} {u v w : World σ Obj}

theorem refl (key : NaturalKey) (w : World σ Obj) : OnlyReads key w w := .of_calls_eq rfl

theorem trans (huv : OnlyReads key u v) (hvw : OnlyReads key v w) : OnlyReads key u w :=
  Adds.trans huv hvw

theorem makes (h : OnlyReads key u v) : Makes [] u v :=
  Makes.nil_iff.mpr (h.mono fun _ h => h.2)

theorem called {α : Type} (w : World σ Obj) (answer : Option (Except ClientError Obj))
    (a : Answer σ α) : OnlyReads key w (w.called (.get key answer) a) :=
  .single (World.calls_called w _ a) ⟨rfl, rfl⟩

end OnlyReads

/-- Whether an operation stopped with the word that nothing was written. -/
def Stop.IsClear : Stop → Prop
  | .failed failure => failure.residue = .clear
  | .endless _ => False

namespace Lifecycle

variable {Doc α β : Type} {l : Lifecycle σ Doc Obj} {w after : World σ Obj}

/-! ### Runs -/

/-- The end of an operation that returns or fails. -/
def ended (r : Except Failure α) (after : World σ Obj) : EStateM.Result Stop (World σ Obj) α :=
  match r with
  | .ok a => .ok a after
  | .error failure => .error (.failed failure) after

theorem ended_inj {r r' : Except Failure α} {v v' : World σ Obj}
    (h : ended r v = ended r' v') : r = r' := by
  cases r <;> cases r' <;> cases h <;> rfl

theorem left_of_ended {x : Operation σ Obj α} {r : Except Failure α} (h : x w = ended r after) :
    left x w = after := by
  rw [left, h]
  cases r <;> rfl

theorem run_bind_of_ok {x : Operation σ Obj α} {next : α → Operation σ Obj β} {a : α}
    (h : x w = .ok a after) : (x >>= next) w = next a after := by
  change EStateM.bind x next w = next a after
  simp [EStateM.bind, h]

theorem run_bind_of_error {x : Operation σ Obj α} {next : α → Operation σ Obj β} {stop : Stop}
    (h : x w = .error stop after) : (x >>= next) w = .error stop after := by
  change EStateM.bind x next w = .error stop after
  simp [EStateM.bind, h]

theorem run_noteAll_bind {notes : List Note} {next : Unit → Operation σ Obj β} :
    (noteAll notes >>= next) w = next () (w.notedAll notes) := rfl

theorem run_note_bind {n : Note} {next : Unit → Operation σ Obj β} :
    (note n >>= next) w = next () (w.noted n) := rfl

theorem run_parseId [Managed Obj] {id : String} {key : NaturalKey}
    (hkey : keyOf Obj id = .ok key) :
    (parseId id : Operation σ Obj NaturalKey) w = .ok key w := by
  simp only [parseId, hkey]
  rfl

theorem run_parseId_of_error [Managed Obj] {id : String} {failure : Failure}
    (hkey : keyOf Obj id = .error failure) :
    (parseId id : Operation σ Obj NaturalKey) w = .error (.failed failure) w := by
  simp only [parseId, hkey]
  rfl

/-- A watch that has an end leaves the world later by the time that it took. -/
theorem keep_of_start {γ : Type} {watch : Watch (World σ Obj) α γ β}
    {e : Watch.End (World σ Obj) α γ β} (h : watch.start w.clock l.patience w = .ok e) :
    l.keep watch w = .ok e.result { e.state with clock := w.clock.after e.elapsed } := by
  unfold keep
  rw [h]

theorem keep_of_endless {γ : Type} {watch : Watch (World σ Obj) α γ β} {why : Endless}
    (h : watch.start w.clock l.patience w = .error why) :
    l.keep watch w = .error (.endless why) w := by
  unfold keep
  rw [h]

/-! ### Reads, writes and waits -/

/-- A write ends as the plane answers it, with what is noted before. -/
theorem ends_write [Managed Obj] {key : NaturalKey} {object : Obj}
    {done : Unit → World σ Obj → Prop} {stopped : Stop → World σ Obj → Prop}
    (hok : ∀ stored, (l.client.put key object w.plane).value = .ok stored →
      done () ((w.notedAll (l.writeNotes key object)).called (.put key object (.ok stored))
        (l.client.put key object w.plane)))
    (herror : ∀ e, (l.client.put key object w.plane).value = .error e →
      stopped (.failed (.remote .write key e))
        ((w.notedAll (l.writeNotes key object)).called (.put key object (.error e))
          (l.client.put key object w.plane))) :
    Ends (l.write key object) w done stopped := by
  unfold write
  refine ends_bind (ends_noteAll (ends_bind (ends_call ?_)))
  change Ends _ ((w.notedAll (l.writeNotes key object)).called _ _) done stopped
  cases hanswer : (l.client.put key object w.plane).value with
  | ok stored => exact ends_pure (hok stored hanswer)
  | error e => exact ends_fail (herror e hanswer)

/-- Reading an object is a read, and always has an answer. -/
theorem get_reads (key : NaturalKey) (w : World σ Obj) :
    Ends (l.get key) w (fun _ after => OnlyReads key w after) (fun _ _ => False) :=
  ends_call (OnlyReads.called w (some (l.client.get key w.plane).value) (l.client.get key w.plane))

/-- One look of a watch is a read. -/
theorem onlyReads_look (key : NaturalKey) (w : World σ Obj) :
    OnlyReads key w (l.look key w).next ∧ OnlyReads key w (l.look key w).abandoned :=
  ⟨.single (World.calls_append_call _ _ _ _) ⟨rfl, rfl⟩,
    .single (World.calls_append_call _ _ _ _) ⟨rfl, rfl⟩⟩

variable [Managed Obj]

variable (l) in
/-- One poll of the state of an object, as the plane answers it. An object without a state counts
as one that is done. -/
def poll (key : NaturalKey) : Millis → σ → Answer σ (Except ClientError State) := fun _ s =>
  (l.client.get key s).map fun answer =>
    answer.map fun object => (Managed.state object).getD .succeeded

/-- What the outcome of a wait makes of the operation that waits. -/
def awaited (key : NaturalKey) (change : StateChange) :
    Except ClientError Settled → Except Failure State
  | .error e => .error (.remote .poll key e)
  | .ok (.succeeded state) => .ok state
  | .ok (.failed state) => .error (.provisioningFailed key state change.expected)
  | .ok (.timedOut last) => .error (.timedOut key .provisioned change.limit last)

/-- A wait never fails with the word that nothing was written. -/
theorem residue_awaited {key : NaturalKey} {change : StateChange}
    {outcome : Except ClientError Settled} {failure : Failure}
    (h : awaited key change outcome = .error failure) : failure.residue ≠ .clear := by
  match outcome with
  | .error _ => cases h; exact nofun
  | .ok (.succeeded _) => cases h
  | .ok (.failed _) => cases h; exact nofun
  | .ok (.timedOut _) => cases h; exact nofun

/-- The polls of a wait come out as the answers of the plane do. -/
theorem comes_pollState {key : NaturalKey} {change : StateChange}
    {outcome : Except ClientError Settled} :
    change.Comes (fun _ => l.pollState key) w outcome ↔ change.Comes (l.poll key) w.plane outcome :=
  (StateChange.comes_of_part World.plane (fun _ _ => rfl) (fun _ _ => rfl) (fun _ _ => rfl)).symm

theorem await_of_start {key : NaturalKey} {change : StateChange}
    {e : Watch.End (World σ Obj) (Except ClientError State) State (Except ClientError Settled)}
    (h : (change.watch fun _ => l.pollState key).start w.clock l.patience w = .ok e) :
    l.await key change w = ended (awaited key change (StateChange.outcome e.result))
      { e.state with clock := w.clock.after e.elapsed } := by
  unfold await
  rw [run_bind_of_ok (keep_of_start h)]
  match StateChange.outcome e.result with
  | .error _ => rfl
  | .ok (.succeeded _) => rfl
  | .ok (.failed _) => rfl
  | .ok (.timedOut _) => rfl

theorem await_of_endless {key : NaturalKey} {change : StateChange} {why : Endless}
    (h : (change.watch fun _ => l.pollState key).start w.clock l.patience w = .error why) :
    l.await key change w = .error (.endless why) w :=
  run_bind_of_error (keep_of_endless h)

/-- A wait whose deadline the clock cannot hold breaks off before its first poll. -/
theorem await_of_not_holds {key : NaturalKey} {change : StateChange}
    (h : ¬ w.clock.Holds change.limit) :
    l.await key change w = .error (.endless .beyondClock) w :=
  await_of_endless (Watch.start_of_not_holds h)

/-- A wait that has an end only reads, and comes to what the polls say. -/
theorem await_comes (key : NaturalKey) (change : StateChange) (w : World σ Obj) :
    (∃ why, l.await key change w = .error (.endless why) w) ∨ ∃ outcome after,
      w.clock.Holds change.limit ∧ change.Comes (l.poll key) w.plane outcome
      ∧ OnlyReads key w after
      ∧ l.await key change w = ended (awaited key change outcome) after := by
  cases hstart : (change.watch fun _ => l.pollState key).start w.clock l.patience w with
  | error why => exact .inl ⟨why, await_of_endless hstart⟩
  | ok e =>
    obtain ⟨hholds, hrun⟩ := Watch.start_eq_ok_iff.mp hstart
    obtain ⟨hcourse, -⟩ := Watch.run_eq_some_iff.mp hrun
    have hreads : OnlyReads key w e.state :=
      hcourse.relates (OnlyReads.refl key) OnlyReads.trans fun _ v => onlyReads_look key v
    exact .inr ⟨_, { e.state with clock := w.clock.after e.elapsed }, hholds,
      comes_pollState.mp (StateChange.comes_of_course hcourse), hreads, await_of_start hstart⟩

/-- A wait whose deadline the clock can hold comes to what the polls say, given the patience. -/
theorem exists_await {key : NaturalKey} {change : StateChange}
    {outcome : Except ClientError Settled} (hholds : w.clock.Holds change.limit)
    (h : change.Comes (l.poll key) w.plane outcome) :
    ∃ patience after, ({ l with patience } : Lifecycle σ Doc Obj).await key change w
      = ended (awaited key change outcome) after := by
  have hcomes := comes_pollState.mpr h
  obtain ⟨e, hcourse⟩ := hcomes.exists_course
  have hrun := Watch.run_eq_some_iff.mpr ⟨hcourse, Nat.le_refl _⟩
  have hstart := Watch.start_of_run hholds hrun
  rw [← (StateChange.outcome_eq_iff hcourse).mpr hcomes]
  exact ⟨e.looks.length, _,
    await_of_start (l := ({ l with patience := e.looks.length } : Lifecycle σ Doc Obj)) hstart⟩

end Lifecycle

end Provisioning
