import Provisioning.Proofs.Plane.Frame

/-!
Operations that only read a simulated plane: single reads, waits, and the reading of an object as a
document. None of them does more than look, and what they tell is what the plane holds.
-/

namespace Provisioning.Lifecycle

variable {Doc Obj : Type} [Managed Obj] {l : Lifecycle (Store Obj) Doc Obj} {key : NaturalKey}
  {w : World (Store Obj) Obj}

/-- Whether an answer is the object that a world holds under a key, or says that there is none. -/
def Told (key : NaturalKey) (w : World (Store Obj) Obj) : Except ClientError Obj → Prop
  | .ok object => w.plane.objects key = some object
  | .error e => e.isNotFound = true ∧ w.plane.objects key = none

/-! ### Single reads -/

theorem moved_report (s : Store Obj) (object : Obj) : Moved object (s.report object) := by
  unfold Store.report
  cases s.script.line? with
  | none => exact Moved.refl object
  | some state => exact Moved.withState state object

/-- A read of the plane tells what it holds, and at most gives the object its next state. -/
theorem store_get (key : NaturalKey) (w : World (Store Obj) Obj) (clock : Clock)
    (entry : Option (Except ClientError Obj)) :
    Looked key w
      { plane := (w.plane.get key).2, clock, journal := w.journal ++ [.call (.get key entry)] }
    ∧ Told key
      { plane := (w.plane.get key).2, clock, journal := w.journal ++ [.call (.get key entry)] }
      (w.plane.get key).1 := by
  have hcalls := World.calls_append_call (w.plane.get key).2 clock w.journal (.get key entry)
  have hreads : Adds (fun c => c.key = key ∧ c.mutates = false) w
      { plane := (w.plane.get key).2, clock, journal := w.journal ++ [.call (.get key entry)] } :=
    .single hcalls ⟨rfl, rfl⟩
  cases hobject : w.plane.objects key with
  | none =>
    have hget := Store.get_of_absent hobject
    refine ⟨⟨⟨?_, ?_, hreads.mono fun _ h => h.1⟩, ?_, hreads.mono fun _ h => h.2⟩, ?_⟩
    · intro k _
      rw [hget]
    · rw [hget]
    · rw [hget, hobject]
      exact .none
    · rw [hget]
      exact ⟨rfl, hobject⟩
  | some object =>
    have hget := Store.get_of_present hobject
    refine ⟨⟨⟨?_, ?_, hreads.mono fun _ h => h.1⟩, ?_, hreads.mono fun _ h => h.2⟩, ?_⟩
    · intro k hk
      rw [hget]
      exact Store.assign_of_ne hk _ _
    · rw [hget]
    · rw [hget, hobject]
      change Option.Rel Moved (some object) (Store.assign _ key _ key)
      rw [Store.assign_self]
      exact .some (moved_report w.plane object)
    · rw [hget]
      exact Store.assign_self _ _ _

/-- What a wait leaves is what its looks leave. -/
theorem keep_ends [LawfulManaged Obj] {α γ β : Type} {watch : Watch (World (Store Obj) Obj) α γ β}
    (hlook : ∀ time v, Looked key v (watch.look time v).next
      ∧ Looked key v (watch.look time v).abandoned) :
    Ends (l.keep watch) w (fun _ after => Looked key w after)
      (fun stop after => ¬ stop.IsConflict ∧ Looked key w after) := by
  refine (ends_keep (Looked.refl key) Looked.trans Looked.at_clock hlook).mono (fun _ _ h => h) ?_
  rintro stop after ⟨⟨why, rfl⟩, rfl⟩
  exact ⟨id, Looked.refl key after⟩

section OnStore

variable (hclient : l.client = Store.client Obj)

include hclient

theorem get_ends (key : NaturalKey) (w : World (Store Obj) Obj) :
    Ends (l.get key) w (fun answer after => Looked key w after ∧ Told key after answer)
      fun _ _ => False := by
  unfold Lifecycle.get
  rw [hclient]
  exact ends_call (store_get key w _ _)

/-- One look of a watch does no more than a read. -/
theorem looked_look (key : NaturalKey) (w : World (Store Obj) Obj) :
    Looked key w (l.look key w).next ∧ Looked key w (l.look key w).abandoned := by
  unfold look
  rw [hclient]
  exact ⟨(store_get key w w.clock _).1, (store_get key w w.clock _).1⟩

/-! ### Waits -/

variable [LawfulManaged Obj]

theorem await_ends (key : NaturalKey) (change : StateChange) (w : World (Store Obj) Obj) :
    Ends (l.await key change) w (fun _ after => Looked key w after)
      (fun stop after => ¬ stop.IsConflict ∧ Looked key w after) := by
  unfold await
  refine (keep_ends fun _ v => looked_look hclient key v).bind (fun _ _ h => h) ?_
  intro watched after hlooked
  cases StateChange.outcome watched with
  | error e => exact ends_fail ⟨nofun, hlooked⟩
  | ok settled =>
    cases settled with
    | succeeded state => exact ends_pure hlooked
    | failed state => exact ends_fail ⟨nofun, hlooked⟩
    | timedOut last => exact ends_fail ⟨nofun, hlooked⟩

theorem awaitDeletion_ends (key : NaturalKey) (w : World (Store Obj) Obj) :
    Ends (l.awaitDeletion key) w (fun _ after => Looked key w after)
      (fun stop after => ¬ stop.IsConflict ∧ Looked key w after) := by
  unfold awaitDeletion
  refine (keep_ends fun _ v => looked_look hclient key v).bind (fun _ _ h => h) ?_
  intro watched after hlooked
  cases watched with
  | expired last => exact ends_fail ⟨nofun, hlooked⟩
  | settled outcome =>
    cases outcome with
    | error e => exact ends_fail ⟨nofun, hlooked⟩
    | ok _ => exact ends_pure hlooked

/-! ### Reading an object as a document -/

/-- What a world shows of the object under a key: nothing if there is none, and a document that is
read off it if there is one. -/
def Shown (l : Lifecycle (Store Obj) Doc Obj) (key : NaturalKey) (prior : Option Doc)
    (w : World (Store Obj) Obj) : Option Doc → Prop
  | none => w.plane.objects key = none
  | some document => ∃ object, w.plane.objects key = some object
      ∧ l.binding.flatten key object prior = .ok document

omit [LawfulManaged Obj] in
theorem read_ends (id : String) (prior : Option Doc) (w : World (Store Obj) Obj) :
    Ends (l.read id prior) w
      (fun found after => ∃ key, keyOf Obj id = .ok key ∧ Looked key w after
        ∧ Shown l key prior after found)
      (fun stop after => ¬ stop.IsConflict
        ∧ ∀ key, keyOf Obj id = .ok key → Looked key w after) := by
  unfold read
  refine ends_bind (ends_parseId ?_ ?_)
  · intro failure hfailure
    refine ⟨not_isConflict_of_keyOf hfailure, ?_⟩
    intro key hkey
    rw [hfailure] at hkey
    cases hkey
  · intro key hkey
    refine (get_ends hclient key w).bind (fun _ _ h => h.elim) ?_
    rintro answer after ⟨hafter, htold⟩
    cases answer with
    | error e =>
      obtain ⟨hmissing, habsent⟩ := htold
      simp only [hmissing, if_true]
      exact ends_bind (ends_note (ends_pure ⟨key, hkey, hafter.noted _, habsent⟩))
    | ok object =>
      dsimp only
      cases hflatten : l.binding.flatten key object prior with
      | error e => exact ends_fail ⟨nofun, forall_keyOf hkey hafter⟩
      | ok document => exact ends_pure ⟨key, hkey, hafter, object, htold, hflatten⟩

end OnStore

end Provisioning.Lifecycle
