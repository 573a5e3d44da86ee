import Provisioning.Plane.Rehearsal
import Provisioning.Proofs.Lifecycle.Deletion
import Provisioning.Proofs.Lifecycle.Residue

/-!
What a deletion takes for an absence. Nothing is called for an identifier that names no key;
otherwise there is one call for the deletion and then only reads under that key, and the result is
what these calls warrant: success by the last answer, that there is no such object, and by no other.
-/

namespace Provisioning.Lifecycle

/-- The world of an empty plane in rehearsal, with the cues for its reads and for its deletions. -/
def rehearsedWorld (Obj : Type) (getCues deleteCues : List (Cue Obj)) :
    World (Rehearsal Obj) Obj :=
  ⟨{ store := (emptyWorld Obj).plane, getCues, putCues := [], deleteCues, gets := 0 },
    .machine 0, []⟩

variable {σ Doc Obj : Type} [Managed Obj] {l : Lifecycle σ Doc Obj} {key : NaturalKey} {id : String}
  {w : World σ Obj}

/-- The calls of a deletion, and what they warrant. -/
theorem delete_calls (hkey : keyOf Obj id = .ok key) :
    ∃ reads, (left (l.delete id) w).calls
        = w.calls ++ .delete key (l.client.delete key w.plane).value :: reads
      ∧ (∀ c ∈ reads, ∃ answer, c = .get key answer)
      ∧ ∀ r after, l.delete id w = ended r after →
        l.Warranted key (.delete key (l.client.delete key w.plane).value :: reads) r := by
  cases hanswer : (l.client.delete key w.plane).value with
  | error e =>
    obtain ⟨r, after, hrun, hcalls, hwarranted⟩ := delete_of_refused (w := w) hkey hanswer
    refine ⟨[], ?_, List.forall_mem_nil _, ?_⟩
    · rw [left_of_ended hrun, hcalls]
    · intro r' after' hrun'
      rwa [ended_inj (hrun'.symm.trans hrun)]
  | ok _ =>
    have hasked : (l.askedWorld id key w).calls = w.calls ++ [.delete key (.ok ())] := by
      simp [askedWorld, hanswer]
    cases hwatch : (l.deletionWatch key).start (l.askedWorld id key w).clock l.patience
      (l.askedWorld id key w) with
    | error why =>
      have hrun := delete_of_endless hkey hanswer hwatch
      refine ⟨[], ?_, List.forall_mem_nil _, ?_⟩
      · rw [left, hrun]
        exact hasked
      · intro r after hrun'
        rw [hrun] at hrun'
        cases r <;> cases hrun'
    | ok e =>
      obtain ⟨after, hrun, -, hafter, -⟩ := delete_of_start hkey hanswer hwatch
      have hwatch' := (Watch.start_eq_ok_iff.mp hwatch).2
      obtain ⟨calls, hcalls, hfades⟩ := fades_of_course (Watch.run_eq_some_iff.mp hwatch').1
      refine ⟨calls, ?_, hfades.reads, ?_⟩
      · rw [left_of_ended hrun, hafter, hcalls, hasked, List.append_assoc]
        rfl
      · intro r' after' hrun'
        rw [ended_inj (hrun'.symm.trans hrun)]
        exact hfades.warranted

/-- A deletion with pauses comes to a result, given the patience for them and a clock that can hold
its deadline. -/
theorem exists_delete (hkey : keyOf Obj id = .ok key) (hpoll : 0 < l.timeouts.poll)
    (hpatience : l.timeouts.delete ≤ l.patience) (w : World σ Obj)
    (hheld : (l.client.delete key w.plane).value = .ok () →
      (l.askedWorld id key w).clock.Holds l.timeouts.delete) :
    ∃ r after, l.delete id w = ended r after := by
  cases hanswer : (l.client.delete key w.plane).value with
  | error e =>
    obtain ⟨r, after, hrun, -⟩ := delete_of_refused (w := w) hkey hanswer
    exact ⟨r, after, hrun⟩
  | ok _ =>
    obtain ⟨e, hwatch⟩ :=
      exists_run_deletionWatch hpoll hpatience key (l.askedWorld id key w)
    obtain ⟨after, hrun, -⟩ :=
      delete_of_start hkey hanswer (Watch.start_of_run (hheld hanswer) hwatch)
    exact ⟨_, after, hrun⟩

/-- A deletion is done only where the plane says, last of all, that there is no such object.
Nothing is called for an identifier that names no object of the type. Otherwise the deletion is
asked for once, under the key of the identifier, and from then on there are only reads under that
key. An error ends the deletion at once: it succeeds if the error says that there is no such object,
and fails with any other. Without one it times out, with the state of the object that was last read,
if any was. With pauses, and the patience for them, it does come to an end; only where the clock
cannot hold the deadline of a deletion that was accepted, it breaks off before the first read. -/
theorem delete_confirms_absence (l : Lifecycle σ Doc Obj) (id : String) (w : World σ Obj) :
    (∀ flaw, ResourceId.parse id = .error flaw →
      l.delete id w = .error (.failed (.invalidId flaw)) w)
    ∧ ∀ resource, ResourceId.parse id = .ok resource →
      (resource.isType (Managed.type Obj) = false →
        l.delete id w = .error (.failed (.wrongType id)) w)
      ∧ (resource.isType (Managed.type Obj) = true →
        (∃ reads, (left (l.delete id) w).calls = w.calls
            ++ .delete resource.naturalKey (l.client.delete resource.naturalKey w.plane).value
              :: reads
          ∧ (∀ c ∈ reads, ∃ answer, c = .get resource.naturalKey answer)
          ∧ ∀ r after, l.delete id w = ended r after → l.Warranted resource.naturalKey
            (.delete resource.naturalKey (l.client.delete resource.naturalKey w.plane).value
              :: reads) r)
        ∧ ((l.client.delete resource.naturalKey w.plane).value = .ok () →
          ¬ (l.askedWorld id resource.naturalKey w).clock.Holds l.timeouts.delete →
          l.delete id w
            = .error (.endless .beyondClock) (l.askedWorld id resource.naturalKey w))
        ∧ (((l.client.delete resource.naturalKey w.plane).value = .ok () →
            (l.askedWorld id resource.naturalKey w).clock.Holds l.timeouts.delete) →
          0 < l.timeouts.poll → l.timeouts.delete ≤ l.patience →
          ∃ r after, l.delete id w = ended r after)) := by
  refine ⟨?_, fun resource hparse => ⟨?_, fun htype => ?_⟩⟩
  · intro flaw hparse
    exact delete_of_keyOf_error (by simp only [keyOf, hparse])
  · intro htype
    exact delete_of_keyOf_error (by simp [keyOf, hparse, htype])
  · have hkey := keyOf_of_parse hparse htype
    exact ⟨delete_calls hkey, delete_of_not_held hkey,
      fun hheld hpoll hpatience => exists_delete hkey hpoll hpatience w hheld⟩

/-- A service that is found once more after its deletion was accepted, and then no more. -/
theorem delete_confirms_absence_lingering : ∃ resource reads after e,
    ResourceId.parse (Store.idFor Object.Service ⟨"rg", "web"⟩) = .ok resource
    ∧ (Kind.service.through (Rehearsal.client _) .default 2).delete
      (Store.idFor Object.Service ⟨"rg", "web"⟩)
      (rehearsedWorld _ [⟨50000, .give {}⟩, ⟨0, .missing⟩] [⟨0, .ignore⟩]) = .ok () after
    ∧ after.calls = .delete resource.naturalKey (.ok ()) :: reads
    ∧ lastError? (.delete resource.naturalKey (.ok ()) :: reads) = some e
    ∧ e.isNotFound = true := by
  obtain ⟨resource, hparse, htype⟩ : ∃ resource,
      ResourceId.parse (Store.idFor Object.Service ⟨"rg", "web"⟩) = .ok resource
      ∧ resource.isType (Managed.type Object.Service) = true :=
    ⟨⟨Store.subscription, "rg", Managed.type Object.Service, "web"⟩, by decide +kernel, by decide⟩
  obtain ⟨⟨⟩, after, hrun⟩ := exists_of_succeeds
    (x := (Kind.service.through (Rehearsal.client _) .default 2).delete
      (Store.idFor Object.Service ⟨"rg", "web"⟩))
    (w := rehearsedWorld _ [⟨50000, .give {}⟩, ⟨0, .missing⟩] [⟨0, .ignore⟩]) (by decide +kernel)
  obtain ⟨-, hnamed⟩ := delete_confirms_absence
    (Kind.service.through (Rehearsal.client _) .default 2)
    (Store.idFor Object.Service ⟨"rg", "web"⟩)
    (rehearsedWorld _ [⟨50000, .give {}⟩, ⟨0, .missing⟩] [⟨0, .ignore⟩])
  obtain ⟨reads, hcalls, -, hwarranted⟩ := ((hnamed resource hparse).2 htype).1
  rw [left_of_ended (r := .ok ()) hrun] at hcalls
  obtain ⟨e, herror, hmissing⟩ := (hwarranted (.ok ()) after hrun).done_iff.mp rfl
  exact ⟨resource, reads, after, e, hparse, hrun, hcalls, herror, hmissing⟩

end Provisioning.Lifecycle
