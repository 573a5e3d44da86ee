import Provisioning.Proofs.Lifecycle.Deletion
import Provisioning.Proofs.Lifecycle.Conflict

/-!
Deletions on a simulated plane. A deletion leaves the plane as it was, without the object
(`Cleared`), even one that breaks off because the clock cannot hold its deadline; and on every plane
like that the object is not there to be read, and to delete it once more changes nothing.
-/

namespace Provisioning

namespace Store

variable {Obj : Type} {key : NaturalKey} {s after : Store Obj}

/-- Whether a plane is another one without the object under a key, and nothing but the number of
reads tells them apart otherwise. -/
structure Cleared (key : NaturalKey) (s after : Store Obj) : Prop where
  objects : after.objects = assign s.objects key none
  script : after.script = s.script
  refusal : after.refusal = s.refusal

namespace Cleared

theorem absent (h : Cleared key s after) : after.objects key = none := by
  rw [h.objects]
  exact assign_self _ _ _

/-- Where there is no object, there is none to be cleared away. -/
theorem of_absent (h : s.objects key = none) : Cleared key s s where
  objects := by
    funext k
    by_cases hk : k = key
    · rw [hk, h, assign_self]
    · rw [assign_of_ne hk]
  script := rfl
  refusal := rfl

theorem with_gets (h : Cleared key s after) (gets : Nat) : Cleared key s { after with gets } :=
  ⟨h.objects, h.script, h.refusal⟩

end Cleared

end Store

namespace Lifecycle

/-- What the plane says is missing is read as none. -/
theorem read_of_missing {σ Doc Obj : Type} [Managed Obj] {l : Lifecycle σ Doc Obj}
    {key : NaturalKey} {id : String} {w : World σ Obj} {prior : Option Doc} {e : ClientError}
    (hkey : keyOf Obj id = .ok key) (hanswer : (l.client.get key w.plane).value = .error e)
    (hmissing : e.isNotFound = true) :
    l.read id prior w = .ok none
      ((w.called (.get key (some (l.client.get key w.plane).value))
        (l.client.get key w.plane)).noted (.gone id)) := by
  have hget : l.get key w = .ok (l.client.get key w.plane).value
      (w.called (.get key (some (l.client.get key w.plane).value)) (l.client.get key w.plane)) :=
    rfl
  unfold read
  rw [run_bind_of_ok (run_parseId hkey), run_bind_of_ok hget, hanswer]
  simp only [hmissing, if_true]
  rfl

variable {Doc Obj : Type} [Managed Obj] {l : Lifecycle (Store Obj) Doc Obj} {key : NaturalKey}
  {id : String} {w : World (Store Obj) Obj}

section OnStore

variable (hclient : l.client = Store.client Obj)

include hclient

theorem client_get_of_absent {s : Store Obj} (habsent : s.objects key = none) :
    l.client.get key s = .now (.error (Store.missing Obj key)) { s with gets := s.gets + 1 } := by
  rw [hclient]
  simp only [Store.client, Store.get_of_absent habsent]

/-- To delete an object that is not there leaves the plane as it is. -/
theorem delete_of_absent (hkey : keyOf Obj id = .ok key) (habsent : w.plane.objects key = none) :
    ∃ after, l.delete id w = .ok () after ∧ after.plane = w.plane := by
  have hanswer : l.client.delete key w.plane = .now (.error (Store.missing Obj key)) w.plane := by
    rw [hclient]
    simp only [Store.client, Store.delete_of_absent habsent]
  refine ⟨_, delete_of_missing hkey (by rw [hanswer]; rfl) rfl, ?_⟩
  rw [World.plane_noted]
  change (l.client.delete key w.plane).next = w.plane
  rw [hanswer]
  rfl

/-- The plane takes the object away when the deletion is asked for. -/
theorem askedWorld_of_present (id : String) {object : Obj}
    (hpresent : w.plane.objects key = some object) :
    (l.client.delete key w.plane).value = .ok () ∧ (l.askedWorld id key w).clock = w.clock
      ∧ Store.Cleared key w.plane (l.askedWorld id key w).plane := by
  have hanswer : l.client.delete key w.plane
      = .now (.ok ()) { w.plane with objects := Store.assign w.plane.objects key none } := by
    rw [hclient]
    simp only [Store.client, Store.delete_of_present hpresent]
  refine ⟨by rw [hanswer]; rfl, ?_, ?_⟩
  · change w.clock.after (l.client.delete key w.plane).delay = w.clock
    rw [hanswer]
    exact w.clock.after_zero
  · change Store.Cleared key w.plane (l.client.delete key w.plane).next
    rw [hanswer]
    exact ⟨rfl, rfl, rfl⟩

/-- A deletion that there is any time for is done, and leaves the plane without the object, if there
is nothing to wait for or the clock can hold the deadline. -/
theorem delete_clears (hkey : keyOf Obj id = .ok key) (hlimit : 0 < l.timeouts.delete)
    (hpatience : 0 < l.patience)
    (hheld : w.plane.objects key = none ∨ w.clock.Holds l.timeouts.delete) :
    ∃ after, l.delete id w = .ok () after ∧ Store.Cleared key w.plane after.plane := by
  cases hobject : w.plane.objects key with
  | none =>
    obtain ⟨after, hrun, hplane⟩ := delete_of_absent hclient hkey hobject
    refine ⟨after, hrun, ?_⟩
    rw [hplane]
    exact .of_absent hobject
  | some object =>
    obtain ⟨haccepted, hclock, hcleared⟩ := askedWorld_of_present hclient id hobject
    replace hheld : (l.askedWorld id key w).clock.Holds l.timeouts.delete := by
      rw [hclock]
      exact hheld.resolve_left (by rw [hobject]; exact nofun)
    have hget := client_get_of_absent hclient hcleared.absent
    obtain ⟨done, hwatch, hresult, hplane⟩ := run_deletionWatch_of_missing
      (w := l.askedWorld id key w) (e := Store.missing Obj key) hlimit hpatience
      (by rw [hget]; exact Nat.zero_le _) (by rw [hget]; rfl) rfl
    obtain ⟨after, hrun, hafter, -, -⟩ :=
      delete_of_start hkey haccepted (Watch.start_of_run hheld hwatch)
    rw [hresult] at hrun
    refine ⟨after, hrun, ?_⟩
    rw [hafter, hplane, hget]
    exact hcleared.with_gets _

end OnStore

end Lifecycle

open Lifecycle

end Provisioning
