import Provisioning.Proofs.Plane.Reads

/-!
Operations that change a simulated plane. Each of them is confined to one key, and its success says
what became of the object there: it was written and is there as the plane gives it out (`Written`),
or it is gone (`Gone`).
-/

namespace Provisioning

variable {Obj : Type} [Managed Obj]

/-- The object that a plane holds once an object is written under a key, its state aside. -/
def Store.filed (key : NaturalKey) (object : Obj) : Obj :=
  Managed.scrub (Managed.populate key (Managed.withId (Store.idFor Obj key) object))

@[simp] theorem Store.id_filed [LawfulManaged Obj] (key : NaturalKey) (object : Obj) :
    Managed.id (Store.filed key object) = some (Store.idFor Obj key) := by
  simp [filed]

/-- An object was written under a key, and since then the key was only read. -/
structure Written (key : NaturalKey) (object : Obj) (w after : World (Store Obj) Obj) : Prop
    extends Confined key w after where
  filed : ∃ s, after.plane.objects key = some (Managed.withState s (Store.filed key object))
  accepted : after.lastAccepted key = some object

/-- The object under a key, if there was one, was deleted. -/
structure Gone (key : NaturalKey) (w after : World (Store Obj) Obj) : Prop
    extends Confined key w after where
  absent : after.plane.objects key = none

variable {key : NaturalKey} {object : Obj} {u v w : World (Store Obj) Obj}

namespace Written

theorem noted (n : Note) (h : Written key object u v) : Written key object u (v.noted n) :=
  ⟨h.toConfined.noted n, h.filed, (World.lastAccepted_noted v n key).trans h.accepted⟩

theorem looked [LawfulManaged Obj] (huv : Written key object u v) (hvw : Looked key v w) :
    Written key object u w := by
  obtain ⟨s, hs⟩ := huv.filed
  obtain ⟨after, hafter, hmoved⟩ := hvw.present hs
  obtain ⟨t, rfl⟩ := hmoved.of_withState
  exact ⟨huv.toConfined.trans hvw.toConfined, ⟨t, hafter⟩,
    (hvw.reads.lastAccepted_eq key).trans huv.accepted⟩

theorem after_confined (huv : Confined key u v) (hvw : Written key object v w) :
    Written key object u w :=
  ⟨huv.trans hvw.toConfined, hvw.filed, hvw.accepted⟩

end Written

namespace Lifecycle

variable {Doc : Type} {l : Lifecycle (Store Obj) Doc Obj}

section OnStore

variable (hclient : l.client = Store.client Obj)

include hclient

/-! ### Calls that change something -/

theorem write_ends (key : NaturalKey) (object : Obj) (w : World (Store Obj) Obj) :
    Ends (l.write key object) w (fun _ after => Written key object w after)
      (fun stop after => ¬ stop.IsConflict ∧ Confined key w after) := by
  have hnoted := (Confined.refl key w).notedAll (l.writeNotes key object)
  cases hrefusal : w.plane.refusal with
  | some reason =>
    have hput : (Store.client Obj).put key object w.plane
        = .now (.error (.rejected Client.writing (Managed.describe Obj key) reason)) w.plane := by
      simp only [Store.client, Store.put, hrefusal]
    refine ends_write (fun stored hstored => ?_) fun e _ => ?_
    · rw [hclient, hput] at hstored
      cases hstored
    · rw [hclient, hput]
      exact ⟨nofun, hnoted.trans ⟨fun _ _ => rfl, rfl, .single (World.calls_called _ _ _) rfl⟩⟩
  | none =>
    have hput : (Store.client Obj).put key object w.plane = .now (.ok (w.plane.kept key object))
        { w.plane with
          objects := Store.assign w.plane.objects key (some (w.plane.kept key object)) } := by
      simp only [Store.client, Store.put, hrefusal]
    refine ends_write (fun stored hstored => ?_) fun e he => ?_
    · rw [hclient, hput] at hstored ⊢
      cases hstored
      refine .after_confined hnoted ⟨⟨?_, rfl, .single (World.calls_called _ _ _) rfl⟩,
        ⟨w.plane.writtenState key, ?_⟩, ?_⟩
      · intro k hk
        exact Store.assign_of_ne hk _ _
      · exact Store.assign_self _ _ _
      · exact World.lastAccepted_append_put _ _ _ _ _ _
    · rw [hclient, hput] at he
      cases he

/-- The call that asks for a deletion: the object is gone, or was not there. -/
theorem deleteCall_ends (key : NaturalKey) (w : World (Store Obj) Obj) :
    Ends (call (l.client.delete key) fun answer => .delete key answer) w
      (fun answer after => Gone key w after ∧ ∀ e, answer = .error e → e.isNotFound = true)
      fun _ _ => False := by
  rw [hclient]
  refine ends_call ?_
  have hcalls := World.calls_append_call (w.plane.delete key).2 (w.clock.after 0) w.journal
    (.delete key (w.plane.delete key).1)
  change Gone key w
      { plane := (w.plane.delete key).2
        clock := w.clock.after 0
        journal := w.journal ++ [.call (.delete key (w.plane.delete key).1)] }
    ∧ ∀ e, (w.plane.delete key).1 = .error e → e.isNotFound = true
  cases hobject : w.plane.objects key with
  | none =>
    rw [Store.delete_of_absent hobject] at hcalls ⊢
    refine ⟨⟨⟨fun _ _ => rfl, rfl, .single hcalls rfl⟩, hobject⟩, ?_⟩
    rintro e ⟨⟩
    rfl
  | some object =>
    rw [Store.delete_of_present hobject] at hcalls ⊢
    refine ⟨⟨⟨?_, rfl, .single hcalls rfl⟩, Store.assign_self _ _ _⟩, nofun⟩
    intro k hk
    exact Store.assign_of_ne hk _ _

/-! ### The steps of a creation -/

theorem ensureAbsent_ends (key : NaturalKey) (w : World (Store Obj) Obj) :
    Ends (l.ensureAbsent key) w
      (fun _ after => Looked key w after ∧ w.plane.objects key = none)
      (fun stop after => Looked key w after
        ∧ (stop.IsConflict → ∃ object, w.plane.objects key = some object)) := by
  unfold ensureAbsent
  refine (get_ends hclient key w).bind (fun _ _ h => h.elim) ?_
  rintro answer after ⟨hlooked, htold⟩
  cases answer with
  | ok object =>
    obtain ⟨before, hbefore, -⟩ := hlooked.present_of_after htold
    exact ends_fail ⟨hlooked, fun _ => ⟨before, hbefore⟩⟩
  | error e =>
    obtain ⟨hmissing, habsent⟩ := htold
    simp only [hmissing, if_true]
    refine ends_pure ⟨hlooked, ?_⟩
    cases hobject : w.plane.objects key with
    | none => rfl
    | some object =>
      obtain ⟨found, hfound, -⟩ := hlooked.present hobject
      rw [habsent] at hfound
      cases hfound

/-- What is read back of an object that was just written is the identifier of its key. -/
theorem readBackId_ends [LawfulManaged Obj] (hwritten : Written key object u w) :
    Ends (l.readBackId key) w
      (fun id after => Looked key w after ∧ id = Store.idFor Obj key)
      (fun stop after => ¬ stop.IsConflict ∧ Looked key w after) := by
  unfold readBackId
  refine (get_ends hclient key w).bind (fun _ _ h => h.elim) ?_
  rintro answer after ⟨hlooked, htold⟩
  obtain ⟨s, hfiled⟩ := (hwritten.looked hlooked).filed
  cases answer with
  | error e =>
    obtain ⟨-, habsent⟩ := htold
    rw [hfiled] at habsent
    cases habsent
  | ok found =>
    have hfound : found = Managed.withState s (Store.filed key object) :=
      Option.some.inj (htold.symm.trans hfiled)
    have hid : Managed.id found = some (Store.idFor Obj key) := by
      rw [hfound, LawfulManaged.id_withState, Store.id_filed]
    simp only [hid]
    exact ends_pure ⟨hlooked, rfl⟩

end OnStore

/-! ### Creating, changing, deleting -/

/-- The object that a document describes was created where there was none. -/
structure Created (l : Lifecycle (Store Obj) Doc Obj) (desired : Doc) (id : String)
    (w after : World (Store Obj) Obj) : Prop where
  valid : (l.binding.report desired).isValid = true
  absent : w.plane.objects (l.binding.key desired) = none
  id_eq : id = Store.idFor Obj (l.binding.key desired)
  written : ∃ object, l.binding.expand desired = .ok object
    ∧ Written (l.binding.key desired) object w after

/-- The object of an identifier was changed into the one that a document describes. -/
structure Changed (l : Lifecycle (Store Obj) Doc Obj) (id : String) (desired : Doc)
    (w after : World (Store Obj) Obj) : Prop where
  valid : (l.binding.report desired).isValid = true
  keyOf_id : keyOf Obj id = .ok (l.binding.key desired)
  written : ∃ object, l.binding.expand desired = .ok object
    ∧ Written (l.binding.key desired) object w after

section OnStore

variable [LawfulManaged Obj] (hclient : l.client = Store.client Obj)

include hclient

/-- A creation either creates the object, or stops: at an object that is there already, before
anything is written. -/
theorem create_ends (desired : Doc) (w : World (Store Obj) Obj) :
    Ends (l.create desired) w (fun id after => Created l desired id w after)
      (fun stop after => Confined (l.binding.key desired) w after
        ∧ (stop.IsConflict → Looked (l.binding.key desired) w after
          ∧ ∃ object, w.plane.objects (l.binding.key desired) = some object)) := by
  unfold create
  dsimp only
  refine ends_bind (ends_validate (fun _ => ⟨Confined.refl _ w, nofun⟩) fun hvalid => ?_)
  refine (ensureAbsent_ends hclient _ w).bind ?_ ?_
  · rintro stop after ⟨hlooked, hconflict⟩
    exact ⟨hlooked.toConfined, fun h => ⟨hlooked, hconflict h⟩⟩
  rintro - w₁ ⟨hlooked, habsent⟩
  refine ends_bind (ends_expand (fun _ _ => ⟨hlooked.toConfined, nofun⟩) fun object hexpand => ?_)
  have hnoted : Confined (l.binding.key desired) w (w₁.noted (.creating _)) :=
    hlooked.toConfined.noted (.creating (l.binding.key desired))
  refine ends_bind (ends_note ((write_ends hclient _ object _).bind ?_ ?_))
  · rintro stop after ⟨hstop, hconfined⟩
    exact ⟨hnoted.trans hconfined, fun h => absurd h hstop⟩
  intro _ w₂ hwritten
  replace hwritten := hwritten.after_confined hnoted
  refine (readBackId_ends hclient hwritten).bind ?_ ?_
  · rintro stop after ⟨hstop, hread⟩
    exact ⟨hwritten.toConfined.trans hread.toConfined, fun h => absurd h hstop⟩
  rintro id w₃ ⟨hread, hid⟩
  replace hwritten := (hwritten.looked hread).noted (.provisioning id)
  refine ends_bind (ends_note ((await_ends hclient _ _ _).bind ?_ ?_))
  · rintro stop after ⟨hstop, hawaited⟩
    exact ⟨hwritten.toConfined.trans hawaited.toConfined, fun h => absurd h hstop⟩
  intro state w₄ hawaited
  replace hwritten := (hwritten.looked hawaited).noted (.created id state)
  exact ends_bind (ends_note (ends_pure ⟨hvalid, habsent, hid, object, hexpand, hwritten⟩))

/-- An update changes the object of its identifier, which is that of the document, or stops. It
never stops because there is an object. -/
theorem update_ends (id : String) (desired : Doc) (w : World (Store Obj) Obj) :
    Ends (l.update id desired) w (fun id' after => id' = id ∧ Changed l id desired w after)
      (fun stop after => ¬ stop.IsConflict
        ∧ ∀ key, keyOf Obj id = .ok key → Confined key w after) := by
  have hnothing : ∀ key, keyOf Obj id = .ok key → Confined key w w :=
    fun key _ => Confined.refl key w
  unfold update
  dsimp only
  cases l.binding.updatable with
  | false => exact ends_bind (ends_fail ⟨nofun, hnothing⟩)
  | true =>
    simp only [Bool.not_true, Bool.false_eq_true, if_false]
    refine ends_bind (ends_validate (fun _ => ⟨nofun, hnothing⟩) fun hvalid => ?_)
    refine ends_bind (ends_parseId (fun _ h => ⟨not_isConflict_of_keyOf h, hnothing⟩) ?_)
    intro key hkey
    by_cases hmatch : key = l.binding.key desired
    · subst hmatch
      simp only [ne_eq, not_true_eq_false, if_false]
      refine ends_bind (ends_expand (fun _ _ => ⟨nofun, hnothing⟩) fun object hexpand => ?_)
      have hnoted := (Confined.refl (l.binding.key desired) w).noted (.updating id)
      refine ends_bind (ends_note ((write_ends hclient _ object _).bind ?_ ?_))
      · rintro stop after ⟨hstop, hstopped⟩
        exact ⟨hstop, forall_keyOf hkey (hnoted.trans hstopped)⟩
      intro _ w₁ hwritten
      replace hwritten := hwritten.after_confined hnoted
      refine (await_ends hclient _ _ _).bind ?_ ?_
      · rintro stop after ⟨hstop, hawaited⟩
        exact ⟨hstop, forall_keyOf hkey (hwritten.toConfined.trans hawaited.toConfined)⟩
      intro state w₂ hawaited
      replace hwritten := (hwritten.looked hawaited).noted (.updated id state)
      exact ends_bind (ends_note (ends_pure ⟨rfl, hvalid, hkey, object, hexpand, hwritten⟩))
    · simp only [ne_eq, hmatch, not_false_eq_true, if_true]
      exact ends_bind (ends_fail ⟨nofun, hnothing⟩)

/-- A deletion leaves no object under the key of its identifier, or stops. -/
theorem delete_ends (id : String) (w : World (Store Obj) Obj) :
    Ends (l.delete id) w (fun _ after => ∃ key, keyOf Obj id = .ok key ∧ Gone key w after)
      (fun stop after => ¬ stop.IsConflict
        ∧ ∀ key, keyOf Obj id = .ok key → Confined key w after) := by
  unfold delete
  refine ends_bind (ends_parseId ?_ ?_)
  · intro failure hfailure
    exact ⟨not_isConflict_of_keyOf hfailure, fun key _ => Confined.refl key w⟩
  intro key hkey
  have hnoted := (Confined.refl key w).noted (.deleting id)
  refine ends_bind (ends_note ((deleteCall_ends hclient key _).bind (fun _ _ h => h.elim) ?_))
  rintro answer w₁ ⟨hgone, hanswer⟩
  have hconfined := hnoted.trans hgone.toConfined
  cases answer with
  | error e =>
    simp only [hanswer e rfl, if_true]
    exact ends_note ⟨key, hkey, hconfined.noted (.alreadyDeleted id), hgone.absent⟩
  | ok _ =>
    refine (awaitDeletion_ends hclient key w₁).bind ?_ ?_
    · rintro stop after ⟨hstop, hlooked⟩
      exact ⟨hstop, forall_keyOf hkey (hconfined.trans hlooked.toConfined)⟩
    intro _ w₂ hlooked
    exact ends_note ⟨key, hkey, (hconfined.trans hlooked.toConfined).noted (.deleted id),
      hlooked.absent hgone.absent⟩

end OnStore

end Lifecycle

end Provisioning
