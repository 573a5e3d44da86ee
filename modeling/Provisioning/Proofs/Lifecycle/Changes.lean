import Provisioning.Proofs.Lifecycle.Creation

/-!
The changes that operations ask for, whatever the plane answers. Each operation has a list of
changes that it makes if it succeeds (`writes`, `deletions`); where it stops it has made the first
of them (`Halted`), and says that nothing was written only if no write was accepted.
-/

namespace Provisioning

variable {σ Obj : Type}

/-- A change that is asked for, whatever the answer. -/
inductive Demand (Obj : Type) where
  | put (key : NaturalKey) (object : Obj)
  | delete (key : NaturalKey)

namespace Call

/-- The change that a call asks for. -/
def demand? : Call Obj → Option (Demand Obj)
  | .get _ _ => none
  | .put key object _ => some (.put key object)
  | .delete key _ => some (.delete key)

/-- Whether a call is a write that the plane accepted. -/
def isAccepted : Call Obj → Bool
  | .put _ _ (.ok _) => true
  | _ => false

theorem isAccepted_of_reads {c : Call Obj} (h : c.mutates = false) : c.isAccepted = false := by
  cases c with
  | get _ _ => rfl
  | put _ _ _ => cases h
  | delete _ _ => cases h

end Call

/-- An operation stopped after the first of the changes that it was to make. If it says that nothing
was written, no write was accepted. -/
def Halted (changes : List (Demand Obj)) (stop : Stop) (w after : World σ Obj) : Prop :=
  ∃ calls, Makes calls w after ∧ calls.filterMap Call.demand? <+: changes
    ∧ (stop.IsClear → ∀ c ∈ calls, c.isAccepted = false)

namespace Halted

variable {changes more : List (Demand Obj)} {stop : Stop} {u v w : World σ Obj}

/-- Before the first change. -/
theorem of_reads (h : Makes [] u v) : Halted changes stop u v :=
  ⟨[], h, List.nil_prefix, nofun⟩

/-- After reads that come before the first change. -/
theorem after_reads (huv : Makes [] u v) (h : Halted changes stop v w) :
    Halted changes stop u w := by
  obtain ⟨calls, hcalls, hrest⟩ := h
  exact ⟨calls, huv.trans hcalls, hrest⟩

/-- Where more changes were to come. -/
theorem append (h : Halted changes stop u v) : Halted (changes ++ more) stop u v := by
  obtain ⟨calls, hcalls, hprefix, hclear⟩ := h
  exact ⟨calls, hcalls, hprefix.trans (List.prefix_append _ _), hclear⟩

/-- After changes that were all made. -/
theorem after {calls : List (Call Obj)} (huv : Makes calls u v)
    (hrefused : ∀ c ∈ calls, c.isAccepted = false) (h : Halted changes stop v w) :
    Halted (calls.filterMap Call.demand? ++ changes) stop u w := by
  obtain ⟨more, hmore, hprefix, hclear⟩ := h
  refine ⟨calls ++ more, huv.trans hmore, ?_, ?_⟩
  · rw [List.filterMap_append]
    exact (List.prefix_append_right_inj _).mpr hprefix
  · intro hstop c hc
    rcases List.mem_append.mp hc with hc | hc
    · exact hrefused c hc
    · exact hclear hstop c hc

/-- Where nothing is said to be written, no write was accepted. -/
theorem refused (h : Halted changes stop u v) (hclear : stop.IsClear) :
    Adds (fun c => c.isAccepted = false) u v := by
  obtain ⟨calls, hcalls, -, hrefused⟩ := h
  exact hcalls.adds (hrefused hclear) fun _ => Call.isAccepted_of_reads

end Halted

namespace Lifecycle

variable {Doc : Type} {l : Lifecycle σ Doc Obj} {desired : Doc} {prior : Option Doc}
  {key : NaturalKey} {object : Obj} {id : String} {w after : World σ Obj}

/-! ### Waiting -/

variable [Managed Obj]

variable (l) in
/-- A wait only reads, and never says that nothing was written. -/
theorem await_reads (key : NaturalKey) (change : StateChange) (w : World σ Obj) :
    Ends (l.await key change) w (fun _ after => OnlyReads key w after)
      (fun stop after => OnlyReads key w after ∧ ¬ stop.IsClear) := by
  unfold Ends
  rcases await_comes (l := l) key change w with
    ⟨why, hendless⟩ | ⟨outcome, after, -, -, hreads, hawait⟩
  · rw [hendless]
    exact ⟨.refl key w, nofun⟩
  · rw [hawait]
    cases hresult : awaited key change outcome with
    | ok state => exact hreads
    | error failure => exact ⟨hreads, residue_awaited hresult⟩

variable (l) in
/-- A deletion is waited for by reads alone, and never said to have written nothing. -/
theorem awaitDeletion_reads (key : NaturalKey) (w : World σ Obj) :
    Ends (l.awaitDeletion key) w (fun _ after => OnlyReads key w after)
      (fun stop after => OnlyReads key w after ∧ ¬ stop.IsClear) := by
  have hkeep : Ends (l.keep (l.deletionWatch key)) w (fun _ after => OnlyReads key w after)
      (fun stop after => (∃ why, stop = .endless why) ∧ after = w) :=
    ends_keep (OnlyReads.refl key) OnlyReads.trans (fun _ h => h) fun _ v => onlyReads_look key v
  unfold awaitDeletion
  refine hkeep.bind ?_ ?_
  · rintro stop after ⟨⟨why, rfl⟩, rfl⟩
    exact ⟨.refl key _, nofun⟩
  · intro watched after hreads
    match watched with
    | .settled (.ok ()) => exact ends_pure hreads
    | .settled (.error e) => exact ends_fail ⟨hreads, nofun⟩
    | .expired last => exact ends_fail ⟨hreads, nofun⟩

/-! ### Reading and planning -/

variable (l) in
/-- A read changes nothing. It stops at an identifier that names no key, or without the word that
nothing was written, unless the binding gives it. -/
theorem read_makes (id : String) (prior : Option Doc) (w : World σ Obj) :
    Ends (l.read id prior) w
      (fun _ after => Makes [] w after ∧ ∃ key, keyOf Obj id = .ok key)
      (fun stop after => Makes [] w after
        ∧ (stop.IsClear → (∃ failure, stop = .failed failure ∧ keyOf Obj id = .error failure)
          ∨ ∃ key object e, l.binding.flatten key object prior = .error e
            ∧ e.residue = .clear)) := by
  unfold read
  refine ends_bind (ends_parseId ?_ ?_)
  · intro failure hfailure
    exact ⟨.refl w, fun _ => .inl ⟨failure, rfl, hfailure⟩⟩
  intro key hkey
  refine (get_reads key w).bind (fun _ _ h => h.elim) ?_
  intro answer after hreads
  cases answer with
  | error e =>
    dsimp only
    cases e.isNotFound with
    | true => exact ends_bind (ends_note (ends_pure ⟨hreads.makes.noted (.gone id), key, hkey⟩))
    | false => exact ends_fail ⟨hreads.makes, nofun⟩
  | ok object =>
    dsimp only
    cases hflatten : l.binding.flatten key object prior with
    | ok document => exact ends_pure ⟨hreads.makes, key, hkey⟩
    | error e =>
      exact ends_fail ⟨hreads.makes, fun hclear => .inr ⟨key, object, e, hflatten, hclear⟩⟩

variable (l) in
/-- Planning changes nothing. Anything but a creation is planned for an identifier that names a
key. -/
theorem plan_makes (id : Option String) (desired : Doc) (prior : Option Doc) (w : World σ Obj) :
    Ends (l.plan id desired prior) w
      (fun plan after => Makes [] w after
        ∧ (plan = .create ∨ ∃ i key, id = some i ∧ keyOf Obj i = .ok key))
      (fun _ after => Makes [] w after) := by
  unfold plan
  refine ends_bind (ends_validate (fun _ => .refl w) fun _ => ?_)
  cases id with
  | none => exact ends_pure ⟨.refl w, .inl rfl⟩
  | some id =>
    refine (read_makes l id prior w).bind (fun _ _ h => h.1) ?_
    rintro found after ⟨hread, key, hkey⟩
    cases found with
    | none => exact ends_pure ⟨hread, .inl rfl⟩
    | some current => exact ends_pure ⟨hread, .inr ⟨id, key, rfl, hkey⟩⟩

/-! ### Writing and deleting -/

section Announced

variable (l) (desired)

/-- The write of the object that a document describes, if there is one. -/
def writes : List (Demand Obj) :=
  match l.binding.expand desired with
  | .ok object => [.put (l.binding.key desired) object]
  | .error _ => []

/-- The deletion of the object of an identifier, if it names a key. -/
def deletions (Obj : Type) [Managed Obj] (id : String) : List (Demand Obj) :=
  match keyOf Obj id with
  | .ok key => [.delete key]
  | .error _ => []

/-- The document was written, once, and the write was accepted. -/
def Wrote (w after : World σ Obj) : Prop :=
  ∃ object stored, l.binding.expand desired = .ok object
    ∧ Makes [.put (l.binding.key desired) object (.ok stored)] w after

end Announced

omit [Managed Obj] in
theorem writes_of_ok (h : l.binding.expand desired = .ok object) :
    l.writes desired = [.put (l.binding.key desired) object] := by
  simp only [writes, h]

theorem deletions_of_ok (h : keyOf Obj id = .ok key) : deletions Obj id = [.delete key] := by
  simp only [deletions, h]

omit [Managed Obj] in
/-- What stops at the write or after it says that nothing was written only where the write was not
accepted. -/
theorem halted_of_write {answer : Except ClientError Obj} {stop : Stop}
    (hexpand : l.binding.expand desired = .ok object)
    (hmade : Makes [.put (l.binding.key desired) object answer] w after)
    (hclear : ¬ stop.IsClear) : Halted (l.writes desired) stop w after := by
  refine ⟨_, hmade, ?_, fun h => absurd h hclear⟩
  rw [writes_of_ok hexpand]
  exact List.prefix_rfl

theorem Foiled.halted {failure : Failure} {calls : List (Call Obj)}
    (h : l.Foiled desired w.plane failure calls) (hcalls : after.calls = w.calls ++ calls) :
    Halted (l.writes desired) (.failed failure) w after := by
  cases h with
  | invalid _ => exact .of_reads ⟨_, hcalls, rfl⟩
  | taken _ _ => exact .of_reads ⟨_, hcalls, rfl⟩
  | unchecked _ _ _ => exact .of_reads ⟨_, hcalls, rfl⟩
  | unexpanded _ _ => exact .of_reads ⟨_, hcalls, rfl⟩
  | unwritten hissued _ => exact halted_of_write hissued.expanded ⟨_, hcalls, rfl⟩ nofun
  | lost haccepted _ _ => exact halted_of_write haccepted.expanded ⟨_, hcalls, rfl⟩ nofun
  | unread haccepted _ _ => exact halted_of_write haccepted.expanded ⟨_, hcalls, rfl⟩ nofun
  | nameless haccepted _ _ => exact halted_of_write haccepted.expanded ⟨_, hcalls, rfl⟩ nofun

variable (l) in
/-- A creation writes the document, or stops. -/
theorem create_makes (desired : Doc) (w : World σ Obj) :
    Ends (l.create desired) w (fun _ after => l.Wrote desired w after)
      (fun stop after => Halted (l.writes desired) stop w after) := by
  unfold Ends
  rcases foiled_or_identified l desired w.plane with
    ⟨failure, calls, hfoiled⟩ | ⟨object, id, hidentified⟩
  · obtain ⟨after, hcalls, hrun⟩ := create_of_foiled hfoiled
    rw [hrun]
    exact hfoiled.halted hcalls
  · obtain ⟨reads, after, hreads, hcalls, hrun⟩ := create_settles hidentified
    obtain ⟨stored, haccepted⟩ := hidentified.accepted
    have hmade : Makes [.put (l.binding.key desired) object (.ok stored)] w after := by
      refine ⟨_, hcalls, ?_⟩
      have hnone : reads.filter Call.mutates = [] :=
        List.filter_eq_nil_iff.mpr fun c hc => by simp [(hreads c hc).2]
      change l.writeCall desired w.plane object :: reads.filter Call.mutates = _
      rw [hnone, writeCall, haccepted]
    rcases hrun with ⟨why, hrun⟩ | ⟨outcome, -, hrun⟩
    · rw [hrun]
      exact halted_of_write hidentified.expanded hmade nofun
    · rw [hrun, provisioned]
      cases hresult : awaited (l.binding.key desired)
        (l.changeWithin l.binding.change l.timeouts.create) outcome with
      | ok state => exact ⟨object, stored, hidentified.expanded, hmade⟩
      | error failure =>
        exact halted_of_write hidentified.expanded hmade (residue_awaited hresult)

variable (l) in
/-- An update writes the document, or stops. -/
theorem update_makes (id : String) (desired : Doc) (w : World σ Obj) :
    Ends (l.update id desired) w (fun _ after => l.Wrote desired w after)
      (fun stop after => Halted (l.writes desired) stop w after) := by
  have hnothing {stop : Stop} : Halted (l.writes desired) stop w w := .of_reads (.refl w)
  unfold update
  dsimp only
  cases l.binding.updatable with
  | false => exact ends_bind (ends_fail hnothing)
  | true =>
    simp only [Bool.not_true, Bool.false_eq_true, if_false]
    refine ends_bind (ends_validate (fun _ => hnothing) fun _ => ?_)
    refine ends_bind (ends_parseId (fun _ _ => hnothing) fun key _ => ?_)
    by_cases hmatch : key = l.binding.key desired
    · subst hmatch
      simp only [ne_eq, not_true_eq_false, if_false]
      refine ends_bind (ends_expand (fun _ _ => hnothing) fun object hexpand => ?_)
      have hwritten (answer : Except ClientError Obj) :
          Makes [.put (l.binding.key desired) object answer] w
            (((w.noted (.updating id)).notedAll
                (l.writeNotes (l.binding.key desired) object)).called
              (.put (l.binding.key desired) object answer)
              (l.client.put (l.binding.key desired) object w.plane)) :=
        (((Makes.refl w).noted (.updating id)).notedAll _).called rfl
      refine ends_bind (ends_note (ends_bind (ends_write ?_ ?_)))
      · intro stored _
        have hmade := hwritten (.ok stored)
        refine (await_reads l _ _ _).bind ?_ ?_
        · rintro stop after ⟨hreads, hclear⟩
          exact halted_of_write hexpand (hmade.reads hreads) hclear
        · intro state w₂ hreads
          exact ends_bind (ends_note (ends_pure
            ⟨object, stored, hexpand, (hmade.reads hreads).noted (.updated id state)⟩))
      · intro e _
        exact halted_of_write hexpand (hwritten (.error e)) nofun
    · simp only [ne_eq, hmatch, not_false_eq_true, if_true]
      exact ends_bind (ends_fail hnothing)

variable (l) in
/-- A deletion asks for it, once, or stops. -/
theorem delete_makes (id : String) (w : World σ Obj) :
    Ends (l.delete id) w
      (fun _ after => ∃ key answer, keyOf Obj id = .ok key ∧ Makes [.delete key answer] w after)
      (fun stop after => Halted (deletions Obj id) stop w after) := by
  unfold delete
  refine ends_bind (ends_parseId (fun _ _ => .of_reads (.refl w)) fun key hkey => ?_)
  have halted {stop : Stop} {answer : Except ClientError Unit} {after : World σ Obj}
      (hmade : Makes [.delete key answer] w after) : Halted (deletions Obj id) stop w after := by
    refine ⟨_, hmade, ?_, fun _ c hc => ?_⟩
    · rw [deletions_of_ok hkey]
      exact List.prefix_rfl
    · rw [List.mem_singleton.mp hc]
      rfl
  have hdelete : Ends (call (l.client.delete key) fun answer => .delete key answer)
      (w.noted (.deleting id)) (fun answer after => Makes [.delete key answer] w after)
      (fun _ _ => False) :=
    ends_call (((Makes.refl w).noted (.deleting id)).called rfl)
  refine ends_bind (ends_note (hdelete.bind (fun _ _ h => h.elim) ?_))
  intro answer w₁ hmade
  cases answer with
  | error e =>
    dsimp only
    cases e.isNotFound with
    | true => exact ends_note ⟨key, _, hkey, hmade.noted (.alreadyDeleted id)⟩
    | false => exact ends_fail (halted hmade)
  | ok _ =>
    refine (awaitDeletion_reads l key w₁).bind ?_ ?_
    · rintro stop after ⟨hreads, -⟩
      exact halted (hmade.reads hreads)
    · intro _ w₂ hreads
      exact ends_note ⟨key, _, hkey, (hmade.reads hreads).noted (.deleted id)⟩

end Lifecycle

end Provisioning
