import Provisioning.Proofs.Lifecycle.Creation
import Provisioning.Proofs.Lifecycle.Kinds

/-!
What creations come to. The answers of the plane decide it: the first three of them, which may foil
the creation, and the polls of its wait, if the clock can hold the deadline for them. How much
patience there is for the polls decides only whether a creation comes to its result.
-/

namespace Provisioning.Lifecycle

variable {σ Doc Obj : Type} [Managed Obj]

/-- When a creation fails, by the way in which it does. -/
def Fails (l : Lifecycle σ Doc Obj) (desired : Doc) (w : World σ Obj) : Failure → Prop
  | .invalidDocument report =>
    report = l.binding.report desired ∧ (l.binding.report desired).isValid = false
  | .alreadyExists key id => key = l.binding.key desired
    ∧ (l.binding.report desired).isValid = true
    ∧ ∃ existing, (l.checkAnswer desired w.plane).value = .ok existing
      ∧ id = (Managed.id existing).getD ""
  | .binding task key e =>
    task = .expand ∧ key = l.binding.key desired ∧ l.Vacant desired w.plane
    ∧ l.binding.expand desired = .error e
  | .vanished key => key = l.binding.key desired
    ∧ ∃ object e, l.Accepted desired w.plane object
      ∧ (l.readBackAnswer desired w.plane object).value = .error e ∧ e.isNotFound = true
  | .missingId key => key = l.binding.key desired
    ∧ ∃ object found, l.Accepted desired w.plane object
      ∧ (l.readBackAnswer desired w.plane object).value = .ok found ∧ Managed.id found = none
  | .provisioningFailed key state expected =>
    key = l.binding.key desired ∧ expected = l.binding.change.expected
    ∧ ∃ object id, l.Settles desired w object id (.ok (.failed state))
  | .timedOut key goal limit last =>
    key = l.binding.key desired ∧ goal = .provisioned ∧ limit = l.timeouts.create
    ∧ ∃ object id, l.Settles desired w object id (.ok (.timedOut last))
  | .remote .checkForExisting key e => key = l.binding.key desired
    ∧ (l.binding.report desired).isValid = true
    ∧ (l.checkAnswer desired w.plane).value = .error e ∧ e.isNotFound = false
  | .remote .write key e => key = l.binding.key desired
    ∧ ∃ object, l.Issued desired w.plane object
      ∧ (l.writeAnswer desired w.plane object).value = .error e
  | .remote .readBack key e => key = l.binding.key desired
    ∧ ∃ object, l.Accepted desired w.plane object
      ∧ (l.readBackAnswer desired w.plane object).value = .error e ∧ e.isNotFound = false
  | .remote .poll key e => key = l.binding.key desired
    ∧ ∃ object id, l.Settles desired w object id (.error e)
  | _ => False

variable {l : Lifecycle σ Doc Obj} {desired : Doc} {s : σ} {w : World σ Obj} {object : Obj}
  {id : String}

/-! ### Creations with all patience -/

section Patience

variable (patience : Nat)

omit [Managed Obj] in
theorem Vacant.withPatience (h : l.Vacant desired s) :
    ({ l with patience } : Lifecycle σ Doc Obj).Vacant desired s :=
  ⟨h.valid, h.absent⟩

omit [Managed Obj] in
theorem Issued.withPatience (h : l.Issued desired s object) :
    ({ l with patience } : Lifecycle σ Doc Obj).Issued desired s object :=
  ⟨h.toVacant.withPatience patience, h.expanded⟩

omit [Managed Obj] in
theorem Accepted.withPatience (h : l.Accepted desired s object) :
    ({ l with patience } : Lifecycle σ Doc Obj).Accepted desired s object :=
  ⟨h.toIssued.withPatience patience, h.accepted⟩

theorem Identified.withPatience (h : l.Identified desired s object id) :
    ({ l with patience } : Lifecycle σ Doc Obj).Identified desired s object id :=
  ⟨h.toAccepted.withPatience patience, h.identified⟩

theorem Foiled.withPatience {failure : Failure} {calls : List (Call Obj)}
    (h : l.Foiled desired s failure calls) :
    ({ l with patience } : Lifecycle σ Doc Obj).Foiled desired s failure calls := by
  cases h with
  | invalid hvalid => exact .invalid hvalid
  | taken hvalid hpresent => exact .taken hvalid hpresent
  | unchecked hvalid herror hother => exact .unchecked hvalid herror hother
  | unexpanded hvacant herror => exact .unexpanded (hvacant.withPatience patience) herror
  | unwritten hissued herror => exact .unwritten (hissued.withPatience patience) herror
  | lost haccepted herror hmissing =>
    exact .lost (haccepted.withPatience patience) herror hmissing
  | unread haccepted herror hother =>
    exact .unread (haccepted.withPatience patience) herror hother
  | nameless haccepted hfound hid =>
    exact .nameless (haccepted.withPatience patience) hfound hid

end Patience

variable (l) (desired) (w) in
/-- Whether a creation comes to a result, given the patience. -/
def Creates (r : Except Failure String) : Prop :=
  ∃ patience after, ({ l with patience } : Lifecycle σ Doc Obj).create desired w = ended r after

section Results

variable {r r' : Except Failure String} {failure : Failure}

/-- A creation that is foiled fails accordingly, with any patience. -/
theorem Foiled.result_eq {calls : List (Call Obj)} (h : l.Foiled desired w.plane failure calls)
    (hr : l.Creates desired w r) : r = .error failure := by
  obtain ⟨patience, after, hrun⟩ := hr
  obtain ⟨after', -, hrun'⟩ := create_of_foiled (h.withPatience patience)
  exact ended_inj (hrun.symm.trans hrun')

/-- A creation that has its identifier comes to what the polls of its wait say. -/
theorem Identified.result_eq (h : l.Identified desired w.plane object id)
    (hr : l.Creates desired w r) :
    ∃ outcome, l.Settles desired w object id outcome ∧ r = l.provisioned desired id outcome := by
  obtain ⟨patience, after, hrun⟩ := hr
  obtain ⟨-, after', -, -, ⟨why, hendless⟩ | ⟨outcome, hsettles, hrun'⟩⟩ :=
    create_settles (h.withPatience patience)
  · rw [hendless] at hrun
    cases r <;> cases hrun
  · exact ⟨outcome, ⟨h, hsettles.held, hsettles.comes⟩, ended_inj (hrun.symm.trans hrun')⟩

theorem creates_iff : l.Creates desired w r
    ↔ (∃ failure calls, r = .error failure ∧ l.Foiled desired w.plane failure calls)
      ∨ ∃ object id outcome, l.Settles desired w object id outcome
        ∧ r = l.provisioned desired id outcome := by
  constructor
  · intro hr
    rcases foiled_or_identified l desired w.plane with
      ⟨failure, calls, hfoiled⟩ | ⟨object, id, hidentified⟩
    · exact .inl ⟨failure, calls, hfoiled.result_eq hr, hfoiled⟩
    · obtain ⟨outcome, hsettles, hresult⟩ := hidentified.result_eq hr
      exact .inr ⟨object, id, outcome, hsettles, hresult⟩
  · rintro (⟨failure, calls, rfl, hfoiled⟩ | ⟨object, id, outcome, hsettles, rfl⟩)
    · obtain ⟨after, -, hrun⟩ := create_of_foiled hfoiled
      exact ⟨l.patience, after, hrun⟩
    -- Nothing before the wait takes patience, so what the wait needs is enough for it all.
    · have hheld : ((l.readBackWorld desired w object).noted (.provisioning id)).clock.Holds
          (l.changeWithin l.binding.change l.timeouts.create).limit := hsettles.held
      obtain ⟨patience, after, hawait⟩ := exists_await hheld hsettles.comes
      obtain ⟨after', -, hsettle⟩ := settleIn_of_await hawait
      exact ⟨patience, after',
        (create_of_identified (hsettles.toIdentified.withPatience patience)).trans hsettle⟩

/-- The patience decides whether a creation has a result, not which. -/
theorem Creates.unique (hr : l.Creates desired w r) (hr' : l.Creates desired w r') : r = r' := by
  rcases foiled_or_identified l desired w.plane with
    ⟨failure, calls, hfoiled⟩ | ⟨object, id, hidentified⟩
  · rw [hfoiled.result_eq hr, hfoiled.result_eq hr']
  · obtain ⟨outcome, hsettles, rfl⟩ := hidentified.result_eq hr
    obtain ⟨outcome', hsettles', rfl⟩ := hidentified.result_eq hr'
    rw [hsettles.comes.unique hsettles'.comes]

/-- The failures of a creation are those that foil it and those that its wait comes to. -/
theorem fails_iff : l.Fails desired w failure
    ↔ (∃ calls, l.Foiled desired w.plane failure calls)
      ∨ ∃ object id outcome, l.Settles desired w object id outcome
        ∧ .error failure = l.provisioned desired id outcome := by
  constructor
  · intro h
    match failure, h with
    | .invalidDocument _, ⟨rfl, hvalid⟩ => exact .inl ⟨_, .invalid hvalid⟩
    | .alreadyExists _ _, ⟨rfl, hvalid, existing, hpresent, rfl⟩ =>
      exact .inl ⟨_, .taken hvalid hpresent⟩
    | .binding _ _ _, ⟨rfl, rfl, hvacant, herror⟩ => exact .inl ⟨_, .unexpanded hvacant herror⟩
    | .vanished _, ⟨rfl, object, e, haccepted, herror, hmissing⟩ =>
      exact .inl ⟨_, .lost haccepted herror hmissing⟩
    | .missingId _, ⟨rfl, object, found, haccepted, hfound, hid⟩ =>
      exact .inl ⟨_, .nameless haccepted hfound hid⟩
    | .provisioningFailed _ _ _, ⟨rfl, rfl, object, id, hsettles⟩ =>
      exact .inr ⟨object, id, _, hsettles, rfl⟩
    | .timedOut _ _ _ _, ⟨rfl, rfl, rfl, object, id, hsettles⟩ =>
      exact .inr ⟨object, id, _, hsettles, rfl⟩
    | .remote .checkForExisting _ _, ⟨rfl, hvalid, herror, hother⟩ =>
      exact .inl ⟨_, .unchecked hvalid herror hother⟩
    | .remote .write _ _, ⟨rfl, object, hissued, herror⟩ =>
      exact .inl ⟨_, .unwritten hissued herror⟩
    | .remote .readBack _ _, ⟨rfl, object, haccepted, herror, hother⟩ =>
      exact .inl ⟨_, .unread haccepted herror hother⟩
    | .remote .poll _ _, ⟨rfl, object, id, hsettles⟩ =>
      exact .inr ⟨object, id, _, hsettles, rfl⟩
  · rintro (⟨calls, hfoiled⟩ | ⟨object, id, outcome, hsettles, hresult⟩)
    · cases hfoiled with
      | invalid hvalid => exact ⟨rfl, hvalid⟩
      | taken hvalid hpresent => exact ⟨rfl, hvalid, _, hpresent, rfl⟩
      | unchecked hvalid herror hother => exact ⟨rfl, hvalid, herror, hother⟩
      | unexpanded hvacant herror => exact ⟨rfl, rfl, hvacant, herror⟩
      | unwritten hissued herror => exact ⟨rfl, _, hissued, herror⟩
      | lost haccepted herror hmissing => exact ⟨rfl, _, _, haccepted, herror, hmissing⟩
      | unread haccepted herror hother => exact ⟨rfl, _, haccepted, herror, hother⟩
      | nameless haccepted hfound hid => exact ⟨rfl, _, _, haccepted, hfound, hid⟩
    · match outcome with
      | .error e =>
        cases hresult
        exact ⟨rfl, object, id, hsettles⟩
      | .ok (.succeeded state) => cases hresult
      | .ok (.failed state) =>
        cases hresult
        exact ⟨rfl, rfl, object, id, hsettles⟩
      | .ok (.timedOut last) =>
        cases hresult
        exact ⟨rfl, rfl, rfl, object, id, hsettles⟩

end Results

/-- A creation comes to what the answers of the plane say. The document is checked before anything
is called; an object is written only where there is none, once, and never deleted; there is an
identifier if the write was accepted, the object was read back with it, and the polls that follow
come to a target in time; and each failure has its own cause. Where there is an identifier to wait
for and the clock cannot hold the deadline, there is no result, for the creation breaks off before
the first poll. -/
theorem create_result_iff (l : Lifecycle σ Doc Obj) (desired : Doc) (w : World σ Obj) :
    ((l.binding.report desired).isValid = false → l.create desired w
      = .error (.failed (.invalidDocument (l.binding.report desired))) w)
    ∧ ((l.binding.report desired).isValid = true →
      ∃ rest, (left (l.create desired) w).calls = w.calls ++ l.checkCall desired w.plane :: rest
        ∧ l.Sequel desired w.plane rest)
    ∧ (∀ id, l.Creates desired w (.ok id)
      ↔ ∃ object state, l.Settles desired w object id (.ok (.succeeded state)))
    ∧ (∀ failure, l.Creates desired w (.error failure) ↔ l.Fails desired w failure)
    ∧ (∀ r r', l.Creates desired w r → l.Creates desired w r' → r = r')
    ∧ ∀ object id, l.Identified desired w.plane object id →
      ¬ (l.readBackWorld desired w object).clock.Holds l.timeouts.create →
      ∀ patience, ({ l with patience } : Lifecycle σ Doc Obj).create desired w
        = .error (.endless .beyondClock)
          ((l.readBackWorld desired w object).noted (.provisioning id)) := by
  refine ⟨fun hinvalid => run_bind_of_error (validate_of_invalid hinvalid), calls_create, ?_, ?_,
    fun _ _ => Creates.unique,
    fun _ _ hidentified hheld patience =>
      create_of_not_held (hidentified.withPatience patience) hheld⟩
  · intro id
    rw [creates_iff]
    constructor
    · rintro (⟨failure, -, hresult, -⟩ | ⟨object, id', outcome, hsettles, hresult⟩)
      · cases hresult
      · match outcome with
        | .error _ => cases hresult
        | .ok (.succeeded state) =>
          cases hresult
          exact ⟨object, state, hsettles⟩
        | .ok (.failed _) => cases hresult
        | .ok (.timedOut _) => cases hresult
    · rintro ⟨object, state, hsettles⟩
      exact .inr ⟨object, id, _, hsettles, rfl⟩
  · intro failure
    rw [creates_iff, fails_iff]
    refine or_congr ?_ Iff.rfl
    constructor
    · rintro ⟨_, calls, ⟨⟩, hfoiled⟩
      exact ⟨calls, hfoiled⟩
    · rintro ⟨calls, hfoiled⟩
      exact ⟨failure, calls, rfl, hfoiled⟩

/-- The creation of a service where there is none, on a plane that is done with it at once. -/
theorem create_result_web : ∃ object id state,
    (Kind.service.lifecycle .default 1).Settles (Document.Service.least "web") (emptyWorld _) object
      id (.ok (.succeeded state)) := by
  obtain ⟨id, after, h⟩ := exists_of_succeeds
    (x := (Kind.service.lifecycle .default 1).create (Document.Service.least "web"))
    (w := emptyWorld _) (by decide +kernel)
  obtain ⟨-, -, hok, -⟩ := create_result_iff (Kind.service.lifecycle .default 1)
    (Document.Service.least "web") (emptyWorld _)
  obtain ⟨object, state, hsettles⟩ := (hok id).mp ⟨1, after, h⟩
  exact ⟨object, id, state, hsettles⟩

end Provisioning.Lifecycle
