import Provisioning.Proofs.Lifecycle.Calls

/-!
Creations, whatever the plane answers. A creation is foiled (`Foiled`) by what is wrong with its
document or by the answer to one of its first three calls, or it gets the identifier of the object
that it wrote (`Identified`), and then waits. There is one case for each way, told by the
answers alone, with the calls that are made on it.
-/

namespace Provisioning.Lifecycle

variable {σ Doc Obj : Type} [Managed Obj]

/-! ### What the plane answers -/

section Answers

variable (l : Lifecycle σ Doc Obj) (desired : Doc) (s : σ)

/-- The answer to the look for an object that is there already. -/
def checkAnswer : Answer σ (Except ClientError Obj) := l.client.get (l.binding.key desired) s

/-- The answer to the write of an object after the look. -/
def writeAnswer (object : Obj) : Answer σ (Except ClientError Obj) :=
  l.client.put (l.binding.key desired) object (l.checkAnswer desired s).next

/-- The answer to the read after the write. -/
def readBackAnswer (object : Obj) : Answer σ (Except ClientError Obj) :=
  l.client.get (l.binding.key desired) (l.writeAnswer desired s object).next

/-- How the polls of the wait after the read come out. -/
def Provisioned (object : Obj) (outcome : Except ClientError Settled) : Prop :=
  (l.changeWithin l.binding.change l.timeouts.create).Comes (l.poll (l.binding.key desired))
    (l.readBackAnswer desired s object).next outcome

/-- The document is valid, and its object is said not to be there. -/
structure Vacant : Prop where
  valid : (l.binding.report desired).isValid = true
  absent : ∃ e, (l.checkAnswer desired s).value = .error e ∧ e.isNotFound = true

/-- An object is sent: the one that the document describes, where there is none. -/
structure Issued (object : Obj) : Prop extends Vacant l desired s where
  expanded : l.binding.expand desired = .ok object

/-- The write of an object is accepted. -/
structure Accepted (object : Obj) : Prop extends Issued l desired s object where
  accepted : ∃ stored, (l.writeAnswer desired s object).value = .ok stored

/-- The object that was written is read back, and has an identifier. -/
structure Identified (object : Obj) (id : String) : Prop extends Accepted l desired s object where
  identified : ∃ found, (l.readBackAnswer desired s object).value = .ok found
    ∧ Managed.id found = some id

/-- The look for an object that is there already. -/
def checkCall : Call Obj := .get (l.binding.key desired) (some (l.checkAnswer desired s).value)

/-- The write of an object. -/
def writeCall (object : Obj) : Call Obj :=
  .put (l.binding.key desired) object (l.writeAnswer desired s object).value

/-- The read after a write. -/
def readBackCall (object : Obj) : Call Obj :=
  .get (l.binding.key desired) (some (l.readBackAnswer desired s object).value)

/-- The ways in which a creation fails before it waits, with the calls made until then. -/
inductive Foiled : Failure → List (Call Obj) → Prop
  | invalid (hvalid : (l.binding.report desired).isValid = false) :
      Foiled (.invalidDocument (l.binding.report desired)) []
  | taken {existing : Obj} (hvalid : (l.binding.report desired).isValid = true)
      (hpresent : (l.checkAnswer desired s).value = .ok existing) :
      Foiled (.alreadyExists (l.binding.key desired) ((Managed.id existing).getD ""))
        [l.checkCall desired s]
  | unchecked {e : ClientError} (hvalid : (l.binding.report desired).isValid = true)
      (herror : (l.checkAnswer desired s).value = .error e) (hother : e.isNotFound = false) :
      Foiled (.remote .checkForExisting (l.binding.key desired) e) [l.checkCall desired s]
  | unexpanded {e : BindingError} (hvacant : l.Vacant desired s)
      (herror : l.binding.expand desired = .error e) :
      Foiled (.binding .expand (l.binding.key desired) e) [l.checkCall desired s]
  | unwritten {object : Obj} {e : ClientError} (hissued : l.Issued desired s object)
      (herror : (l.writeAnswer desired s object).value = .error e) :
      Foiled (.remote .write (l.binding.key desired) e)
        [l.checkCall desired s, l.writeCall desired s object]
  | lost {object : Obj} {e : ClientError} (haccepted : l.Accepted desired s object)
      (herror : (l.readBackAnswer desired s object).value = .error e)
      (hmissing : e.isNotFound = true) :
      Foiled (.vanished (l.binding.key desired))
        [l.checkCall desired s, l.writeCall desired s object, l.readBackCall desired s object]
  | unread {object : Obj} {e : ClientError} (haccepted : l.Accepted desired s object)
      (herror : (l.readBackAnswer desired s object).value = .error e)
      (hother : e.isNotFound = false) :
      Foiled (.remote .readBack (l.binding.key desired) e)
        [l.checkCall desired s, l.writeCall desired s object, l.readBackCall desired s object]
  | nameless {object found : Obj} (haccepted : l.Accepted desired s object)
      (hfound : (l.readBackAnswer desired s object).value = .ok found)
      (hid : Managed.id found = none) :
      Foiled (.missingId (l.binding.key desired))
        [l.checkCall desired s, l.writeCall desired s object, l.readBackCall desired s object]

/-- What a creation calls after the look: one write and only reads from then on, or nothing. -/
inductive Sequel : List (Call Obj) → Prop
  | written {object : Obj} {reads : List (Call Obj)} (hissued : l.Issued desired s object)
      (hreads : ∀ c ∈ reads, c.key = l.binding.key desired ∧ c.mutates = false) :
      Sequel (l.writeCall desired s object :: reads)
  | silent (hnone : ¬ ∃ object, l.Issued desired s object) : Sequel []

end Answers

variable {l : Lifecycle σ Doc Obj} {desired : Doc} {s : σ} {w : World σ Obj} {object : Obj}
  {id : String}

/-- A creation is foiled, or gets the identifier of what it wrote. -/
theorem foiled_or_identified (l : Lifecycle σ Doc Obj) (desired : Doc) (s : σ) :
    (∃ failure calls, l.Foiled desired s failure calls)
      ∨ ∃ object id, l.Identified desired s object id := by
  cases hvalid : (l.binding.report desired).isValid with
  | false => exact .inl ⟨_, _, .invalid hvalid⟩
  | true =>
  cases hcheck : (l.checkAnswer desired s).value with
  | ok existing => exact .inl ⟨_, _, .taken hvalid hcheck⟩
  | error e =>
  cases hmissing : e.isNotFound with
  | false => exact .inl ⟨_, _, .unchecked hvalid hcheck hmissing⟩
  | true =>
  have hvacant : l.Vacant desired s := ⟨hvalid, e, hcheck, hmissing⟩
  cases hexpand : l.binding.expand desired with
  | error e => exact .inl ⟨_, _, .unexpanded hvacant hexpand⟩
  | ok object =>
  have hissued : l.Issued desired s object := ⟨hvacant, hexpand⟩
  cases hwrite : (l.writeAnswer desired s object).value with
  | error e => exact .inl ⟨_, _, .unwritten hissued hwrite⟩
  | ok stored =>
  have haccepted : l.Accepted desired s object := ⟨hissued, stored, hwrite⟩
  cases hread : (l.readBackAnswer desired s object).value with
  | error e =>
    cases hmissing : e.isNotFound with
    | false => exact .inl ⟨_, _, .unread haccepted hread hmissing⟩
    | true => exact .inl ⟨_, _, .lost haccepted hread hmissing⟩
  | ok found =>
  cases hid : Managed.id found with
  | none => exact .inl ⟨_, _, .nameless haccepted hread hid⟩
  | some id => exact .inr ⟨object, id, haccepted, found, hread, hid⟩

/-! ### The run -/

section Run

variable (l) (desired)

/-- What a creation does once it has the identifier. -/
def settleIn (id : String) : Operation σ Obj String := do
  note (.provisioning id)
  let state ← l.await (l.binding.key desired) (l.changeWithin l.binding.change l.timeouts.create)
  note (.created id state)
  return id

omit [Managed Obj] in
/-- The world after the look for an object that is there already. -/
def checkedWorld (w : World σ Obj) : World σ Obj :=
  w.called (l.checkCall desired w.plane) (l.checkAnswer desired w.plane)

/-- The world after the write. -/
def writtenWorld (w : World σ Obj) (object : Obj) : World σ Obj :=
  (((l.checkedWorld desired w).noted (.creating (l.binding.key desired))).notedAll
      (l.writeNotes (l.binding.key desired) object)).called
    (l.writeCall desired w.plane object) (l.writeAnswer desired w.plane object)

/-- The world after the read that follows the write. -/
def readBackWorld (w : World σ Obj) (object : Obj) : World σ Obj :=
  (l.writtenWorld desired w object).called (l.readBackCall desired w.plane object)
    (l.readBackAnswer desired w.plane object)

/-- The wait of a creation that has its identifier has an outcome: the clock can hold its deadline,
and the polls come out like that. -/
structure Settles (w : World σ Obj) (object : Obj) (id : String)
    (outcome : Except ClientError Settled) : Prop
    extends Identified l desired w.plane object id where
  held : (l.readBackWorld desired w object).clock.Holds l.timeouts.create
  comes : l.Provisioned desired w.plane object outcome

variable {l} {desired}

omit [Managed Obj] in
theorem calls_checkedWorld :
    (l.checkedWorld desired w).calls = w.calls ++ [l.checkCall desired w.plane] := by
  simp [checkedWorld]

theorem calls_writtenWorld : (l.writtenWorld desired w object).calls
    = w.calls ++ [l.checkCall desired w.plane, l.writeCall desired w.plane object] := by
  simp [writtenWorld, calls_checkedWorld]

theorem calls_readBackWorld : (l.readBackWorld desired w object).calls
    = w.calls ++ [l.checkCall desired w.plane, l.writeCall desired w.plane object,
      l.readBackCall desired w.plane object] := by
  simp [readBackWorld, calls_writtenWorld]

/-! The calls of a creation, each in the world that the one before it left. -/

omit [Managed Obj] in
theorem get_checked : l.get (l.binding.key desired) w
    = .ok (l.checkAnswer desired w.plane).value (l.checkedWorld desired w) := rfl

theorem put_written : call (l.client.put (l.binding.key desired) object)
      (fun answer => .put (l.binding.key desired) object answer)
      (((l.checkedWorld desired w).noted (.creating (l.binding.key desired))).notedAll
        (l.writeNotes (l.binding.key desired) object))
    = .ok (l.writeAnswer desired w.plane object).value (l.writtenWorld desired w object) := rfl

theorem get_readBack : l.get (l.binding.key desired) (l.writtenWorld desired w object)
    = .ok (l.readBackAnswer desired w.plane object).value (l.readBackWorld desired w object) := rfl

omit [Managed Obj] in
theorem validate_of_valid (h : (l.binding.report desired).isValid = true) :
    l.validate desired w = .ok () w := by
  simp only [validate, h, if_true]
  rfl

omit [Managed Obj] in
theorem validate_of_invalid (h : (l.binding.report desired).isValid = false) :
    l.validate desired w = .error (.failed (.invalidDocument (l.binding.report desired))) w := by
  simp only [validate, h]
  rfl

omit [Managed Obj] in
theorem expand_of_ok {key : NaturalKey} (h : l.binding.expand desired = .ok object) :
    l.expand key desired w = .ok object w := by
  simp only [expand, h]
  rfl

omit [Managed Obj] in
theorem expand_of_error {key : NaturalKey} {e : BindingError}
    (h : l.binding.expand desired = .error e) :
    l.expand key desired w = .error (.failed (.binding .expand key e)) w := by
  simp only [expand, h]
  rfl

end Run

/-! A creation, from as far as the answers let it go. -/

theorem create_of_valid (h : (l.binding.report desired).isValid = true) :
    l.create desired w = (do
      l.ensureAbsent (l.binding.key desired)
      let object ← l.expand (l.binding.key desired) desired
      note (.creating (l.binding.key desired))
      l.write (l.binding.key desired) object
      let id ← l.readBackId (l.binding.key desired)
      l.settleIn desired id) w :=
  run_bind_of_ok (validate_of_valid h)

theorem create_of_vacant (h : l.Vacant desired w.plane) :
    l.create desired w = (do
      let object ← l.expand (l.binding.key desired) desired
      note (.creating (l.binding.key desired))
      l.write (l.binding.key desired) object
      let id ← l.readBackId (l.binding.key desired)
      l.settleIn desired id) (l.checkedWorld desired w) := by
  obtain ⟨hvalid, e, hcheck, hmissing⟩ := h
  have hensure : l.ensureAbsent (l.binding.key desired) w = .ok () (l.checkedWorld desired w) := by
    unfold ensureAbsent
    rw [run_bind_of_ok get_checked, hcheck]
    simp only [hmissing, if_true]
    rfl
  rw [create_of_valid hvalid, run_bind_of_ok hensure]

theorem create_of_issued (h : l.Issued desired w.plane object) :
    l.create desired w = (do
      l.write (l.binding.key desired) object
      let id ← l.readBackId (l.binding.key desired)
      l.settleIn desired id)
      ((l.checkedWorld desired w).noted (.creating (l.binding.key desired))) := by
  rw [create_of_vacant h.toVacant, run_bind_of_ok (expand_of_ok h.expanded)]
  rfl

theorem create_of_accepted (h : l.Accepted desired w.plane object) :
    l.create desired w = (do
      let id ← l.readBackId (l.binding.key desired)
      l.settleIn desired id) (l.writtenWorld desired w object) := by
  obtain ⟨hissued, stored, hwrite⟩ := h
  have hdone : l.write (l.binding.key desired) object
      ((l.checkedWorld desired w).noted (.creating (l.binding.key desired)))
      = .ok () (l.writtenWorld desired w object) := by
    unfold write
    rw [run_noteAll_bind, run_bind_of_ok put_written, hwrite]
    rfl
  rw [create_of_issued hissued, run_bind_of_ok hdone]

theorem create_of_identified (h : l.Identified desired w.plane object id) :
    l.create desired w = l.settleIn desired id (l.readBackWorld desired w object) := by
  obtain ⟨haccepted, found, hread, hid⟩ := h
  have hdone : l.readBackId (l.binding.key desired) (l.writtenWorld desired w object)
      = .ok id (l.readBackWorld desired w object) := by
    unfold readBackId
    rw [run_bind_of_ok get_readBack, hread]
    simp only [hid]
    rfl
  rw [create_of_accepted haccepted, run_bind_of_ok hdone]

/-- A creation that is foiled fails accordingly, with no calls but those made until then. -/
theorem create_of_foiled {failure : Failure} {calls : List (Call Obj)}
    (h : l.Foiled desired w.plane failure calls) :
    ∃ after, after.calls = w.calls ++ calls
      ∧ l.create desired w = .error (.failed failure) after := by
  cases h with
  | invalid hvalid =>
    exact ⟨w, (List.append_nil _).symm, run_bind_of_error (validate_of_invalid hvalid)⟩
  | taken hvalid hpresent =>
    refine ⟨_, calls_checkedWorld, ?_⟩
    rw [create_of_valid hvalid]
    refine run_bind_of_error ?_
    unfold ensureAbsent
    rw [run_bind_of_ok get_checked, hpresent]
    rfl
  | unchecked hvalid herror hother =>
    refine ⟨_, calls_checkedWorld, ?_⟩
    rw [create_of_valid hvalid]
    refine run_bind_of_error ?_
    unfold ensureAbsent
    rw [run_bind_of_ok get_checked, herror]
    simp only [hother]
    rfl
  | unexpanded hvacant herror =>
    refine ⟨_, calls_checkedWorld, ?_⟩
    rw [create_of_vacant hvacant]
    exact run_bind_of_error (expand_of_error herror)
  | unwritten hissued herror =>
    refine ⟨_, calls_writtenWorld, ?_⟩
    rw [create_of_issued hissued]
    refine run_bind_of_error ?_
    unfold write
    rw [run_noteAll_bind, run_bind_of_ok put_written, herror]
    rfl
  | lost haccepted herror hmissing =>
    refine ⟨_, calls_readBackWorld, ?_⟩
    rw [create_of_accepted haccepted]
    refine run_bind_of_error ?_
    unfold readBackId
    rw [run_bind_of_ok get_readBack, herror]
    simp only [hmissing, if_true]
    rfl
  | unread haccepted herror hother =>
    refine ⟨_, calls_readBackWorld, ?_⟩
    rw [create_of_accepted haccepted]
    refine run_bind_of_error ?_
    unfold readBackId
    rw [run_bind_of_ok get_readBack, herror]
    simp only [hother]
    rfl
  | nameless haccepted hfound hid =>
    refine ⟨_, calls_readBackWorld, ?_⟩
    rw [create_of_accepted haccepted]
    refine run_bind_of_error ?_
    unfold readBackId
    rw [run_bind_of_ok get_readBack, hfound]
    simp only [hid]
    rfl

theorem settleIn_of_await {r : Except Failure State} {after : World σ Obj}
    (h : l.await (l.binding.key desired) (l.changeWithin l.binding.change l.timeouts.create)
      (w.noted (.provisioning id)) = ended r after) :
    ∃ after', after'.calls = after.calls
      ∧ l.settleIn desired id w = ended (r.map fun _ => id) after' := by
  unfold settleIn
  rw [run_note_bind]
  cases r with
  | error failure => exact ⟨after, rfl, run_bind_of_error h⟩
  | ok state => exact ⟨after.noted (.created id state), World.calls_noted _ _, run_bind_of_ok h⟩

variable (l) (desired) in
/-- What becomes of a creation that has its identifier when its wait comes out. -/
def provisioned (id : String) (outcome : Except ClientError Settled) : Except Failure String :=
  (awaited (l.binding.key desired) (l.changeWithin l.binding.change l.timeouts.create) outcome).map
    fun _ => id

/-- A creation that has its identifier only reads from then on, and comes to what the polls of its
wait say, if that has an end. -/
theorem create_settles (h : l.Identified desired w.plane object id) :
    ∃ reads after, (∀ c ∈ reads, c.key = l.binding.key desired ∧ c.mutates = false)
      ∧ after.calls = w.calls ++ l.checkCall desired w.plane :: l.writeCall desired w.plane object
        :: l.readBackCall desired w.plane object :: reads
      ∧ ((∃ why, l.create desired w = .error (.endless why) after)
        ∨ ∃ outcome, l.Settles desired w object id outcome
          ∧ l.create desired w = ended (l.provisioned desired id outcome) after) := by
  have hcalls : (l.readBackWorld desired w object).calls = w.calls ++ _ := calls_readBackWorld
  rw [create_of_identified h]
  rcases await_comes (l := l) (l.binding.key desired)
    (l.changeWithin l.binding.change l.timeouts.create)
    ((l.readBackWorld desired w object).noted (.provisioning id)) with
    ⟨why, hendless⟩ | ⟨outcome, after, hheld, hcomes, ⟨reads, hadded, hreads⟩, hawait⟩
  · refine ⟨[], (l.readBackWorld desired w object).noted (.provisioning id), nofun, ?_,
      .inl ⟨why, ?_⟩⟩
    · rw [World.calls_noted, hcalls]
    · unfold settleIn
      rw [run_note_bind]
      exact run_bind_of_error hendless
  · obtain ⟨after', hafter', hsettle⟩ := settleIn_of_await hawait
    refine ⟨reads, after', hreads, ?_, .inr ⟨outcome, ⟨h, hheld, hcomes⟩, hsettle⟩⟩
    rw [hafter', hadded, World.calls_noted, hcalls, List.append_assoc]
    rfl

/-- A creation that has its identifier breaks off, without a poll, if the clock cannot hold the
deadline of its wait. -/
theorem create_of_not_held (h : l.Identified desired w.plane object id)
    (hheld : ¬ (l.readBackWorld desired w object).clock.Holds l.timeouts.create) :
    l.create desired w = .error (.endless .beyondClock)
      ((l.readBackWorld desired w object).noted (.provisioning id)) := by
  rw [create_of_identified h]
  unfold settleIn
  rw [run_note_bind]
  exact run_bind_of_error (await_of_not_holds hheld)

/-! ### What a creation calls -/

omit [Managed Obj] in
theorem Vacant.not_ok {existing : Obj} (h : l.Vacant desired s) :
    (l.checkAnswer desired s).value ≠ .ok existing := by
  obtain ⟨e, herror, -⟩ := h.absent
  rw [herror]
  exact nofun

omit [Managed Obj] in
/-- Where the document is invalid or an object may be there, no object is sent. -/
theorem not_issued_of_not_vacant (h : ¬ l.Vacant desired s) :
    ¬ ∃ object, l.Issued desired s object :=
  fun ⟨_, hissued⟩ => h hissued.toVacant

/-- The calls of a creation that is foiled begin with the look, if the document is valid. -/
theorem Foiled.calls_eq {failure : Failure} {calls : List (Call Obj)}
    (h : l.Foiled desired s failure calls) (hvalid : (l.binding.report desired).isValid = true) :
    ∃ rest, calls = l.checkCall desired s :: rest ∧ l.Sequel desired s rest := by
  have hread {object : Obj} (c : Call Obj) (hc : c ∈ [l.readBackCall desired s object]) :
      c.key = l.binding.key desired ∧ c.mutates = false := by
    rw [List.mem_singleton.mp hc]
    exact ⟨rfl, rfl⟩
  cases h with
  | invalid hinvalid => cases hinvalid.symm.trans hvalid
  | taken _ hpresent =>
    exact ⟨[], rfl, .silent (not_issued_of_not_vacant fun hvacant => hvacant.not_ok hpresent)⟩
  | unchecked _ herror hother =>
    refine ⟨[], rfl, .silent (not_issued_of_not_vacant fun hvacant => ?_)⟩
    obtain ⟨e, herror', hmissing⟩ := hvacant.absent
    cases herror.symm.trans herror'
    cases hother.symm.trans hmissing
  | unexpanded _ herror =>
    refine ⟨[], rfl, .silent ?_⟩
    rintro ⟨object, hissued⟩
    cases herror.symm.trans hissued.expanded
  | unwritten hissued _ => exact ⟨_, rfl, .written hissued nofun⟩
  | lost haccepted _ _ => exact ⟨_, rfl, .written haccepted.toIssued hread⟩
  | unread haccepted _ _ => exact ⟨_, rfl, .written haccepted.toIssued hread⟩
  | nameless haccepted _ _ => exact ⟨_, rfl, .written haccepted.toIssued hread⟩

/-- The creation of a valid document looks for an object first. If there is none and the document
has one, it writes that once, and only reads from then on. -/
theorem calls_create (hvalid : (l.binding.report desired).isValid = true) :
    ∃ rest, (left (l.create desired) w).calls = w.calls ++ l.checkCall desired w.plane :: rest
      ∧ l.Sequel desired w.plane rest := by
  rcases foiled_or_identified l desired w.plane with
    ⟨failure, calls, hfoiled⟩ | ⟨object, id, hidentified⟩
  · obtain ⟨rest, rfl, hsequel⟩ := hfoiled.calls_eq hvalid
    obtain ⟨after, hcalls, hrun⟩ := create_of_foiled hfoiled
    refine ⟨rest, ?_, hsequel⟩
    rw [left, hrun]
    exact hcalls
  · obtain ⟨reads, after, hreads, hcalls, hrun⟩ := create_settles hidentified
    have hleft : left (l.create desired) w = after := by
      rcases hrun with ⟨why, hrun⟩ | ⟨outcome, -, hrun⟩
      · rw [left, hrun]
      · exact left_of_ended hrun
    -- The read after the write and the polls are alike here.
    have hall : ∀ c ∈ l.readBackCall desired w.plane object :: reads,
        c.key = l.binding.key desired ∧ c.mutates = false := by
      intro c hc
      rcases List.mem_cons.mp hc with rfl | hc
      · exact ⟨rfl, rfl⟩
      · exact hreads c hc
    rw [hleft]
    exact ⟨_, hcalls, .written hidentified.toIssued hall⟩

end Provisioning.Lifecycle
