import Provisioning.Lifecycle.Basic

/-!
The operations on a managed object. Documents and identifiers are checked before anything is
called; an object is created only where there is none; and whatever was written is waited for.
-/

namespace Provisioning.Lifecycle

variable {σ Doc Obj : Type} [Managed Obj] (l : Lifecycle σ Doc Obj)

/-! ### Waiting -/

/-- A change of state that an object has to go through within a limit. -/
def changeWithin (change : StateChange) (limit : Millis) : StateChange :=
  { change with limit := limit, interval := l.timeouts.poll }

/-- One poll of the state of an object. An object without a state has nothing left to do. -/
def pollState (key : NaturalKey) (w : World σ Obj) :
    Answer (World σ Obj) (Except ClientError State) :=
  (l.look key w).map fun answer => answer.map fun object => (Managed.state object).getD .succeeded

/-- Waits for an object to go through a change of state. -/
def await (key : NaturalKey) (change : StateChange) : Operation σ Obj State := do
  let watched ← l.keep (change.watch fun _ => l.pollState key)
  match StateChange.outcome watched with
  | .error e => fail (.remote .poll key e)
  | .ok (.succeeded state) => return state
  | .ok (.failed state) => fail (.provisioningFailed key state change.expected)
  | .ok (.timedOut last) => fail (.timedOut key .provisioned change.limit last)

/-- What a read says to one who waits for an object to go away. -/
def judgeDeletion : Except ClientError Obj → Verdict (Option State) (Except ClientError Unit)
  | .error e => .settled (if e.isNotFound then .ok () else .error e)
  | .ok object => .pending (Managed.state object)

/-- The watch on an object that is being deleted. The pause after a read is at most what was left
before it. -/
def deletionWatch (key : NaturalKey) :
    Watch (World σ Obj) (Except ClientError Obj) (Option State) (Except ClientError Unit) where
  limit := l.timeouts.delete
  look _ := l.look key
  judge := judgeDeletion
  pause before _ := min l.timeouts.poll before

/-- Waits for an object to go away. -/
def awaitDeletion (key : NaturalKey) : Operation σ Obj Unit := do
  match ← l.keep (l.deletionWatch key) with
  | .settled (.ok ()) => return ()
  | .settled (.error e) => fail (.remote .awaitDeletion key e)
  | .expired last => fail (.timedOut key .deleted l.timeouts.delete last.join)

/-! ### Creating, reading, changing, deleting -/

/-- Fails unless there is no object under a key. -/
def ensureAbsent (key : NaturalKey) : Operation σ Obj Unit := do
  match ← l.get key with
  | .ok object => fail (.alreadyExists key ((Managed.id object).getD ""))
  | .error e => if e.isNotFound then return () else fail (.remote .checkForExisting key e)

/-- The identifier of an object that was just written. Every later operation needs it. -/
def readBackId (key : NaturalKey) : Operation σ Obj String := do
  match ← l.get key with
  | .error e => if e.isNotFound then fail (.vanished key) else fail (.remote .readBack key e)
  | .ok object =>
    match Managed.id object with
    | some id => return id
    | none => fail (.missingId key)

/-- Creates the object that a document describes, waits until it is provisioned, and returns its
identifier. An object that is there already is never taken over. -/
def create (desired : Doc) : Operation σ Obj String := do
  l.validate desired
  let key := l.binding.key desired
  l.ensureAbsent key
  let object ← l.expand key desired
  note (.creating key)
  l.write key object
  let id ← l.readBackId key
  note (.provisioning id)
  let state ← l.await key (l.changeWithin l.binding.change l.timeouts.create)
  note (.created id state)
  return id

/-- Reads the object of an identifier as a document, if there is one. The earlier document serves
to fill in what no object gives out. -/
def read (id : String) (prior : Option Doc) : Operation σ Obj (Option Doc) := do
  let key ← parseId id
  match ← l.get key with
  | .error e =>
    if e.isNotFound then
      note (.gone id)
      return none
    else fail (.remote .read key e)
  | .ok object =>
    match l.binding.flatten key object prior with
    | .ok document => return some document
    | .error e => fail (.binding .flatten key e)

/-- Changes the object of an identifier in place and waits until it is provisioned. -/
def update (id : String) (desired : Doc) : Operation σ Obj String := do
  if !l.binding.updatable then fail .updateNotSupported
  l.validate desired
  let key ← parseId id
  let documentKey := l.binding.key desired
  if key ≠ documentKey then fail (.keyMismatch id key documentKey)
  let object ← l.expand key desired
  note (.updating id)
  l.write key object
  let state ← l.await key (l.changeWithin l.binding.updateChange l.timeouts.update)
  note (.updated id state)
  return id

/-- Deletes the object of an identifier and waits until it is gone. An object that is not there
counts as deleted. -/
def delete (id : String) : Operation σ Obj Unit := do
  let key ← parseId id
  note (.deleting id)
  match ← call (l.client.delete key) fun answer => .delete key answer with
  | .error e =>
    if e.isNotFound then note (.alreadyDeleted id) else fail (.remote .delete key e)
  | .ok () =>
    l.awaitDeletion key
    note (.deleted id)

/-! ### Bringing an object in line with a document -/

/-- What `apply` would do, given the identifier of an earlier `apply`. -/
def plan (id : Option String) (desired : Doc) (prior : Option Doc) : Operation σ Obj Plan := do
  l.validate desired
  match id with
  | none => return .create
  | some id =>
    match ← l.read id prior with
    | none => return .create
    | some current => return .ofDiff l.binding.updatable (l.binding.diff current desired)

/-- Does what a plan says, and returns the identifier of the object afterwards. -/
def carryOut (id : Option String) (desired : Doc) (plan : Plan) : Operation σ Obj String :=
  match plan, id with
  | .noOp, some id => return id
  | .update _, some id => l.update id desired
  | .replace _, some id => do
    l.delete id
    l.create desired
  | _, _ => l.create desired

/-- Brings the object in line with a document: plans, does it, and reads the object back. The
document just sent serves as the earlier one, for it has the secrets. -/
def apply (id : Option String) (desired : Doc) (prior : Option Doc) :
    Operation σ Obj (Applied Doc) := do
  let plan ← l.plan id desired prior
  note (.planned (l.binding.key desired) plan)
  let id ← l.carryOut id desired plan
  match ← l.read id (some desired) with
  | some configuration => return { id, plan, configuration }
  | none => fail (.vanished (l.binding.key desired))

end Provisioning.Lifecycle
