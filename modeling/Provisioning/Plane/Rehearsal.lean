import Provisioning.Plane.Store

/-!
A simulated plane that is told, call by call, how to misbehave: answers that come late, fail, say
that an object is missing, or are made up altogether. Each kind of call has its own list of cues,
and a call without a cue goes straight through.
-/

namespace Provisioning

/-- What a call does instead of going straight through. -/
inductive Act (Obj : Type) where
  /-- The plane is asked. -/
  | ask
  /-- The call is rejected for the given reason. -/
  | fail (reason : String)
  /-- The object is said to be missing. -/
  | missing
  /-- The given object is the answer to a `get`. -/
  | give (object : Obj)
  /-- The call is said to be done, but is not. -/
  | ignore
  /-- The plane is asked, and its answer to a `get` loses the member at the given path. -/
  | drop (path : List String)

/-- The cue for one call: how long it takes, and what it does. -/
structure Cue (Obj : Type) where
  delay : Millis
  act : Act Obj

/-- A simulated plane with the cues for the calls to come. -/
structure Rehearsal (Obj : Type) where
  store : Store Obj
  getCues : List (Cue Obj)
  putCues : List (Cue Obj)
  deleteCues : List (Cue Obj)
  /-- How many times `get` was called. -/
  gets : Nat

namespace Json

/-- A value without the member at a path. -/
def without : List String → Json → Json
  | [name], .obj members => .obj (members.filter fun m => m.1 != name)
  | name :: path, .obj members =>
    .obj (members.map fun m => if m.1 == name then (name, without path m.2) else m)
  | _, value => value

end Json

namespace Rehearsal

variable {Obj : Type}

/-- The cue of a call that goes straight through. -/
def straight : Cue Obj := ⟨0, .ask⟩

/-- The next of some cues. -/
def next (cues : List (Cue Obj)) : Cue Obj := cues.head?.getD straight

variable [Managed Obj]

/-- The object that is left when the member at a path is dropped. -/
def dropped (path : List String) (object : Obj) : Obj :=
  match Managed.decode ((Managed.toJson object).without path).toSource with
  | .ok smaller => smaller
  | .error _ => object

/-- The rejection of any call. -/
def rejection (Obj : Type) [Managed Obj] (key : NaturalKey) (reason : String) : ClientError :=
  .rejected Client.writing (Managed.describe Obj key) reason

/-- A `get` that follows its cue. -/
def get (key : NaturalKey) (r : Rehearsal Obj) : Answer (Rehearsal Obj) (Except ClientError Obj) :=
  let cue := next r.getCues
  let cued : Rehearsal Obj := { r with getCues := r.getCues.tail, gets := r.gets + 1 }
  let asked := cued.store.get key
  let after : Rehearsal Obj := { cued with store := asked.2 }
  match cue.act with
  | .fail reason => ⟨cue.delay, .error (rejection Obj key reason), cued, cued⟩
  | .missing => ⟨cue.delay, .error (Store.missing Obj key), cued, cued⟩
  | .give object => ⟨cue.delay, .ok object, cued, cued⟩
  | .drop path => ⟨cue.delay, asked.1.map (dropped path), after, cued⟩
  | .ask => ⟨cue.delay, asked.1, after, cued⟩
  | .ignore => ⟨cue.delay, asked.1, after, cued⟩

/-- A `put` that follows its cue. -/
def put (key : NaturalKey) (object : Obj) (r : Rehearsal Obj) :
    Answer (Rehearsal Obj) (Except ClientError Obj) :=
  let cue := next r.putCues
  let cued : Rehearsal Obj := { r with putCues := r.putCues.tail }
  let asked := cued.store.put key object
  match cue.act with
  | .fail reason => ⟨cue.delay, .error (rejection Obj key reason), cued, cued⟩
  | .missing => ⟨cue.delay, .error (Store.missing Obj key), cued, cued⟩
  | .ignore => ⟨cue.delay, .ok object, cued, cued⟩
  | _ => ⟨cue.delay, asked.1, { cued with store := asked.2 }, cued⟩

/-- A `delete` that follows its cue. -/
def delete (key : NaturalKey) (r : Rehearsal Obj) :
    Answer (Rehearsal Obj) (Except ClientError Unit) :=
  let cue := next r.deleteCues
  let cued : Rehearsal Obj := { r with deleteCues := r.deleteCues.tail }
  let asked := cued.store.delete key
  match cue.act with
  | .fail reason => ⟨cue.delay, .error (rejection Obj key reason), cued, cued⟩
  | .missing => ⟨cue.delay, .error (Store.missing Obj key), cued, cued⟩
  | .ignore => ⟨cue.delay, .ok (), cued, cued⟩
  | _ => ⟨cue.delay, asked.1, { cued with store := asked.2 }, cued⟩

/-- Calls to a plane in rehearsal. -/
def client (Obj : Type) [Managed Obj] : Client (Rehearsal Obj) Obj where
  subscription := Store.subscription
  get := get
  put := put
  delete := delete

end Rehearsal

end Provisioning
