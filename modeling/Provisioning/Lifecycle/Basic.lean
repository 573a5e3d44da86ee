import Provisioning.Lifecycle.Failure
import Provisioning.Lifecycle.Journal
import Provisioning.Wait

/-!
The life cycle of a managed object: created, read, changed, deleted, and brought in line with a
document. An operation acts on a world, which is the management plane, a clock and a journal; it
keeps nothing from one time to the next but the identifier that it returns.
-/

namespace Provisioning

/-- What operations act on. -/
structure World (σ Obj : Type) where
  plane : σ
  clock : Clock
  journal : List (Entry Obj)

/-- Why an operation has no result. -/
inductive Stop where
  | failed (failure : Failure)
  /-- A wait has no end from which the operation could go on. -/
  | endless (why : Endless)

/-- An operation on a world. -/
abbrev Operation (σ Obj : Type) := EStateM Stop (World σ Obj)

/-- How objects of one type are looked after. -/
structure Lifecycle (σ Doc Obj : Type) where
  binding : Binding Doc Obj
  client : Client σ Obj
  timeouts : Timeouts
  /-- The greatest number of looks that a wait may take. A wait with pauses takes no more than its
  limit has milliseconds. -/
  patience : Nat

/-- What `apply` comes to. -/
structure Applied (Doc : Type) where
  id : String
  plan : Plan
  /-- The document read when the plan was carried out. -/
  configuration : Doc

namespace Lifecycle

variable {σ Doc Obj : Type}

/-! ### Steps of operations -/

/-- Ends an operation with a failure. -/
def fail {α : Type} (failure : Failure) : Operation σ Obj α := throw (.failed failure)

/-- Notes some things in the journal. -/
def noteAll (notes : List Note) : Operation σ Obj Unit :=
  modify fun w => { w with journal := w.journal ++ notes.map .note }

/-- Notes something in the journal. -/
def note (n : Note) : Operation σ Obj Unit := noteAll [n]

/-- Makes a call and waits for its answer, however long it takes. -/
def call {α : Type} (ask : σ → Answer σ α) (entry : α → Call Obj) : Operation σ Obj α :=
  modifyGet fun w =>
    let answer := ask w.plane
    (answer.value,
      { plane := answer.next
        clock := w.clock.after answer.delay
        journal := w.journal ++ [.call (entry answer.value)] })

variable (l : Lifecycle σ Doc Obj)

/-- Reads the object under a key. -/
def get (key : NaturalKey) : Operation σ Obj (Except ClientError Obj) :=
  call (l.client.get key) fun answer => .get key (some answer)

/-- One read of a watch. What is done to the clock is up to the watch. -/
def look (key : NaturalKey) (w : World σ Obj) : Answer (World σ Obj) (Except ClientError Obj) :=
  let answer := l.client.get key w.plane
  { delay := answer.delay
    value := answer.value
    next := { w with
      plane := answer.next
      journal := w.journal ++ [.call (.get key (some answer.value))] }
    abandoned := { w with
      plane := answer.abandoned
      journal := w.journal ++ [.call (.get key none)] } }

/-- Keeps a watch on the world. -/
def keep {α γ β : Type} (watch : Watch (World σ Obj) α γ β) : Operation σ Obj (Watched γ β) :=
  fun w =>
    match watch.start w.clock l.patience w with
    | .ok e => .ok e.result { e.state with clock := w.clock.after e.elapsed }
    | .error why => .error (.endless why) w

/-- Refuses a document that something is wrong with. -/
def validate (desired : Doc) : Operation σ Obj Unit :=
  let report := l.binding.report desired
  if report.isValid then pure () else fail (.invalidDocument report)

/-- The object that a document describes. -/
def expand (key : NaturalKey) (desired : Doc) : Operation σ Obj Obj :=
  match l.binding.expand desired with
  | .ok object => pure object
  | .error e => fail (.binding .expand key e)

/-- What is noted before an object is written. Secrets stay out of it. -/
def writeNotes [Managed Obj] (key : NaturalKey) (object : Obj) : List Note :=
  .sending key (Managed.toJson (Managed.scrub object))
    :: (l.client.announce key object).map .announced

/-- Writes an object. -/
def write [Managed Obj] (key : NaturalKey) (object : Obj) : Operation σ Obj Unit := do
  noteAll (l.writeNotes key object)
  match ← call (l.client.put key object) fun answer => .put key object answer with
  | .ok _ => pure ()
  | .error e => fail (.remote .write key e)

/-- The key that an identifier names, if it is the identifier of an object of the type. -/
def keyOf (Obj : Type) [Managed Obj] (id : String) : Except Failure NaturalKey :=
  match ResourceId.parse id with
  | .error e => .error (.invalidId e)
  | .ok resource =>
    if resource.isType (Managed.type Obj) then .ok resource.naturalKey else .error (.wrongType id)

/-- The key that an identifier names, or the end of the operation. -/
def parseId [Managed Obj] (id : String) : Operation σ Obj NaturalKey :=
  match keyOf Obj id with
  | .ok key => pure key
  | .error failure => fail failure

end Lifecycle

end Provisioning
