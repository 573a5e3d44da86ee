import Provisioning.Plane.Client

/-!
A simulated management plane. It keeps the object that was last written under each key, assigns
identifiers and computed fields as it is written, gives no secrets out, and reports provisioning
states from a script: each successful `get` says the next one and leaves it on the object. Without
a script every write is done at once.
-/

namespace Provisioning

/-! ### Scripts -/

/-- What something says each time it is asked: the lines that are still to be said. The last one is
said again and again, so a script runs out only if it never had a line. -/
structure Script (α : Type) where
  lines : List α
deriving DecidableEq

namespace Script

variable {α : Type}

/-- The script without lines. -/
def silent : Script α := ⟨[]⟩

/-- The line that is said next. -/
def line? (s : Script α) : Option α := s.lines.head?

/-- The script after its next line was said. -/
def rest (s : Script α) : Script α :=
  match s.lines with
  | _ :: line :: lines => ⟨line :: lines⟩
  | lines => ⟨lines⟩

/-- What a script of timed lines answers; `silence` is the answer of one without lines. -/
def answer (silence : α) (s : Script (Millis × α)) : Answer (Script (Millis × α)) α :=
  match s.line? with
  | some (delay, value) => ⟨delay, value, s.rest, s.rest⟩
  | none => .now silence s

theorem line?_eq_none_iff (s : Script α) : s.line? = none ↔ s = silent := by
  cases s with | mk lines => cases lines <;> simp [line?, silent]

@[simp] theorem rest_silent : (silent : Script α).rest = silent := rfl

@[simp] theorem rest_single (a : α) : (⟨[a]⟩ : Script α).rest = ⟨[a]⟩ := rfl

end Script

/-! ### The plane -/

/-- The state of a simulated plane. -/
structure Store (Obj : Type) where
  objects : NaturalKey → Option Obj
  script : Script State
  /-- Why writes are rejected, if they are. -/
  refusal : Option String
  /-- How many times `get` was called. -/
  gets : Nat

namespace Store

variable {Obj : Type}

/-- The plane without objects. -/
def empty (script : Script State) (refusal : Option String) : Store Obj :=
  ⟨fun _ => none, script, refusal, 0⟩

/-- The objects with one put under a key, or none. -/
def assign (objects : NaturalKey → Option Obj) (key : NaturalKey) (object : Option Obj) :
    NaturalKey → Option Obj :=
  fun k => if k = key then object else objects k

@[simp] theorem assign_self (objects : NaturalKey → Option Obj) (key : NaturalKey)
    (object : Option Obj) : assign objects key object key = object := by
  simp [assign]

theorem assign_of_ne {k key : NaturalKey} (h : k ≠ key) (objects : NaturalKey → Option Obj)
    (object : Option Obj) : assign objects key object k = objects k := by
  simp [assign, h]

variable [Managed Obj]

/-- The subscription of a simulated plane. -/
def subscription : String := "00000000-0000-0000-0000-000000000000"

/-- The identifier of the object under a key. -/
def idFor (Obj : Type) [Managed Obj] (key : NaturalKey) : String :=
  (Managed.idFor Obj subscription key).text

/-- The error that there is no object under a key. -/
def missing (Obj : Type) [Managed Obj] (key : NaturalKey) : ClientError :=
  .notFound (Managed.describe Obj key)

/-- The object under a key, without the script being asked. -/
def peek (s : Store Obj) (key : NaturalKey) : Option Obj := s.objects key

/-- The plane with an object under a key, as if someone else had put it there. -/
def insert (s : Store Obj) (key : NaturalKey) (object : Obj) : Store Obj :=
  { s with objects := assign s.objects key (some (Managed.withId (idFor Obj key) object)) }

/-- The object with the next state of the script. -/
def report (s : Store Obj) (object : Obj) : Obj :=
  match s.script.line? with
  | some state => Managed.withState state object
  | none => object

/-- The object under a key, in the next state of the script. -/
def get (s : Store Obj) (key : NaturalKey) : Except ClientError Obj × Store Obj :=
  match s.objects key with
  | none => (.error (missing Obj key), { s with gets := s.gets + 1 })
  | some object =>
    let reported := s.report object
    (.ok reported,
      { s with
        objects := assign s.objects key (some reported)
        script := s.script.rest
        gets := s.gets + 1 })

/-- The state of an object that was just written. -/
def writtenState (s : Store Obj) (key : NaturalKey) : State :=
  if s.script.line?.isNone then .succeeded
  else if (s.objects key).isNone then .creating
  else .updating

/-- The object as it is kept when it is written under a key. -/
def kept (s : Store Obj) (key : NaturalKey) (object : Obj) : Obj :=
  Managed.withState (s.writtenState key)
    (Managed.scrub (Managed.populate key (Managed.withId (idFor Obj key) object)))

/-- Writes an object, unless writes are rejected. -/
def put (s : Store Obj) (key : NaturalKey) (object : Obj) :
    Except ClientError Obj × Store Obj :=
  match s.refusal with
  | some reason => (.error (.rejected Client.writing (Managed.describe Obj key) reason), s)
  | none =>
    let stored := s.kept key object
    (.ok stored, { s with objects := assign s.objects key (some stored) })

/-- Deletes the object under a key. -/
def delete (s : Store Obj) (key : NaturalKey) : Except ClientError Unit × Store Obj :=
  match s.objects key with
  | none => (.error (missing Obj key), s)
  | some _ => (.ok (), { s with objects := assign s.objects key none })

/-- Calls to a simulated plane, which answers at once. -/
def client (Obj : Type) [Managed Obj] : Client (Store Obj) Obj where
  subscription := subscription
  get key s := let (result, after) := s.get key; .now result after
  put key object s := let (result, after) := s.put key object; .now result after
  delete key s := let (result, after) := s.delete key; .now result after

end Store

end Provisioning
