import Provisioning.Binding.Basic
import Provisioning.Json
import Provisioning.Json.Writer
import Provisioning.Plane.Client
import Provisioning.Text.Quoted

/-!
Plans, and the journal of an operation. A plan is what it takes to bring an object in line with a
document. The journal has the calls that an operation made, with their answers, and what it noted
for the log, in the order in which all that happened.
-/

namespace Provisioning

/-! ### Plans -/

/-- What is to be done. -/
inductive Plan where
  /-- There is no object yet. -/
  | create
  /-- The object is as the document wants it. -/
  | noOp
  /-- The fields are changed in place. -/
  | update (fields : List String)
  /-- The object is deleted and created again, for the sake of the fields. -/
  | replace (fields : List String)
deriving DecidableEq

namespace Plan

/-- The plan for a difference: nothing where there is none, and a replacement where some field or
the whole type cannot be changed in place. -/
def ofDiff (updatable : Bool) (d : Diff) : Plan :=
  if d.isEmpty then .noOp
  else if d.requiresReplacement || !updatable then .replace d.fields
  else .update d.update

/-- A plan as JSON. -/
def toJson : Plan → Json
  | create => .obj [("action", .str "create")]
  | noOp => .obj [("action", .str "no_op")]
  | update fields => .obj [("action", .str "update"), ("fields", .ofList .str fields)]
  | replace fields => .obj [("action", .str "replace"), ("fields", .ofList .str fields)]

/-- A plan as the log shows it. -/
def text : Plan → String
  | create => "Create"
  | noOp => "NoOp"
  | update fields => "Update \x7b fields: " ++ Text.quotedList fields ++ " \x7d"
  | replace fields => "Replace \x7b fields: " ++ Text.quotedList fields ++ " \x7d"

end Plan

/-! ### Journals -/

/-- A call to the management plane and its answer. -/
inductive Call (Obj : Type) where
  /-- A read; there is no answer where it was given up. -/
  | get (key : NaturalKey) (answer : Option (Except ClientError Obj))
  | put (key : NaturalKey) (object : Obj) (answer : Except ClientError Obj)
  | delete (key : NaturalKey) (answer : Except ClientError Unit)

/-- Whether a call asks for a change. -/
def Call.mutates {Obj : Type} : Call Obj → Bool
  | .get .. => false
  | .put .. => true
  | .delete .. => true

/-- What an operation has to say of its progress. -/
inductive Note where
  | creating (key : NaturalKey)
  | provisioning (id : String)
  | created (id : String) (state : State)
  | gone (id : String)
  | updating (id : String)
  | updated (id : String) (state : State)
  | deleting (id : String)
  | alreadyDeleted (id : String)
  | deleted (id : String)
  | planned (key : NaturalKey) (plan : Plan)
  /-- An object is about to be sent; `shown` is its JSON without the secrets. -/
  | sending (key : NaturalKey) (shown : Json)
  /-- What the client says of a write. -/
  | announced (line : String)

/-- The wording of a note on an object of the given kind. -/
def Note.text (kind : String) : Note → String
  | .creating key => "Creating " ++ kind ++ " " ++ key.text
  | .provisioning id => "Waiting for " ++ kind ++ " '" ++ id ++ "' to finish provisioning"
  | .created id state => "Created " ++ kind ++ " '" ++ id ++ "' (" ++ state.label ++ ")"
  | .gone id => kind ++ " '" ++ id ++ "' no longer exists"
  | .updating id => "Updating " ++ kind ++ " '" ++ id ++ "'"
  | .updated id state => "Updated " ++ kind ++ " '" ++ id ++ "' (" ++ state.label ++ ")"
  | .deleting id => "Deleting " ++ kind ++ " '" ++ id ++ "'"
  | .alreadyDeleted id => kind ++ " '" ++ id ++ "' was already deleted"
  | .deleted id => "Deleted " ++ kind ++ " '" ++ id ++ "'"
  | .planned key plan => "Plan for " ++ kind ++ " " ++ key.text ++ ": " ++ plan.text
  | .sending key shown => "Sending " ++ kind ++ " " ++ key.text ++ ":\n" ++ shown.pretty
  | .announced line => line

/-- An entry of a journal. -/
inductive Entry (Obj : Type) where
  | call (call : Call Obj)
  | note (note : Note)

namespace Entry

variable {Obj : Type}

/-- The call, if the entry is one. -/
def call? : Entry Obj → Option (Call Obj)
  | call c => some c
  | note _ => none

/-- The note, if the entry is one. -/
def note? : Entry Obj → Option Note
  | call _ => none
  | note n => some n

end Entry

/-- The calls of a journal. -/
def journalCalls {Obj : Type} (entries : List (Entry Obj)) : List (Call Obj) :=
  entries.filterMap Entry.call?

/-- The notes of a journal. -/
def journalNotes {Obj : Type} (entries : List (Entry Obj)) : List Note :=
  entries.filterMap Entry.note?

end Provisioning
