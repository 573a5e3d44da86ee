import Provisioning.Command.Content
import Provisioning.Command.Invocation
import Provisioning.Command.Obstacle
import Provisioning.Lifecycle.Operations

/-!
The commands on a management plane: each reads its document and its record, runs one operation,
and says what is to be done with the outcome. A command settles everything first, and only then
prints, and writes or removes its record; so one that fails before has changed nothing.
-/

namespace Provisioning.Command

/-! ### What is done in the end -/

/-- Something to be done at the end of a command. -/
inductive Effect where
  | print (text : String)
  /-- The text becomes that of the file with the record. -/
  | save (text : String)
  /-- The file with the record is removed. -/
  | remove
deriving DecidableEq

/-- What has been done. -/
structure Done where
  printed : String
  /-- The change to the file with the record, if there is one. -/
  change : Option Change
  /-- What the rest was not done for. -/
  obstacle : Option Obstacle

/-- Effects one after the other, up to the first that is not possible; `before` is what is at the
path of the record. -/
def perform (path : String) (before : Content) : List Effect → Done
  | [] => ⟨"", none, none⟩
  | .print text :: rest =>
    let done := perform path before rest
    { done with printed := text ++ done.printed }
  | .save text :: rest =>
    match before.writeError with
    | some reason => ⟨"", none, some (.recordUnwritten path reason)⟩
    | none =>
      let done := perform path before rest
      { done with change := done.change.or (some (.write text)) }
  | .remove :: rest =>
    let done := perform path before rest
    { done with change := done.change.or (some .remove) }

/-! ### What commands read -/

/-- The document in a file. JSON is a part of YAML, so one reader does for both. -/
def readDocument {Doc : Type} [Document Doc] (file : String) (content : Content) :
    Except Obstacle Doc := do
  let text ← content.read.mapError (.documentUnread file)
  let value ← (Yaml.readJson text).mapError (.documentUnparsed file)
  (Document.ofJson value).mapError (.documentMalformed file)

/-- The record in a file, if there is a file. -/
def readRecord {Doc : Type} [Document Doc] (path : String) (content : Content) :
    Except Obstacle (Option (Record Doc)) :=
  if content.isPresent then do
    let text ← content.read.mapError (.recordUnread path)
    let record ← (Record.ofText text).mapError (.recordUnparsed path)
    return some record
  else .ok none

/-- The record in a file, which has to be there. -/
def needRecord {Doc : Type} [Document Doc] (path : String) (content : Content) :
    Except Obstacle (Record Doc) := do
  match ← readRecord path content with
  | some record => return record
  | none => throw (.nothingRecorded path)

/-! ### Validation -/

/-- What is said of a valid document in a file. -/
def checked {Doc Obj : Type} [Document Doc] (binding : Binding Doc Obj) (file : String)
    (content : Content) : Except Obstacle String := do
  let document ← readDocument file content
  let report := binding.report document
  if report.isValid then return "'" ++ file ++ "' is a valid " ++ binding.kind ++ " document.\n"
  else throw (.documentInvalid report)

/-! ### Commands on a plane -/

/-- A command at work on a world. -/
abbrev Work (σ Obj : Type) := EStateM Obstacle (World σ Obj)

/-- An operation as a step of a command. -/
def runFor {σ Obj α : Type} (aim : Aim) (operation : Operation σ Obj α) : Work σ Obj α := fun w =>
  match operation w with
  | .ok a w => .ok a w
  | .error stop w => .error (aim.obstacle stop) w

/-- What is known already, as a step of a command. -/
def settle {σ Obj α : Type} : Except Obstacle α → Work σ Obj α
  | .ok a => pure a
  | .error o => throw o

/-- A value as it is printed. -/
def shown (value : Json) : Effect := .print (value.pretty ++ "\n")

section Commands

variable {σ Doc Obj : Type} [Document Doc] [Managed Obj] (l : Lifecycle σ Doc Obj)

/-- Prints the plan. -/
def planned (desired : Doc) (record : Option (Record Doc)) : Work σ Obj (List Effect) := do
  let plan ← runFor .plan (l.plan (record.map Record.id) desired (record.map Record.configuration))
  return [shown plan.toJson]

/-- Applies a document, records the outcome and prints the plan that was carried out. -/
def applied (file : String) (desired : Doc) (record : Option (Record Doc)) :
    Work σ Obj (List Effect) := do
  let done ← runFor (.apply file)
    (l.apply (record.map Record.id) desired (record.map Record.configuration))
  let after : Record Doc := ⟨done.id, done.configuration⟩
  return [.save after.text, shown (.obj [("id", .str done.id), ("plan", done.plan.toJson)])]

/-- Reads the recorded object, prints its document and records it; the record of an object that is
gone is removed. -/
def refreshed (record : Record Doc) : Work σ Obj (List Effect) := do
  match ← runFor (.read record.id) (l.read record.id (some record.configuration)) with
  | some configuration =>
    let after : Record Doc := { record with configuration }
    return [shown (Document.toJson configuration), .save after.text]
  | none => return [.print ("'" ++ record.id ++ "' no longer exists.\n"), .remove]

/-- Deletes the recorded object and its record. -/
def deleted (record : Record Doc) : Work σ Obj (List Effect) := do
  runFor (.delete record.id) (l.delete record.id)
  return [.remove, .print ("Deleted '" ++ record.id ++ "'.\n")]

/-- What an errand comes to, when the record is kept at a path and `find` tells what is where. -/
def Errand.work (path : String) (find : String → Content) : Errand → Work σ Obj (List Effect)
  | .plan file => do
    let desired : Doc ← settle (readDocument file (find file))
    planned l desired (← settle (readRecord path (find path)))
  | .apply file => do
    let desired : Doc ← settle (readDocument file (find file))
    applied l file desired (← settle (readRecord path (find path)))
  | .read => do refreshed l (← settle (needRecord path (find path)))
  | .delete => do deleted l (← settle (needRecord path (find path)))

end Commands

end Provisioning.Command
