import Provisioning.Command.Run

/-!
The program. It looks at the environment and at the files that its arguments name, lets the run be
worked out, makes the change that comes of it, and prints. It has no way to reach a plane over the
web: every request goes without a response.
-/

namespace Provisioning.Program

open Command

/-- The system's number for an error, which some of its functions report negated. -/
def errorNumber (code : UInt32) : UInt32 := if code < 0x80000000 then code else 0 - code

/-- What is at a path that cannot be read; `housed` says whether there is a directory for it. -/
def contentBehind (housed : Bool) : IO.Error → Content
  | .noFileOrDirectory .. => if housed then .vacant else .nowhere
  | .inappropriateType _ code _ => if errorNumber code = 21 then .directory else .throughFile
  | .permissionDenied _ code _ =>
    .barred ("Permission denied (os error " ++ toString (errorNumber code) ++ ")")
  | other => .barred (toString other)

/-- The path of the directory that a path leads into. -/
def housePath (path : String) : String :=
  match (Text.splitText '/' path).dropLast with
  | [] => "."
  | [""] => "/"
  | parts => "/".intercalate parts

/-- Whether there is a directory that a path leads into. -/
def isHoused (path : String) : IO Bool := do
  try
    discard (IO.FS.realPath (housePath path))
    return true
  catch _ => return false

/-- What is at a path. -/
def contentAt (path : String) : IO Content := do
  try
    let bytes ← IO.FS.readBinFile path
    return match String.fromUTF8? bytes with
      | some text => .file text
      | none => .garbled
  catch e => return contentBehind (← isHoused path) e

/-- Makes a change to the file at a path. -/
def make (path : String) : Change → IO Unit
  | .write text => IO.FS.writeFile path text
  | .remove => IO.FS.removeFile path

/-- The values of the names for which there is one. -/
def collect {α : Type} (names : List String) (value : String → IO (Option α)) :
    IO (List (String × α)) :=
  names.filterMapM fun name => do return (← value name).map fun a => (name, a)

/-- A network without a server. -/
def nobody : Remote.Network Unit := fun _ wire => .now (.error "there is no network") wire

/-- Works out a run and carries it out. -/
def carryOut (arguments : List String) : IO UInt32 := do
  let values ← collect variableNames fun name => IO.getEnv name
  let environment (name : String) : Option String := values.lookup name
  let paths := match Invocation.read environment arguments with
    | .ok i => i.action.paths
    | .error _ => []
  let contents ← collect paths fun path => return some (← contentAt path)
  let now ← IO.monoMsNow
  let o := run
    { environment := environment
      find := fun path => (contents.lookup path).getD .vacant
      network := nobody
      wire := ()
      clock := .machine now }
    arguments
  if let some (path, change) := o.change then make path change
  IO.print o.output
  IO.eprint o.errors
  return o.code.toUInt32

end Provisioning.Program

/-- Runs the program with the arguments of the command line. -/
def main (arguments : List String) : IO UInt32 := Provisioning.Program.carryOut arguments
