import Provisioning.Command.Log
import Provisioning.Command.Options
import Provisioning.Plane.Remote

/-!
What a command line asks for. Options for all commands stand before the name of the command, those
of the command behind it.
-/

namespace Provisioning.Command

/-- The kinds of objects that commands are about. -/
inductive Subject where
  | group
  | service
deriving DecidableEq

/-- The name of a kind on the command line. -/
def Subject.name : Subject → String
  | .group => "container-group"
  | .service => "container-service"

/-- The kind of a name. -/
def Subject.ofName? (text : String) : Option Subject :=
  [Subject.group, .service].find? fun s => s.name == text

/-- How a command gets at the management plane, and where it keeps its record. -/
structure Access where
  /-- The path of the file with the record. -/
  state : String
  /-- Whether the plane is simulated. -/
  simulate : Bool
  endpoint : String
  subscription : Option String
  token : Option String
  /-- The limit for every operation, in seconds. -/
  timeout : Option Nat
  /-- The pause between two polls, in seconds. -/
  pollInterval : Option Nat

/-- What is to be done at the management plane. -/
inductive Errand where
  | plan (file : String)
  | apply (file : String)
  | read
  | delete

/-- What is to be done. -/
inductive Action where
  | validate (file : String)
  | manage (errand : Errand) (access : Access)

/-- A command line that makes sense. -/
structure Invocation where
  level : Level
  subject : Subject
  action : Action

/-- The files that are looked at. -/
def Action.paths : Action → List String
  | .validate file => [file]
  | .manage (.plan file) access => [file, access.state]
  | .manage (.apply file) access => [file, access.state]
  | .manage .read access => [access.state]
  | .manage .delete access => [access.state]

/-- The options before the name of a command. -/
def commonGrammar : Grammar := { valued := ["log-level"] }

/-- The options of a command with the given ones and those for access to the plane. -/
def accessGrammar (own : List String) : Grammar where
  valued := own ++ ["state", "endpoint", "subscription-id", "access-token", "timeout",
    "poll-interval"]
  flags := ["simulate"]

/-- How the plane is reached according to options, and to the environment where they say nothing. -/
def readAccess (environment : String → Option String) (o : Options) : Except UsageError Access := do
  let state ← o.required "state" path?
  let timeout ← o.optional "timeout" seconds?
  let pollInterval ← o.optional "poll-interval" seconds?
  let value (name fallback : String) : Option String :=
    (o.lookup name).or (environment fallback)
  return {
    state
    simulate := (o.lookup "simulate").isSome
    endpoint := (value "endpoint" Remote.Settings.endpointVariable).getD
      Remote.Settings.defaultEndpoint
    subscription := value "subscription-id" Remote.Settings.subscriptionVariable
    token := value "access-token" Remote.Settings.tokenVariable
    timeout
    pollInterval }

/-- The options of a command, behind which nothing stands but the mark of their end. -/
def allOptions (g : Grammar) (arguments : List String) : Except UsageError Options := do
  match ← readOptions g [] arguments with
  | (o, []) => return o
  | (o, ["--"]) => return o
  | (_, argument :: _) => throw (.unexpected argument)

/-- The object kind and the action that a command's name and options stand for. -/
def readAction (environment : String → Option String) (name : String) (arguments : List String) :
    Except UsageError (Subject × Action) := do
  let options (g : Grammar) : Except UsageError (Options × Subject) := do
    let o ← allOptions g arguments
    return (o, ← o.required "kind" Subject.ofName?)
  match name with
  | "validate" => do
    let (o, subject) ← options { valued := ["kind", "file"] }
    return (subject, .validate (← o.required "file" path?))
  | "plan" => do
    let (o, subject) ← options (accessGrammar ["kind", "file"])
    return (subject, .manage (.plan (← o.required "file" path?)) (← readAccess environment o))
  | "apply" => do
    let (o, subject) ← options (accessGrammar ["kind", "file"])
    return (subject, .manage (.apply (← o.required "file" path?)) (← readAccess environment o))
  | "read" => do
    let (o, subject) ← options (accessGrammar ["kind"])
    return (subject, .manage .read (← readAccess environment o))
  | "delete" => do
    let (o, subject) ← options (accessGrammar ["kind"])
    return (subject, .manage .delete (← readAccess environment o))
  | _ => throw (.unexpected name)

/-- What a command line asks for, in an environment of variables. -/
def Invocation.read (environment : String → Option String) (arguments : List String) :
    Except UsageError Invocation := do
  match ← readOptions commonGrammar [] arguments with
  | (_, []) => throw .noCommand
  | (o, name :: rest) =>
    let level ← o.optional "log-level" Level.ofName?
    let (subject, action) ← readAction environment name rest
    return { level := level.getD .info, subject, action }

end Provisioning.Command
