import Provisioning.Json.Reader
import Provisioning.Text.Basic

/-!
Options on a command line. An option is announced by two dashes; its value stands behind an equals
sign, or is the next argument. No option is given twice.
-/

namespace Provisioning.Command

/-- Why arguments make no sense. -/
inductive UsageError where
  | unknownOption (name : String)
  | repeatedOption (name : String)
  | missingOption (name : String)
  | missingValue (name : String)
  /-- There is a value for an option that takes none. -/
  | unwantedValue (name : String)
  | badValue (name value : String)
  | unexpected (argument : String)
  | noCommand

/-- The wording of a usage error. -/
def UsageError.text : UsageError → String
  | .unknownOption name => "unknown option '--" ++ name ++ "'"
  | .repeatedOption name => "option '--" ++ name ++ "' was given more than once"
  | .missingOption name => "option '--" ++ name ++ "' is required"
  | .missingValue name => "option '--" ++ name ++ "' needs a value"
  | .unwantedValue name => "option '--" ++ name ++ "' takes no value"
  | .badValue name value => "'" ++ value ++ "' is no value for option '--" ++ name ++ "'"
  | .unexpected argument => "unexpected argument '" ++ argument ++ "'"
  | .noCommand => "a command is required"

/-- The options that can be given. -/
structure Grammar where
  /-- Those with a value. -/
  valued : List String
  /-- Those without. -/
  flags : List String := []

/-- The options that are given, with their values; that of a flag is empty. -/
abbrev Options := List (String × String)

/-- The name of an option and the value attached to it, if an argument announces one. -/
def announced? (argument : String) : Option (String × Option String) :=
  match argument.toList with
  | '-' :: '-' :: c :: cs =>
    let name := (c :: cs).takeWhile (· != '=')
    let value := match (c :: cs).dropWhile (· != '=') with
      | _ :: value => some (String.ofList value)
      | [] => none
    some (String.ofList name, value)
  | _ => none

/-- Whether an argument can be the value of the option before it. A lone dash can. -/
def isValue (argument : String) : Bool :=
  argument == "-" || argument.toList.head? != some '-'

/-- Reads options up to the first argument that announces none, which is left with those behind
it. -/
def readOptions (g : Grammar) (given : Options) :
    List String → Except UsageError (Options × List String)
  | [] => .ok (given, [])
  | argument :: rest =>
    match announced? argument with
    | none => .ok (given, argument :: rest)
    | some (name, attached) =>
      if (given.lookup name).isSome then .error (.repeatedOption name)
      else if g.flags.contains name then
        match attached with
        | some _ => .error (.unwantedValue name)
        | none => readOptions g ((name, "") :: given) rest
      else if g.valued.contains name then
        match attached with
        | some value => readOptions g ((name, value) :: given) rest
        | none =>
          match rest with
          | [] => .error (.missingValue name)
          | value :: rest =>
            if isValue value then readOptions g ((name, value) :: given) rest
            else .error (.missingValue name)
      else .error (.unknownOption name)

namespace Options

/-- The value of an option that has to be given, if `read` can make sense of it. -/
def required {α : Type} (o : Options) (name : String) (read : String → Option α) :
    Except UsageError α :=
  match o.lookup name with
  | none => .error (.missingOption name)
  | some value =>
    match read value with
    | some a => .ok a
    | none => .error (.badValue name value)

/-- The value of an option that may be left out, if `read` can make sense of it. -/
def optional {α : Type} (o : Options) (name : String) (read : String → Option α) :
    Except UsageError (Option α) :=
  match o.lookup name with
  | none => .ok none
  | some value =>
    match read value with
    | some a => .ok (some a)
    | none => .error (.badValue name value)

end Options

/-- A path, which is not empty. -/
def path? (text : String) : Option String := if text.isEmpty then none else some text

/-- A number of seconds of 64 bits, before which there may be a plus sign. -/
def seconds? (text : String) : Option Nat :=
  let digits := match text.toList with
    | '+' :: digits => digits
    | digits => digits
  if digits.isEmpty || !digits.all Char.isDigit then none
  else
    let n := Json.digitsValue digits
    if n < 0x10000000000000000 then some n else none

end Provisioning.Command
