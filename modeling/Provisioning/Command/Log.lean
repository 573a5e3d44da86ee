import Provisioning.Text.Case
import Provisioning.Text.Basic

/-!
What a command says of its progress, and which of it is shown. A filter is a list of directives,
each for the sources whose names begin in some way; of those for a source, the most specific one
counts.
-/

namespace Provisioning.Command

/-! ### Levels -/

/-- How much is shown. -/
inductive Level where
  | off
  | error
  | warn
  | info
  | debug
  | trace
deriving DecidableEq

namespace Level

/-- All levels, each showing more than those before it. -/
def all : List Level := [.off, .error, .warn, .info, .debug, .trace]

/-- The name of a level. -/
def name : Level → String
  | off => "off"
  | error => "error"
  | warn => "warn"
  | info => "info"
  | debug => "debug"
  | trace => "trace"

/-- The name of a level at the head of a message, in capitals and as wide as the widest. -/
def label : Level → String
  | off => "OFF  "
  | error => "ERROR"
  | warn => "WARN "
  | info => "INFO "
  | debug => "DEBUG"
  | trace => "TRACE"

/-- The level of a name, in whatever case it is written. -/
def ofName? (text : String) : Option Level := all.find? fun l => Text.equalFold l.name text

/-- Whether messages of one level are shown at another. -/
def shows (limit level : Level) : Bool := all.idxOf level ≤ all.idxOf limit

end Level

/-! ### Messages -/

/-- A message about the progress of a command. -/
structure Message where
  /-- The part of the program that it comes from. -/
  source : String
  level : Level := .info
  text : String

/-- The text of a message on the lines of a log: all but the first are indented. -/
def Message.body (m : Message) : String := "\n    ".intercalate (Text.splitText '\n' m.text)

/-- The lines of a message, the last of them with its end. -/
def Message.line (m : Message) : String :=
  "[" ++ m.level.label ++ " " ++ m.source ++ "] " ++ m.body ++ "\n"

/-! ### Filters -/

/-- The level for the sources whose names begin with `start`. -/
structure Directive where
  start : String
  level : Level

/-- Whether a directive is for a source. -/
def Directive.covers (d : Directive) (source : String) : Bool :=
  d.start.toList.isPrefixOf source.toList

/-- The directives of a filter. -/
abbrev Filter := List Directive

namespace Filter

/-- The directive that counts for a source: the one with the longest name, and of equals the
last. -/
def directiveFor? (f : Filter) (source : String) : Option Directive :=
  (f.filter (·.covers source)).foldl
    (fun best d => match best with
      | some b => if d.start.length < b.start.length then best else some d
      | none => some d)
    none

/-- Whether a message is shown. -/
def passes (f : Filter) (m : Message) : Bool :=
  match f.directiveFor? m.source with
  | some d => d.level.shows m.level
  | none => false

/-- The filter that treats all sources alike. -/
def uniform (level : Level) : Filter := [⟨"", level⟩]

/-- A part of the text of a filter without the blanks around it. -/
def trimmed (part : List Char) : List Char := Text.trimBoth ' ' part

/-- The directive that a part of a text spells, or the piece of it that spells none. A name alone
stands for everything from the sources that it begins. -/
def readDirective (part : String) : Except String Directive :=
  match (Text.split '=' part.toList).map String.ofList with
  | [name] =>
    match Level.ofName? name with
    | some level => .ok ⟨"", level⟩
    | none => .ok ⟨name, .trace⟩
  | [name, level] =>
    let level := String.ofList (trimmed level.toList)
    if level.isEmpty then .ok ⟨name, .trace⟩
    else match Level.ofName? level with
      | some level => .ok ⟨name, level⟩
      | none => .error level
  | _ => .error part

/-- The warning about a piece of text that spells no directive. -/
def warning (piece : String) : String :=
  "warning: invalid logging spec '" ++ piece ++ "', ignoring it\n"

/-- The filter that a text spells, its directives separated by commas, and the warnings about what
spells none. A text without directives is one for errors only. What follows a slash is not looked
at. -/
def read (text : String) : Filter × String :=
  let directives := text.toList.takeWhile (· != '/')
  let parts := ((Text.split ',' directives).map trimmed).filter fun part => !part.isEmpty
  let found := parts.map fun part => readDirective (String.ofList part)
  let kept := found.filterMap Except.toOption
  let pieces := found.filterMap fun
    | .error piece => some (warning piece)
    | .ok _ => none
  (if kept.isEmpty then uniform .error else kept, String.join pieces)

end Filter

end Provisioning.Command
