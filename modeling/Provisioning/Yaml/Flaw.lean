import Provisioning.Json.Source

/-!
What can be wrong with a document: its text breaks a rule of the notation, or it stands for no JSON
value. Either flaw has its place in the text.
-/

namespace Provisioning.Yaml

/-- A place in a text: the line, counted from one, and the number of characters before it on that
line. -/
structure Place where
  line : Nat
  column : Nat
deriving DecidableEq

/-- A rule of the notation that a text breaks. -/
inductive Slip where
  /-- The end of a document within quotes. -/
  | markInQuotes
  /-- The end of the text within quotes. -/
  | endInQuotes
  | unknownEscape
  | hexDigitWanted
  | noCharacter
  | tabInPlain
  | tabInBlock
  | blockIndentZero
  | blockLineEnd
  | directiveName
  | directiveValue
  | directiveLineEnd
  /-- A node is named by no letters, or by more than letters. -/
  | badName
  | badTag
  | strangeCharacter (c : Char)
  | itemMisplaced
  | itemInBrackets
  | keyMisplaced
  | valueMisplaced
  | colonWanted
  | tooManyBrackets
  | unknownName
  | contentWanted
  | keyWanted
  | itemWanted
  | listEndWanted
  | mappingEndWanted
  | documentWanted

/-- Why a part of a document stands for no JSON value. -/
inductive Misfit where
  /-- It is not what is wanted in its place. -/
  | fault (fault : Json.Fault)
  /-- It is an integer of more than 64 bits. -/
  | tooWide

/-- A step from a node to one within it. -/
inductive Step where
  | item (index : Nat)
  | member (name : String)
  /-- To a member whose name is not written in its place. -/
  | unnamed

/-- Why a text is no document, or a document stands for no JSON value. The path of a misfit begins
with its last step. -/
inductive Flaw where
  /-- There is nothing in the text. -/
  | empty
  /-- There is another document after the first. -/
  | secondDocument
  | slip (slip : Slip) (place : Place)
  | misfit (path : List Step) (misfit : Misfit) (place : Place)
  /-- Lists and mappings are within each other too often. -/
  | tooDeep
  /-- Nodes are referred to too often. -/
  | tooManyReferences

/-! ### Wording -/

/-- The wording of where something is. -/
def Place.text (p : Place) : String :=
  " at line " ++ toString p.line ++ " column " ++ toString (p.column + 1)

/-- The wording of a slip. -/
def Slip.text : Slip → String
  | markInQuotes => "while scanning a quoted scalar, found unexpected document indicator"
  | endInQuotes => "while scanning a quoted scalar, found unexpected end of stream"
  | unknownEscape => "while parsing a quoted scalar, found unknown escape character"
  | hexDigitWanted => "while parsing a quoted scalar, did not find expected hexdecimal number"
  | noCharacter => "while parsing a quoted scalar, found invalid Unicode character escape code"
  | tabInPlain => "while scanning a plain scalar, found a tab"
  | tabInBlock =>
    "while scanning a block scalar, found a tab character where an indentation space is expected"
  | blockIndentZero => "while scanning a block scalar, found an indentation indicator equal to 0"
  | blockLineEnd => "while scanning a block scalar, did not find expected comment or line break"
  | directiveName => "while scanning a directive, could not find expected directive name"
  | directiveValue => "while scanning a directive, did not find expected value"
  | directiveLineEnd =>
    "while scanning a directive, did not find expected comment or line break"
  | badName =>
    "while scanning an anchor or alias, did not find expected alphabetic or numeric character"
  | badTag => "while scanning a tag, did not find expected whitespace or line break"
  | strangeCharacter c => "unexpected character: \x60" ++ c.toString ++ "'"
  | itemMisplaced => "block sequence entries are not allowed in this context"
  | itemInBrackets => "\"-\" is only valid inside a block"
  | keyMisplaced => "mapping keys are not allowed in this context"
  | valueMisplaced => "mapping values are not allowed in this context"
  | colonWanted => "simple key expect ':'"
  | tooManyBrackets => "recursion limit exceeded"
  | unknownName => "while parsing node, found unknown anchor"
  | contentWanted => "while parsing a node, did not find expected content"
  | keyWanted => "while parsing a block mapping, did not find expected key"
  | itemWanted => "while parsing a block collection, did not find expected '-' indicator"
  | listEndWanted => "while parsing a flow sequence, expected ',' or ']'"
  | mappingEndWanted => "while parsing a flow mapping, did not find expected ',' or '\x7d'"
  | documentWanted => "did not find expected <document start>"

/-- The wording of a misfit. -/
def Misfit.text : Misfit → String
  | fault f => f.text
  | tooWide => "JSON number out of range"

/-- The wording of a path. -/
def pathText : List Step → String
  | [] => "."
  | .item index :: path => pathText path ++ "[" ++ toString index ++ "]"
  | .member name :: path => (if path.isEmpty then "" else pathText path ++ ".") ++ name
  | .unnamed :: path => (if path.isEmpty then "" else pathText path ++ ".") ++ "?"

/-- The wording of a flaw. A path that reads as that of the document itself is left out. -/
def Flaw.text : Flaw → String
  | .empty => "EOF while parsing a value"
  | .secondDocument =>
    "deserializing from YAML containing more than one document is not supported"
  | .slip s p => s.text ++ p.text
  | .misfit path m p =>
    let at_ := pathText path
    (if at_ = "." then "" else at_ ++ ": ") ++ m.text ++ p.text
  | .tooDeep => "recursion limit exceeded"
  | .tooManyReferences => "repetition limit exceeded"

end Provisioning.Yaml
