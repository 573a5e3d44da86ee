import Provisioning.Yaml.Flaw

/-!
A place in the text of a document, and what can be told by looking ahead from it. A line feed ends a
line, alone or behind a carriage return; a carriage return alone is read like a line end, but the
columns go on behind it.
-/

namespace Provisioning.Yaml

/-- A place in a text: what is left of it, and how many characters came before. -/
structure Cursor where
  rest : List Char
  index : Nat
  place : Place

/-! ### Characters -/

/-- The blanks within a line. -/
def isBlank (c : Char) : Bool := c == ' ' || c == '\t'

/-- The characters that end a line. -/
def isBreak (c : Char) : Bool := c == '\n' || c == '\r'

/-- The blanks within a line and the characters that end it. -/
def isGap (c : Char) : Bool := isBlank c || isBreak c

/-- The characters that names are made of. -/
def isNameCharacter (c : Char) : Bool := c.isAlphanum || c == '_' || c == '-'

/-- The characters that brackets give a meaning to. -/
def isFlowIndicator (c : Char) : Bool := [',', '[', ']', '\x7b', '\x7d'].contains c

/-- Whether a blank, a line end or the end of the text comes next. -/
def endsWord : List Char → Bool
  | [] => true
  | c :: _ => isGap c

/-- Whether what follows a colon makes it the end of a key. -/
def endsKey (flow : Bool) (rest : List Char) : Bool :=
  endsWord rest || (flow && (rest.head?.map isFlowIndicator).getD false)

namespace Cursor

/-! ### Steps -/

/-- The flaw of a slip here. -/
def slip {α : Type} (cur : Cursor) (s : Slip) : Except Flaw α := .error (.slip s cur.place)

/-- The number of characters before the place on its line. -/
def column (cur : Cursor) : Nat := cur.place.column

/-- The place behind the next character. -/
def next (cur : Cursor) : Cursor :=
  match cur.rest with
  | [] => cur
  | '\n' :: rest => ⟨rest, cur.index + 1, ⟨cur.place.line + 1, 0⟩⟩
  | _ :: rest => ⟨rest, cur.index + 1, ⟨cur.place.line, cur.place.column + 1⟩⟩

/-- The place behind the next `n` characters. -/
def skip : (n : Nat) → Cursor → Cursor
  | 0, cur => cur
  | n + 1, cur => skip n cur.next

/-- The place behind the characters that have a property. -/
def skipWhile (p : Char → Bool) (cur : Cursor) : Cursor :=
  cur.skip (cur.rest.takeWhile p).length

/-- The place behind the blanks of the line. -/
def skipBlanks (cur : Cursor) : Cursor := cur.skipWhile isBlank

/-- The place where the line ends. -/
def skipLine (cur : Cursor) : Cursor := cur.skipWhile (!isBreak ·)

/-- The place where the line ends, if a comment starts here. -/
def skipComment (cur : Cursor) : Cursor :=
  if cur.rest.head? = some '#' then cur.skipLine else cur

/-- The place behind the line end here, if there is one. -/
def skipBreak (cur : Cursor) : Cursor :=
  match cur.rest with
  | '\r' :: '\n' :: _ => cur.skip 2
  | '\r' :: _ => cur.next
  | '\n' :: _ => cur.next
  | _ => cur

/-! ### Tests -/

/-- Whether the line or the text is over. -/
def atLineEnd (cur : Cursor) : Bool := (cur.rest.head?.map isBreak).getD true

/-- Whether three characters that mark the start or end of a document stand here, alone at the
start of a line. -/
def atMark (c : Char) (cur : Cursor) : Bool :=
  cur.column == 0 && cur.rest.take 3 == [c, c, c] && endsWord (cur.rest.drop 3)

/-- Whether the document is over. -/
def atDocumentMark (cur : Cursor) : Bool := cur.atMark '-' || cur.atMark '.'

end Cursor

end Provisioning.Yaml
