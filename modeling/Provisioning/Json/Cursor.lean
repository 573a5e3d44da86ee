import Provisioning.Json.Source

/-!
A place in a JSON text and what is read alike whether anybody wants the value or not: blanks, words,
escapes by code and the colon of a member. Columns count bytes, and a reader that stops on the first
byte of a character has not passed the character.
-/

namespace Provisioning.Json

/-! ### Cursors -/

/-- The rest of a text, and the place where it begins. -/
structure Cursor where
  rest : List Char
  place : Place

/-- The place behind a character. -/
def behind (p : Place) (c : Char) : Place :=
  if c = '\n' then ⟨p.line + 1, 0⟩ else ⟨p.line, p.column + c.utf8Size⟩

/-- The place behind the next `n` bytes of a text, which may be within a character. At the end of
the text there are no more bytes. -/
def bytesOn (p : Place) : (n : Nat) → List Char → Place
  | _, [] => p
  | n, c :: rest =>
    if n < c.utf8Size then ⟨p.line, p.column + n⟩ else bytesOn (behind p c) (n - c.utf8Size) rest

/-- The number of bytes of a text. -/
def bytes (cs : List Char) : Nat := cs.foldl (fun n c => n + c.utf8Size) 0

namespace Cursor

/-- The text behind its first character. -/
def next (cur : Cursor) : Cursor :=
  match cur.rest with
  | [] => cur
  | c :: rest => ⟨rest, behind cur.place c⟩

/-- The text behind its first `n` characters. -/
def skip : (n : Nat) → Cursor → Cursor
  | 0, cur => cur
  | n + 1, cur => skip n cur.next

/-- Whether a character is blank between the parts of a JSON text. -/
def isBlank (c : Char) : Bool := c = ' ' || c = '\n' || c = '\t' || c = '\r'

/-- The text behind the blanks it begins with. -/
def skipBlanks (cur : Cursor) : Cursor :=
  cur.skip (cur.rest.takeWhile isBlank).length

/-- The place behind the first `n` bytes of the text. -/
def ahead (n : Nat) (cur : Cursor) : Place := bytesOn cur.place n cur.rest

/-- A complaint at the place where the text begins. -/
def here (cur : Cursor) (fault : Fault) : Complaint := ⟨fault, some cur.place⟩

/-- A complaint about the byte the text begins with. -/
def facing (cur : Cursor) (fault : Fault) : Complaint := ⟨fault, some (cur.ahead 1)⟩

end Cursor

/-- What reading a part of a text gives: the part and the text behind it, or a complaint. -/
abbrev Step (α : Type) : Type := Except Complaint (α × Cursor)

/-! ### Words, digits and colons -/

/-- Reads the rest of a word that its first character has announced. -/
def readWord (value : Scalar) : (word : List Char) → Cursor → Step Scalar
  | [], cur => .ok (value, cur)
  | c :: word, cur =>
    match cur.rest with
    | [] => .error (cur.here .endInValue)
    | d :: _ => if c = d then readWord value word cur.next else .error (cur.facing .wordWanted)

/-- Whether a character is a decimal digit. -/
def isDigit (c : Char) : Bool := '0' ≤ c && c ≤ '9'

/-- The value of a hexadecimal digit. -/
def hexDigit? (c : Char) : Option Nat :=
  if '0' ≤ c ∧ c ≤ '9' then some (c.toNat - 48)
  else if 'a' ≤ c ∧ c ≤ 'f' then some (c.toNat - 87)
  else if 'A' ≤ c ∧ c ≤ 'F' then some (c.toNat - 55)
  else none

/-- Reads the four digits of an escape by code. They are looked at only if the text has four more
bytes. -/
def readCode (cur : Cursor) : Step Nat :=
  match (cur.rest.take 4).mapM hexDigit? with
  | some [a, b, c, d] => .ok (4096 * a + 256 * b + 16 * c + d, cur.skip 4)
  | _ => .error ⟨if bytes cur.rest < 4 then .endInString else .badEscape, some (cur.ahead 4)⟩

/-- The text behind the colon of a member, blanks before it included. -/
def passColon (cur : Cursor) : Except Complaint Cursor :=
  let cur := cur.skipBlanks
  match cur.rest with
  | [] => .error (cur.here .endInObject)
  | c :: _ => if c = ':' then .ok cur.next else .error (cur.facing .colonWanted)

end Provisioning.Json
