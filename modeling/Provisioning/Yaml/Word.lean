import Provisioning.Yaml.Text

/-!
The words of a document that are not scalars: the names of nodes, their tags, and the directives
before a document.
-/

namespace Provisioning.Yaml

/-! ### Names -/

/-- The name behind an ampersand or an asterisk, and the place behind it. -/
def nameFrom (cur : Cursor) : Except Flaw (String × Cursor) :=
  let name := cur.next.rest.takeWhile isNameCharacter
  let stop := cur.next.skip name.length
  let ends (c : Char) : Bool := ['?', ':', ',', ']', '\x7d', '%', '@', '\x60'].contains c
  let ended := endsWord stop.rest || (stop.rest.head?.map ends).getD false
  if name.isEmpty || !ended then cur.slip .badName
  else .ok (String.ofList name, stop)

/-! ### Tags -/

/-- A tag: a shorthand between exclamation marks, which may be missing, and the rest. -/
structure Tag where
  handle : String
  suffix : String
deriving DecidableEq

/-- Whether a tag is made of a character. -/
def isTagCharacter (c : Char) : Bool :=
  isNameCharacter c || [';', '/', '?', ':', '@', '&', '=', '+', '$', ',', '.', '!', '~', '*', '\'',
    '(', ')', '[', ']'].contains c

/-- How many escaped bytes a character takes, by the first of them. -/
def byteCount? (byte : Nat) : Option Nat :=
  if byte < 0x80 then some 1
  else if 0xC0 ≤ byte ∧ byte < 0xE0 then some 2
  else if 0xE0 ≤ byte ∧ byte < 0xF0 then some 3
  else if 0xF0 ≤ byte ∧ byte < 0xF8 then some 4
  else none

/-- The byte of an escape. -/
def escapedByte? : List Char → Option Nat
  | '%' :: a :: b :: _ => do return 16 * (← hexDigit? a) + (← hexDigit? b)
  | _ => none

/-- The code that the bytes of the next escapes are put together to. -/
def escapedCode? (code : Nat) : (count : Nat) → List Char → Option Nat
  | 0, _ => some code
  | count + 1, cs => do
    let byte ← escapedByte? cs
    if byte < 0x80 || 0xC0 ≤ byte then none
    else escapedCode? (256 * code + byte) count (cs.drop 3)

/-- The character of an escape, and how many characters it takes. -/
def tagEscape? (cs : List Char) : Option (Char × Nat) := do
  let first ← escapedByte? cs
  let count ← byteCount? first
  let code ← escapedCode? first (count - 1) (cs.drop 3)
  if code.isValidChar then some (Char.ofNat code, 3 * count) else none

/-- The characters of a tag from here on, and the place behind them. The text has fewer than `fuel`
characters. -/
def tagRest (start : Cursor) : (fuel : Nat) → Cursor → Except Flaw (List Char × Cursor)
  | 0, cur => .ok ([], cur)
  | fuel + 1, cur =>
    match cur.rest with
    | [] => .ok ([], cur)
    | c :: _ =>
      if isTagCharacter c then do
        let (more, stop) ← tagRest start fuel cur.next
        return (c :: more, stop)
      else if c = '%' then
        match tagEscape? cur.rest with
        | none => start.slip .badTag
        | some (character, count) => do
          let (more, stop) ← tagRest start fuel (cur.skip count)
          return (character :: more, stop)
      else .ok ([], cur)

/-- The shorthand of a tag from its first exclamation mark on, the second included if there is
one. -/
def tagHandle (cur : Cursor) : List Char × Cursor :=
  let word := cur.next.rest.takeWhile isNameCharacter
  let stop := cur.next.skip word.length
  if stop.rest.head? = some '!' then ('!' :: word ++ ['!'], stop.next) else ('!' :: word, stop)

/-- The tag between an exclamation mark with an angle bracket and another bracket. -/
def verbatimTag (cur : Cursor) : Except Flaw (Tag × Cursor) := do
  let (suffix, stop) ← tagRest cur cur.rest.length (cur.skip 2)
  if suffix.isEmpty || stop.rest.head? != some '>' then cur.slip .badTag
  return (⟨"", String.ofList suffix⟩, stop.next)

/-- The tag that begins with an exclamation mark. -/
def shortTag (cur : Cursor) : Except Flaw (Tag × Cursor) := do
  let (handle, stop) := tagHandle cur
  let (more, stop) ← tagRest cur cur.rest.length stop
  if 2 ≤ handle.length && handle.getLast? == some '!' then
    if more.isEmpty then cur.slip .badTag
    return (⟨String.ofList handle, String.ofList more⟩, stop)
  else
    let suffix := handle.drop 1 ++ more
    return (if suffix.isEmpty then ⟨"", "!"⟩ else ⟨"!", String.ofList suffix⟩, stop)

/-- The tag that starts here, and the place behind it. -/
def tagFrom (cur : Cursor) : Except Flaw (Tag × Cursor) := do
  let (tag, stop) ← if cur.next.rest.head? = some '<' then verbatimTag cur else shortTag cur
  if endsWord stop.rest then return (tag, stop) else cur.slip .badTag

/-! ### Directives -/

/-- The place behind a number of a version. -/
def versionPart (start cur : Cursor) : Except Flaw Cursor :=
  let digits := cur.rest.takeWhile Char.isDigit
  if digits.isEmpty || 9 < digits.length then start.slip .directiveValue
  else .ok (cur.skip digits.length)

/-- The place behind a version. -/
def version (start cur : Cursor) : Except Flaw Cursor := do
  let stop ← versionPart start cur.skipBlanks
  if stop.rest.head? != some '.' then start.slip .directiveValue
  versionPart start stop.next

/-- The place behind the shorthand of a tag and what it stands for. -/
def tagShorthand (start cur : Cursor) : Except Flaw Cursor := do
  let cur := cur.skipBlanks
  let (handle, stop) := tagHandle cur
  if cur.rest.head? != some '!' || (1 < handle.length && handle.getLast? != some '!') then
    start.slip .directiveValue
  let (meaning, stop) ← tagRest start stop.rest.length stop.skipBlanks
  if meaning.isEmpty || !endsWord stop.rest then start.slip .directiveValue
  return stop

/-- The place behind the line of the directive that starts here. -/
def directive (cur : Cursor) : Except Flaw Cursor := do
  let name := cur.next.rest.takeWhile isNameCharacter
  let named := cur.next.skip name.length
  if name.isEmpty || !endsWord named.rest then cur.slip .directiveName
  let stop ← match String.ofList name with
    | "YAML" => version cur named
    | "TAG" => tagShorthand cur named
    | _ => pure named.skipLine
  let stop := stop.skipBlanks.skipComment
  if stop.atLineEnd then return stop.skipBreak else cur.slip .directiveLineEnd

end Provisioning.Yaml
