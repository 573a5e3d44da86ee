import Provisioning.Yaml.Word

/-!
The tokens of a document. Collections without brackets are told apart by the columns of their parts,
and a key is known only by the colon behind it; `Layout` keeps track of the columns at which
collections stand and of the tokens that may turn out to be keys. `tokens` marks both ends of every
collection and the start of every key, so that its result can be read without looking at columns.
-/

namespace Provisioning.Yaml

/-- A token of a document. -/
inductive Token where
  | scalar (quoted : Bool) (text : String)
  /-- The name of the node that follows. -/
  | name (name : String)
  /-- The name of a node that stands elsewhere. -/
  | reference (name : String)
  | tag (tag : Tag)
  /-- The start of a list by columns. -/
  | listStart
  /-- The start of a mapping by columns. -/
  | mappingStart
  /-- The end of a list or mapping by columns. -/
  | blockEnd
  /-- The start of an item of a list by columns. -/
  | item
  /-- The start of a key. -/
  | key
  /-- The start of a value. -/
  | value
  | bracket
  | closingBracket
  | brace
  | closingBrace
  | comma
  | directive
  | documentStart
  | documentEnd
  | textEnd
deriving DecidableEq

/-- A token that is a key if a colon follows it. -/
structure Candidate where
  place : Place
  /-- The number of characters before it. -/
  index : Nat
  /-- The number of tokens before it. -/
  number : Nat
  /-- Whether nothing else than a key can stand there. -/
  required : Bool

/-- How far a text is read, and what has to be known to tell its next tokens. -/
structure Layout where
  cur : Cursor
  /-- The tokens so far, the last one first. -/
  tokens : List (Token × Place) := []
  /-- The number of tokens. -/
  count : Nat := 0
  /-- Whether a key may start here. -/
  keyAllowed : Bool := true
  /-- The candidate within the innermost brackets. -/
  key : Option Candidate := none
  /-- The candidates around brackets, from within the innermost ones to outside of all. -/
  outerKeys : List (Option Candidate) := []
  /-- The least column that is further to the right than the innermost collection. -/
  least : Nat := 0
  /-- The same for the collections around it, from the inside to the outside. -/
  outer : List Nat := []
  /-- The number of characters up to the end of the last quoted scalar. -/
  quotedEnd : Option Nat := none

namespace Layout

/-! ### Tokens -/

/-- Whether the place is within brackets. -/
def inBrackets (l : Layout) : Bool := !l.outerKeys.isEmpty

/-- The layout with a token behind all others. -/
def push (token : Token) (place : Place) (l : Layout) : Layout :=
  { l with tokens := (token, place) :: l.tokens, count := l.count + 1 }

/-- The layout with a token that has a number of tokens before it. -/
def insert (number : Nat) (token : Token) (place : Place) (l : Layout) : Layout :=
  let later := l.count - number
  { l with
    tokens := l.tokens.take later ++ (token, place) :: l.tokens.drop later
    count := l.count + 1 }

/-- The flaw of a slip at the place of the layout. -/
def slip {α : Type} (l : Layout) (s : Slip) : Except Flaw α := l.cur.slip s

/-! ### Columns -/

/-- Closes the collections that stand at the column `bound` or further to the right. -/
def closeFrom (bound : Nat) (outer : List Nat) (l : Layout) : Layout :=
  match outer with
  | [] => l
  | least :: outer =>
    if bound < l.least then
      closeFrom bound outer { l.push .blockEnd l.cur.place with least, outer }
    else l

/-- Closes the collections that stand at the column `bound` or further to the right, unless columns
do not matter here. -/
def close (bound : Nat) (l : Layout) : Layout :=
  if l.inBrackets then l else l.closeFrom bound l.outer

/-- Opens a collection at a column, unless there is one already or columns do not matter here. Its
first token has `number` tokens before it, if not all. -/
def openAt (column : Nat) (number : Option Nat) (token : Token) (l : Layout) : Layout :=
  if l.inBrackets || column < l.least then l
  else
    let opened := l.insert (number.getD l.count) token l.cur.place
    { opened with least := column + 1, outer := l.least :: l.outer }

/-! ### Candidates -/

/-- How far a key may be from its colon. -/
def longestKey : Nat := 1024

/-- A candidate as it is seen from a place: it is none any more on a later line, or too far away. -/
def current (cur : Cursor) : Option Candidate → Except Flaw (Option Candidate)
  | none => .ok none
  | some k =>
    if k.place.line < cur.place.line || k.index + longestKey < cur.index then
      if k.required then cur.slip .colonWanted else .ok none
    else .ok (some k)

/-- The layout without the candidates that are none any more. -/
def dropStale (l : Layout) : Except Flaw Layout := do
  let outerKeys ← l.outerKeys.mapM (current l.cur)
  let key ← current l.cur l.key
  return { l with key, outerKeys }

/-- The layout after the candidate within the innermost brackets turned out to be no key. -/
def dropKey (l : Layout) : Except Flaw Layout :=
  match l.key with
  | some k => if k.required then l.slip .colonWanted else .ok { l with key := none }
  | none => .ok l

/-- The layout with the next token as a candidate, if a key may start there. -/
def saveKey (l : Layout) : Except Flaw Layout := do
  if !l.keyAllowed then return l
  let required := l.inBrackets && l.least == l.cur.column + 1
  let l ← l.dropKey
  return { l with key := some ⟨l.cur.place, l.cur.index, l.count, required⟩ }

/-! ### Steps -/

/-- The place of the next token, and whether a key may start there. Outside brackets one may start
behind a line end, and a tab that stands before it is no blank. -/
def gap (brackets : Bool) : (fuel : Nat) → (keyAllowed : Bool) → Cursor → Bool × Cursor
  | 0, keyAllowed, cur => (keyAllowed, cur)
  | fuel + 1, keyAllowed, cur =>
    match cur.rest with
    | [] => (keyAllowed, cur)
    | c :: _ =>
      if c = ' ' then gap brackets fuel keyAllowed cur.next
      else if c = '\t' && (brackets || !keyAllowed) then gap brackets fuel keyAllowed cur.next
      else if isBreak c then gap brackets fuel (keyAllowed || !brackets) cur.skipBreak
      else if c = '#' then gap brackets fuel keyAllowed cur.skipLine
      else (keyAllowed, cur)

/-- The layout at its next token. -/
def toNext (l : Layout) : Layout :=
  let (keyAllowed, cur) := gap l.inBrackets l.cur.rest.length l.keyAllowed l.cur
  { l with keyAllowed, cur }

/-- The layout behind a token of `length` characters. -/
def take (token : Token) (length : Nat) (l : Layout) : Layout :=
  let l := l.push token l.cur.place
  { l with cur := l.cur.skip length }

/-- The layout behind a token that ends at a place and can be a key. -/
def takeNode (token : Token) (stop : Cursor) (l : Layout) : Layout :=
  let l := l.push token l.cur.place
  { l with cur := stop, keyAllowed := false }

/-- Takes a directive or a mark between documents, by which all collections end. -/
def takeMark (token : Token) (stop : Cursor) (l : Layout) : Except Flaw Layout := do
  let l ← (l.close 0).dropKey
  return l.takeNode token stop

/-- Takes an opening bracket. -/
def takeOpening (token : Token) (l : Layout) : Except Flaw Layout := do
  let l ← l.saveKey
  if 255 ≤ l.outerKeys.length then l.slip .tooManyBrackets
  let l := l.take token 1
  return { l with keyAllowed := true, key := none, outerKeys := l.key :: l.outerKeys }

/-- Takes a closing bracket. -/
def takeClosing (token : Token) (l : Layout) : Except Flaw Layout := do
  let l ← l.dropKey
  let l := { l.take token 1 with keyAllowed := false }
  match l.outerKeys with
  | [] => return l
  | key :: outerKeys => return { l with key, outerKeys }

/-- Takes a comma. -/
def takeComma (l : Layout) : Except Flaw Layout := do
  let l ← l.dropKey
  return { l.take .comma 1 with keyAllowed := true }

/-- Takes the dash of an item. -/
def takeItem (l : Layout) : Except Flaw Layout := do
  if l.inBrackets then l.slip .itemInBrackets
  if !l.keyAllowed then l.slip .itemMisplaced
  let l ← (l.openAt l.cur.column none .listStart).dropKey
  return { l.take .item 1 with keyAllowed := true }

/-- Takes the question mark of a key. -/
def takeKey (l : Layout) : Except Flaw Layout := do
  if !l.inBrackets && !l.keyAllowed then l.slip .keyMisplaced
  let l ← (l.openAt l.cur.column none .mappingStart).dropKey
  return { l.take .key 1 with keyAllowed := !l.inBrackets }

/-- Takes the colon of a value. The candidate, if there is one, is its key. -/
def takeValue (l : Layout) : Except Flaw Layout :=
  match l.key with
  | some k =>
    let l := l.insert k.number .key k.place
    let l := l.openAt k.place.column (some k.number) .mappingStart
    .ok { l.take .value 1 with key := none, keyAllowed := false }
  | none => do
    if !l.inBrackets && !l.keyAllowed then l.slip .valueMisplaced
    let l := l.openAt l.cur.column none .mappingStart
    return { l.take .value 1 with keyAllowed := !l.inBrackets }

/-- Takes a name or the reference to one. -/
def takeName (token : String → Token) (l : Layout) : Except Flaw Layout := do
  let l ← l.saveKey
  let (name, stop) ← nameFrom l.cur
  return l.takeNode (token name) stop

/-- Takes a tag. -/
def takeTag (l : Layout) : Except Flaw Layout := do
  let l ← l.saveKey
  let (tag, stop) ← tagFrom l.cur
  return l.takeNode (.tag tag) stop

/-- Takes a block of lines. -/
def takeBlock (fold : Bool) (l : Layout) : Except Flaw Layout := do
  let l ← l.saveKey
  let (text, place, stop) ← block fold l.least l.cur
  return { l.push (.scalar true text) place with cur := stop, keyAllowed := true }

/-- Takes a scalar between quotes. -/
def takeQuoted (quote : Char) (l : Layout) : Except Flaw Layout := do
  let l ← l.saveKey
  let (text, stop) ← quoted quote l.cur
  return { l.takeNode (.scalar true text) stop with quotedEnd := some stop.index }

/-- Takes a plain scalar. -/
def takePlain (l : Layout) : Except Flaw Layout := do
  let l ← l.saveKey
  let (text, stop, ended) ← plain l.inBrackets l.least l.cur
  return { l.takeNode (.scalar false text) stop with keyAllowed := ended }

/-- Whether the colon here is that of a value: what follows it says so, or a quoted scalar within
brackets stands directly before it. -/
def atValue (l : Layout) : Bool :=
  endsKey l.inBrackets (l.cur.rest.drop 1) || (l.inBrackets && l.quotedEnd == some l.cur.index)

/-- Takes the next token, which starts here. -/
def takeNext (l : Layout) : Except Flaw Layout :=
  match l.cur.rest with
  | [] => .ok l
  | c :: rest =>
    if c = '%' && l.cur.column == 0 then do
      let stop ← directive l.cur
      l.takeMark .directive stop
    else if l.cur.atMark '-' then l.takeMark .documentStart (l.cur.skip 3)
    else if l.cur.atMark '.' then l.takeMark .documentEnd (l.cur.skip 3)
    else match c with
      | '[' => l.takeOpening .bracket
      | '\x7b' => l.takeOpening .brace
      | ']' => l.takeClosing .closingBracket
      | '\x7d' => l.takeClosing .closingBrace
      | ',' => l.takeComma
      | '-' => if endsWord rest then l.takeItem else l.takePlain
      | '?' => if endsWord rest then l.takeKey else l.takePlain
      | ':' => if l.atValue then l.takeValue else l.takePlain
      | '*' => l.takeName .reference
      | '&' => l.takeName .name
      | '!' => l.takeTag
      | '|' => if l.inBrackets then l.takePlain else l.takeBlock false
      | '>' => if l.inBrackets then l.takePlain else l.takeBlock true
      | '\'' => l.takeQuoted '\''
      | '"' => l.takeQuoted '"'
      | '%' => l.slip (.strangeCharacter c)
      | '@' => l.slip (.strangeCharacter c)
      | '\x60' => l.slip (.strangeCharacter c)
      | _ => l.takePlain

/-- Takes the end of the text, which is at the start of a line. -/
def takeEnd (l : Layout) : Except Flaw Layout := do
  let place := l.cur.place
  let place := if place.column = 0 then place else ⟨place.line + 1, 0⟩
  let l ← ({ l with cur := { l.cur with place } } : Layout).close 0 |>.dropKey
  return l.push .textEnd place

/-- The tokens of the rest of a text behind those so far. Every token takes a character or more, so
there are fewer than `fuel`. -/
def finish : (fuel : Nat) → Layout → Except Flaw (List (Token × Place))
  | 0, l => .ok l.tokens.reverse
  | fuel + 1, l => do
    let l ← l.toNext.dropStale
    let l := l.close (l.cur.column + 1)
    if l.cur.rest.isEmpty then
      let l ← l.takeEnd
      return l.tokens.reverse
    else
      let l ← l.takeNext
      finish fuel l

end Layout

/-- The tokens of a text with their places. A text ends at its first null character. -/
def tokens (text : String) : Except Flaw (List (Token × Place)) :=
  let cs := text.toList.takeWhile (· != '\x00')
  ({ cur := ⟨cs, 0, ⟨1, 0⟩⟩ } : Layout).finish (cs.length + 2)

end Provisioning.Yaml
