import Provisioning.Json.Passing

/-!
Reading JSON texts. `Json.read` never fails: where a text goes wrong, the source it gives is broken
off there, and whoever takes it for a value hears of the fault if nothing before it is amiss. Behind
a member whose value is broken only as a value, not in its form, the text is read on, since a reader
who ignores the member never hears of the fault.
-/

namespace Provisioning.Json

/-! ### Strings -/

/-- Reads an escape by code behind its `u`. A code of the first half of a pair takes the escape of
the second half with it. -/
def readCodeEscape (cur : Cursor) : Except Complaint (Char × Cursor) := do
  let (code, cur) ← readCode cur
  if 0xDC00 ≤ code ∧ code ≤ 0xDFFF then .error (cur.here .loneSurrogate)
  else if 0xD800 ≤ code ∧ code ≤ 0xDBFF then
    match cur.rest with
    | '\\' :: 'u' :: _ =>
      let (low, cur) ← readCode (cur.skip 2)
      if 0xDC00 ≤ low ∧ low ≤ 0xDFFF then
        .ok (Char.ofNat (0x10000 + 0x400 * (code - 0xD800) + (low - 0xDC00)), cur)
      else .error (cur.here .loneSurrogate)
    | ['\\'] => .error (cur.next.here .endInString)
    | '\\' :: _ => .error (cur.next.facing .escapeCutShort)
    | [] => .error (cur.here .endInString)
    | _ => .error (cur.facing .escapeCutShort)
  else .ok (Char.ofNat code, cur)

/-- Reads an escape behind its backslash. -/
def readEscape (cur : Cursor) : Step Char :=
  match cur.rest with
  | [] => .error (cur.here .endInString)
  | c :: _ =>
    let plain (d : Char) : Step Char := .ok (d, cur.next)
    if c = '"' ∨ c = '\\' ∨ c = '/' then plain c
    else if c = 'b' then plain '\x08'
    else if c = 'f' then plain '\x0c'
    else if c = 'n' then plain '\n'
    else if c = 'r' then plain '\r'
    else if c = 't' then plain '\t'
    else if c = 'u' then readCodeEscape cur.next
    else .error (cur.facing .badEscape)

/-- Reads a string behind its opening quote; `taken` are the characters read so far, last first.
The text has fewer than `fuel` characters. -/
def readString : (fuel : Nat) → (taken : List Char) → Cursor → Step String
  | 0, _, cur => .error (cur.here .endInString)
  | fuel + 1, taken, cur =>
    match cur.rest with
    | [] => .error (cur.here .endInString)
    | c :: _ =>
      if c = '"' then .ok (String.ofList taken.reverse, cur.next)
      else if c = '\\' then
        match readEscape cur.next with
        | .ok (d, cur) => readString fuel (d :: taken) cur
        | .error c => .error c
      else if c.toNat < 0x20 then .error (cur.next.here .controlInString)
      else readString fuel (c :: taken) cur.next

/-! ### Numbers -/

/-- The number that digits spell. -/
def digitsValue (digits : List Char) : Nat :=
  digits.foldl (fun n c => 10 * n + (c.toNat - 48)) 0

/-- The greatest significand that is carried while digits are read. -/
def maxSignificand : Nat := 18446744073709551615

/-- Adds digits to a significand until the next one would not fit; gives the significand and the
number of digits added. -/
def addDigits (significand : Nat) : List Char → Nat × Nat
  | [] => (significand, 0)
  | c :: digits =>
    let more := 10 * significand + (c.toNat - 48)
    if maxSignificand < more then (significand, 0)
    else
      let (result, count) := addDigits more digits
      (result, count + 1)

/-- Reads the digits that a number needs at this point. -/
def readDigits (cur : Cursor) : Step (List Char) :=
  match cur.rest.takeWhile isDigit with
  | [] => .error (match cur.rest with
      | [] => cur.here .endInValue
      | _ :: _ => cur.facing .badNumber)
  | digits => .ok (digits, cur.skip digits.length)

/-- The greatest exponent that is counted with. -/
def maxExponent : Nat := 2147483647

/-- How many of the digits of an exponent it takes to get beyond the greatest one, if they do;
`read` is the exponent before them. -/
def digitsBeyond (read : Nat) : (digits : List Char) → Option Nat
  | [] => none
  | c :: digits =>
    let more := 10 * read + (c.toNat - 48)
    if maxExponent < more then some 1 else (digitsBeyond more digits).map (· + 1)

/-- Reads the exponent of a number, if it has one. The reader does not wait for the last digit of
one that takes a number other than zero out of range. -/
def readExponent (zero : Bool) (cur : Cursor) : Step (Option Int) :=
  match cur.rest with
  | [] => .ok (none, cur)
  | c :: _ =>
    if c = 'e' ∨ c = 'E' then
      let negative := cur.next.rest.head? = some '-'
      let start := cur.next.skipSign
      match readDigits start with
      | .error c => .error c
      | .ok (digits, cur) =>
        let n : Int := digitsValue digits
        match digitsBeyond 0 digits with
        | some count =>
          if negative ∨ zero then .ok (some (if negative then -n else n), cur)
          else .error ((start.skip count).here .numberTooLarge)
        | none => .ok (some (if negative then -n else n), cur)
    else .ok (none, cur)

/-- Reads the fraction of a number, if it has one: its digits, none of them where there is no
point. -/
def readFraction (cur : Cursor) : Step (List Char) :=
  match cur.rest with
  | '.' :: _ => readDigits cur.next
  | _ => .ok ([], cur)

/-- Reads the whole part of a number. Only a lone zero may begin with a zero. -/
def readWhole (cur : Cursor) : Step (List Char) :=
  match cur.rest with
  | '0' :: d :: _ =>
    if isDigit d then .error (cur.next.facing .badNumber) else .ok (['0'], cur.next)
  | _ => readDigits cur

/-- The number with the given sign and parts. Without a fraction and an exponent it is an integer
as long as one of 64 bits can hold it; otherwise it is a floating point number, if a finite one. -/
def numberOf (negative : Bool) (whole fraction : List Char) (exponent : Option Int) :
    Option Scalar :=
  let (head, taken) := addDigits 0 whole
  let dropped := whole.length - taken
  let integral := fraction.isEmpty && exponent.isNone && dropped == 0
  if integral && !negative then some (.int head)
  else if integral && head != 0 && head ≤ 0x8000000000000000 then some (.int (-head))
  else
    let (significand, places) := addDigits head fraction
    let power : Int := (dropped : Int) - places + exponent.getD 0
    (Decimal.scaled ⟨significand, power⟩).map fun x => .float (if negative then x.neg else x)

/-- Reads a number behind its sign. -/
def readNumber (negative : Bool) (cur : Cursor) : Except Complaint (Scalar × Cursor) := do
  let (whole, cur) ← readWhole cur
  let (fraction, cur) ← readFraction cur
  let zero := (whole ++ fraction).all (· = '0')
  let (exponent, cur) ← readExponent zero cur
  match numberOf negative whole fraction exponent with
  | some value => .ok (value, cur)
  | none => .error (cur.here .numberTooLarge)

/-! ### Values -/

/-- Reads a value that begins with neither bracket. -/
def readScalar (cur : Cursor) : Step Scalar :=
  match cur.rest with
  | [] => .error (cur.here .endInValue)
  | c :: _ =>
    if c = '"' then (readString cur.rest.length [] cur.next).map fun (s, cur) => (.str s, cur)
    else if c = 'n' then readWord .null ['u', 'l', 'l'] cur.next
    else if c = 't' then readWord (.bool true) ['r', 'u', 'e'] cur.next
    else if c = 'f' then readWord (.bool false) ['a', 'l', 's', 'e'] cur.next
    else if c = '-' then readNumber true cur.next
    else if isDigit c then readNumber false cur
    else .error (cur.facing .valueWanted)

/-- A value that was read, and the text behind it unless the value is broken off. -/
abbrev Piece (α : Type) : Type := α × Option Cursor

/-- The fault in what follows an item for a reader who expects the list to end there. -/
def listEndFault (cur : Cursor) : Option Complaint :=
  let cur := cur.skipBlanks
  match cur.rest with
  | [] => some (cur.here .endInList)
  | ']' :: _ => none
  | ',' :: _ =>
    let cur := cur.next.skipBlanks
    some (cur.facing (if cur.rest.head? = some ']' then .trailingComma else .trailingText))
  | _ => some (cur.facing .trailingText)

/-- The place where the text goes on behind the name of a member. -/
def behindName (cur : Cursor) : Place :=
  let cur := cur.skipBlanks
  if cur.rest.head? = some '\x7d' then cur.ahead 1 else cur.place

mutual

/-- Reads a value, blanks before it included. The text has fewer than `fuel` characters. -/
def readValue : (fuel : Nat) → Cursor → Piece Source
  | 0, cur => (.broken (cur.here .endInValue), none)
  | fuel + 1, cur =>
    let cur := cur.skipBlanks
    match cur.rest with
    | '[' :: _ =>
      let (items, close, behind) := readItems fuel true cur.next
      (.list (some cur.place) items close, behind)
    | '\x7b' :: _ =>
      let (members, close, behind) := readMembers fuel true cur.next
      (.record (some cur.place) members close, behind)
    | _ =>
      match readScalar cur with
      | .ok (value, cur) => (.scalar value (some cur.place), some cur)
      | .error c => (.broken c, none)

/-- Reads the items of a list behind its bracket, or behind an item. -/
def readItems : (fuel : Nat) → (first : Bool) → Cursor →
    List (Source × Option Complaint) × Close × Option Cursor
  | 0, _, cur => ([], .broken (cur.here .endInList), none)
  | fuel + 1, first, cur =>
    let cur := cur.skipBlanks
    match cur.rest with
    | [] => ([], .broken (cur.here .endInList), none)
    | ']' :: _ => ([], .ended (some cur.next.place), some cur.next)
    | c :: _ =>
      if first then readItem fuel cur
      else if c = ',' then
        let cur := cur.next.skipBlanks
        match cur.rest with
        | [] => ([], .broken (cur.here .endInValue), none)
        | ']' :: _ => ([], .broken (cur.facing .trailingComma), none)
        | _ => readItem fuel cur
      else ([], .broken (cur.facing .listEndWanted), none)

/-- Reads an item of a list and those behind it. -/
def readItem : (fuel : Nat) → Cursor → List (Source × Option Complaint) × Close × Option Cursor
  | 0, cur => ([], .broken (cur.here .endInList), none)
  | fuel + 1, cur =>
    match readValue fuel cur with
    | (item, none) => ([(item, none)], .ended none, none)
    | (item, some cur) =>
      let (items, close, behind) := readItems fuel false cur
      ((item, listEndFault cur) :: items, close, behind)

/-- Reads the members of an object behind its bracket, or behind a member. -/
def readMembers : (fuel : Nat) → (first : Bool) → Cursor →
    List (Key × Source) × Close × Option Cursor
  | 0, _, cur => ([], .broken (cur.here .endInObject), none)
  | fuel + 1, first, cur =>
    let cur := cur.skipBlanks
    match cur.rest with
    | [] => ([], .broken (cur.here .endInObject), none)
    | '\x7d' :: _ => ([], .ended (some cur.next.place), some cur.next)
    | c :: _ =>
      if first then readMember fuel cur
      else if c = ',' then readMember fuel cur.next.skipBlanks
      else ([], .broken (cur.facing .objectEndWanted), none)

/-- Reads a member of an object and those behind it. Where its value is broken off, the text goes on
behind it for a reader who passes over the value. -/
def readMember : (fuel : Nat) → Cursor → List (Key × Source) × Close × Option Cursor
  | 0, cur => ([], .broken (cur.here .endInObject), none)
  | fuel + 1, cur =>
    match cur.rest with
    | [] => ([], .broken (cur.here .endInValue), none)
    | '\x7d' :: _ => ([], .broken (cur.facing .trailingComma), none)
    | '"' :: _ =>
      match readString cur.rest.length [] cur.next with
      | .error c => ([], .broken c, none)
      | .ok (name, cur) =>
        let key (passed : Option Complaint) : Key := ⟨name, some (behindName cur), passed⟩
        match passColon cur with
        | .error c => ([(key (some c), .broken c)], .ended none, none)
        | .ok start =>
          let (value, behind) := readValue fuel start
          let onward : Except Complaint Cursor := match behind with
            | some cur => .ok cur
            | none => passValue fuel start
          match onward with
          | .error c => ([(key (some c), value)], .ended none, none)
          | .ok cur =>
            let (members, close, behind) := readMembers fuel false cur
            ((key none, value) :: members, close, behind)
    | _ => ([], .broken (cur.facing .keyWanted), none)

end

/-- A text as a source, and the complaint about what follows the value, if anything but blanks
does. -/
def read (text : String) : Source × Option Complaint :=
  let chars := text.toList
  match readValue (3 * chars.length + 3) ⟨chars, ⟨1, 0⟩⟩ with
  | (source, none) => (source, none)
  | (source, some cur) =>
    let cur := cur.skipBlanks
    (source, if cur.rest.isEmpty then none else some (cur.facing .trailingText))

/-- A text taken for a value of some type. -/
def readAs {α : Type} (decode : Source → Except Complaint α) (text : String) :
    Except Complaint α :=
  match read text with
  | (source, excess) => do
    let value ← decode source
    match excess with
    | some c => .error c
    | none => .ok value

end Provisioning.Json
