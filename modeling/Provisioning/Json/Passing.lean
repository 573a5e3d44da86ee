import Provisioning.Json.Cursor

/-!
Passing over values that nobody wants. Only the form of such a value counts: a number may be out of
range and an escape may stand for half a character. The complaints are those about the form, which
a reader who wants the value may word otherwise.
-/

namespace Provisioning.Json

/-! ### Strings and numbers -/

/-- The text behind an escape, the backslash of which is passed already. -/
def passEscape (cur : Cursor) : Except Complaint Cursor :=
  match cur.rest with
  | [] => .error (cur.here .endInString)
  | c :: _ =>
    if c = 'u' then (readCode cur.next).map Prod.snd
    else if ['"', '\\', '/', 'b', 'f', 'n', 'r', 't'].contains c then .ok cur.next
    else .error (cur.facing .badEscape)

/-- The text behind a string, the opening quote of which is passed already. The text has fewer than
`fuel` characters. -/
def passString : (fuel : Nat) → Cursor → Except Complaint Cursor
  | 0, cur => .error (cur.here .endInString)
  | fuel + 1, cur =>
    match cur.rest with
    | [] => .error (cur.here .endInString)
    | c :: _ =>
      if c = '"' then .ok cur.next
      else if c = '\\' then passEscape cur.next >>= passString fuel
      else if c.toNat < 0x20 then .error (cur.here .controlInString)
      else passString fuel cur.next

/-- The text behind some digits, one of which there must be. -/
def passDigits (cur : Cursor) : Except Complaint Cursor :=
  match cur.rest.takeWhile isDigit with
  | [] => .error (cur.facing .badNumber)
  | digits => .ok (cur.skip digits.length)

/-- The text behind the whole part of a number. Only a lone zero may begin with a zero. -/
def passWhole (cur : Cursor) : Except Complaint Cursor :=
  match cur.rest with
  | '0' :: d :: _ => if isDigit d then .error (cur.next.facing .badNumber) else .ok cur.next
  | _ => passDigits cur

/-- The text behind the fraction of a number, if it has one. -/
def passFraction (cur : Cursor) : Except Complaint Cursor :=
  match cur.rest with
  | '.' :: _ => passDigits cur.next
  | _ => .ok cur

/-- The text behind the sign of an exponent, if it has one. -/
def Cursor.skipSign (cur : Cursor) : Cursor :=
  match cur.rest with
  | '+' :: _ => cur.next
  | '-' :: _ => cur.next
  | _ => cur

/-- The text behind the exponent of a number, if it has one. -/
def passExponent (cur : Cursor) : Except Complaint Cursor :=
  match cur.rest with
  | [] => .ok cur
  | c :: _ => if c = 'e' ∨ c = 'E' then passDigits cur.next.skipSign else .ok cur

/-- The text behind a number without its sign. -/
def passNumber (cur : Cursor) : Except Complaint Cursor :=
  passWhole cur >>= passFraction >>= passExponent

/-! ### Values -/

/-- The text behind a value that begins with neither bracket. -/
def passScalar (cur : Cursor) : Except Complaint Cursor :=
  match cur.rest with
  | [] => .error (cur.here .endInValue)
  | c :: _ =>
    if c = '"' then passString cur.rest.length cur.next
    else if c = 'n' then (readWord .null ['u', 'l', 'l'] cur.next).map Prod.snd
    else if c = 't' then (readWord .null ['r', 'u', 'e'] cur.next).map Prod.snd
    else if c = 'f' then (readWord .null ['a', 'l', 's', 'e'] cur.next).map Prod.snd
    else if c = '-' then passNumber cur.next
    else if isDigit c then passNumber cur
    else .error (cur.facing .valueWanted)

mutual

/-- The text behind a value, blanks before it included. The text has fewer than `fuel`
characters. -/
def passValue : (fuel : Nat) → Cursor → Except Complaint Cursor
  | 0, cur => .error (cur.here .endInValue)
  | fuel + 1, cur =>
    let cur := cur.skipBlanks
    match cur.rest with
    | '[' :: _ => passItems fuel true cur.next
    | '\x7b' :: _ => passMembers fuel true cur.next
    | _ => passScalar cur

/-- The text behind a list, from behind its bracket or behind an item. -/
def passItems : (fuel : Nat) → (first : Bool) → Cursor → Except Complaint Cursor
  | 0, _, cur => .error (cur.here .endInList)
  | fuel + 1, first, cur =>
    let cur := cur.skipBlanks
    match cur.rest with
    | [] => .error (cur.here .endInList)
    | ']' :: _ => .ok cur.next
    | c :: _ =>
      if first then passValue fuel cur >>= passItems fuel false
      else if c = ',' then passValue fuel cur.next >>= passItems fuel false
      else .error (cur.facing .listEndWanted)

/-- The text behind an object, from behind its bracket or behind a member. -/
def passMembers : (fuel : Nat) → (first : Bool) → Cursor → Except Complaint Cursor
  | 0, _, cur => .error (cur.here .endInObject)
  | fuel + 1, first, cur =>
    let cur := cur.skipBlanks
    match cur.rest with
    | [] => .error (cur.here .endInObject)
    | '\x7d' :: _ => .ok cur.next
    | c :: _ =>
      if first then passMember fuel cur
      else if c = ',' then passMember fuel cur.next.skipBlanks
      else .error (cur.facing .objectEndWanted)

/-- The text behind an object, from where a name has to begin. -/
def passMember : (fuel : Nat) → Cursor → Except Complaint Cursor
  | 0, cur => .error (cur.here .endInObject)
  | fuel + 1, cur =>
    match cur.rest with
    | [] => .error (cur.here .endInObject)
    | '"' :: _ => do
      let cur ← passString cur.rest.length cur.next
      let cur ← passColon cur
      let cur ← passValue fuel cur
      passMembers fuel false cur
    | _ => .error (cur.facing .keyWanted)

end

end Provisioning.Json
