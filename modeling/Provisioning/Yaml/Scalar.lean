import Provisioning.Json.Source

/-!
What the plain scalars of a document stand for. An unquoted word is null, a truth value or a number
if it is spelled like one, and a text otherwise. Numbers come in decimal, hexadecimal, octal and
binary; a decimal number with leading zeros is a text, and so is one that is too great for a
binary64.
-/

namespace Provisioning.Yaml

/-! ### Numbers -/

/-- The value of a digit in a base. -/
def digit? (base : Nat) (c : Char) : Option Nat :=
  let value :=
    if '0' ≤ c ∧ c ≤ '9' then c.toNat - 48
    else if 'a' ≤ c ∧ c ≤ 'z' then c.toNat - 87
    else if 'A' ≤ c ∧ c ≤ 'Z' then c.toNat - 55
    else base
  if value < base then some value else none

/-- The number of which the digits, at least one, are given. -/
def natural? (base : Nat) (digits : List Char) : Option Nat :=
  match digits with
  | [] => none
  | _ => digits.foldlM (fun n c => (digit? base c).map (base * n + ·)) 0

/-- The number without the plus sign that may stand before it. -/
def dropPlus : List Char → List Char
  | '+' :: digits => digits
  | digits => digits

/-- The base that a letter after a zero stands for. -/
def base? : Char → Option Nat
  | 'x' => some 16
  | 'o' => some 8
  | 'b' => some 2
  | _ => none

/-- The number after the letter of its base: up to 64 bits without a minus sign, or 64 bits with
one. -/
def based? (cs : List Char) : Option Int :=
  match cs with
  | '-' :: '0' :: letter :: digits => do
    let n ← natural? (← base? letter) digits
    if n ≤ 0x8000000000000000 then some (-n) else none
  | _ =>
    match dropPlus cs with
    | '0' :: letter :: digits => do
      let n ← natural? (← base? letter) (dropPlus digits)
      if n < 0x10000000000000000 then some n else none
    | _ => none

/-- A number without its sign. -/
def dropSign : List Char → List Char
  | '+' :: digits => digits
  | '-' :: digits => digits
  | digits => digits

/-- Whether a decimal number has leading zeros. -/
def hasLeadingZeros (cs : List Char) : Bool :=
  match dropSign cs with
  | '0' :: c :: digits => (c :: digits).all Char.isDigit
  | _ => false

/-- A decimal integer. -/
def integer? : List Char → Option Int
  | '-' :: digits => (natural? 10 digits).map fun n => -(n : Int)
  | digits => (natural? 10 (dropPlus digits)).map fun n => (n : Int)

/-- The digits before and after a decimal point, if there are any, and what follows them. -/
def mantissa? (cs : List Char) : Option (List Char × List Char × List Char) :=
  let whole := cs.takeWhile Char.isDigit
  match cs.dropWhile Char.isDigit with
  | '.' :: rest =>
    let fraction := rest.takeWhile Char.isDigit
    if whole.isEmpty && fraction.isEmpty then none
    else some (whole, fraction, rest.dropWhile Char.isDigit)
  | rest => if whole.isEmpty then none else some (whole, [], rest)

/-- The exponent at the end of a decimal number. -/
def exponent? : List Char → Option Int
  | [] => some 0
  | c :: digits => if c = 'e' ∨ c = 'E' then integer? digits else none

/-- A decimal number, as the nearest binary64 if that is finite. -/
def float? (cs : List Char) : Option Binary64 := do
  let (whole, fraction, rest) ← mantissa? (dropSign cs)
  let exponent ← exponent? rest
  let significand ← natural? 10 (whole ++ fraction)
  let magnitude := Decimal.exact ⟨significand, exponent - fraction.length⟩
  if magnitude < Binary64.infinite then
    some (.ofMagnitude (cs.head? = some '-') magnitude)
  else none

/-! ### Words -/

/-- Whether a word stands for a number that is infinite or undefined. -/
def isUnbounded (text : String) : Bool :=
  let bare := String.ofList (text.toList.dropWhile (· = '+'))
  [".inf", ".Inf", ".INF"].contains bare
    || ["-.inf", "-.Inf", "-.INF", ".nan", ".NaN", ".NAN"].contains text

/-- What a number that JSON has no notation for becomes. -/
def unbounded : Json := .null

/-- Whether an integer is one that JSON texts are read with. -/
def fitsInteger (n : Int) : Bool := -0x8000000000000000 ≤ n && n < 0x10000000000000000

/-- Whether an integer fits 128 bits. -/
def fitsWide (n : Int) : Bool :=
  -0x80000000000000000000000000000000 ≤ n && n < 0x100000000000000000000000000000000

/-- What a plain scalar stands for. There is nothing that an integer of between 64 and 128 bits
could stand for; a greater one is rounded. -/
def resolve? (text : String) : Option Json :=
  let cs := text.toList
  if text == "~" || text == "null" then some .null
  else if text == "true" then some (.bool true)
  else if text == "false" then some (.bool false)
  else if let some n := based? cs then some (.int n)
  else if hasLeadingZeros cs then some (.str text)
  else
    let other : Json :=
      if isUnbounded text then unbounded
      else match float? cs with
        | some x => .float x
        | none => .str text
    match integer? cs with
    | some n => if fitsInteger n then some (.int n) else if fitsWide n then none else some other
    | none => some other

/-! ### Tagged words -/

/-- A decimal number, infinite or undefined ones included, as a value. -/
def floatValue? (text : String) : Option Json :=
  let bare := (String.ofList (dropSign text.toList)).toLower
  if ["inf", "infinity", "nan"].contains bare then some unbounded
  else match mantissa? (dropSign text.toList) with
    | none => none
    | some (_, _, rest) =>
      (exponent? rest).map fun _ =>
        match float? text.toList with
        | some x => .float x
        | none => unbounded

/-- What a scalar stands for whose tag is that of a scalar type. The tags of other types make it a
text. -/
def resolveAs (type text : String) : Except Json.Fault Json :=
  let refused (wanted : String) : Except Json.Fault Json :=
    .error (.wrongValue (.str text) wanted)
  match type with
  | "bool" =>
    if text == "true" then .ok (.bool true) else if text == "false" then .ok (.bool false)
    else refused "a boolean"
  | "int" =>
    match integer? text.toList with
    | some n =>
      if -0x8000000000000000 ≤ n && n < 0x8000000000000000 then .ok (.int n)
      else refused "an integer"
    | none => refused "an integer"
  | "float" =>
    match floatValue? text with
    | some value => .ok value
    | none => refused "a float"
  | "null" => if text == "~" || text == "null" then .ok .null else refused "null"
  | _ => .ok (.str text)

end Provisioning.Yaml
