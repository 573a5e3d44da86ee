import Provisioning.Text.Basic

/-!
What of a web address is sent to the server: its path and its query. Characters that may not stand
there are percent-encoded, `.` and `..` segments are resolved, and what comes after a number sign is
left out.
-/

namespace Provisioning

namespace Text

/-! ### Percent-encoding -/

/-- A byte as a percent sign and two upper-case hexadecimal digits. -/
def percentByte (b : UInt8) : List Char :=
  let digit (n : Nat) : Char := if n < 10 then Char.ofNat (48 + n) else Char.ofNat (55 + n)
  ['%', digit (b.toNat / 16), digit (b.toNat % 16)]

/-- The bytes of a character, percent-encoded. -/
def percentChar (c : Char) : List Char :=
  (String.ofList [c]).toUTF8.toList.flatMap percentByte

/-- A text with every character that is outside ASCII, a control, or in `reserved`
percent-encoded. -/
def percentEncode (reserved : List Char) (cs : List Char) : List Char :=
  cs.flatMap fun c =>
    if c.toNat < 0x20 || 0x7E < c.toNat || reserved.contains c then percentChar c else [c]

/-- The ASCII characters that may not stand in the path of an address. -/
def pathReserved : List Char := [' ', '"', '#', '<', '>', '?', '\x60', '\x7b', '\x7d']

/-- The ASCII characters that may not stand in the query of a web address. -/
def queryReserved : List Char := [' ', '"', '#', '<', '>', '\'']

end Text

namespace Web

/-! ### Paths and queries -/

/-- The characters of an address that count: tabs and line ends never do, and blanks and controls
not at either end. -/
def cleaned (address : String) : List Char :=
  let isEdge (c : Char) : Bool := c.toNat ≤ 0x20
  let trimmed := ((address.toList.dropWhile isEdge).reverse.dropWhile isEdge).reverse
  trimmed.filter fun c => c != '\t' && c != '\n' && c != '\r'

/-- Either kind of slash, between which an address makes no difference. -/
def isSlash (c : Char) : Bool := c == '/' || c == '\\'

/-- Whether a path ends before the character. -/
def endsPath (c : Char) : Bool := c == '?' || c == '#'

/-- What comes after the scheme and the server. -/
def behindServer (cs : List Char) : List Char :=
  (((cs.dropWhile (· != ':')).drop 1).dropWhile isSlash).dropWhile
    fun c => !(isSlash c || endsPath c)

/-- Whether a segment is a dot, which may be percent-encoded, as often as `count` says. -/
def isDots : (count : Nat) → List Char → Bool
  | 0, cs => cs.isEmpty
  | count + 1, '.' :: cs => isDots count cs
  | count + 1, '%' :: '2' :: e :: cs => (e == 'e' || e == 'E') && isDots count cs
  | _ + 1, _ => false

/-- The segments of a path with those made of dots resolved; `before` are the ones that stand
before them, the nearest first. A path that ends in dots ends in a slash. -/
def resolve (before : List (List Char)) : List (List Char) → List (List Char)
  | [] => before.reverse
  | segment :: rest =>
    let here := if isDots 2 segment then before.tail else before
    if isDots 1 segment || isDots 2 segment then
      resolve (if rest.isEmpty then [] :: here else here) rest
    else resolve (segment :: here) rest

/-- The path of an address. -/
def path (behind : List Char) : List Char :=
  let written := (behind.takeWhile (!endsPath ·)).map fun c => if isSlash c then '/' else c
  let segments := resolve [] (Text.split '/' (written.drop 1))
  '/' :: Text.percentEncode Text.pathReserved (Text.join '/' segments)

/-- The query of an address with its question mark, if there is one. -/
def query (behind : List Char) : List Char :=
  match behind.dropWhile (!endsPath ·) with
  | '?' :: rest => '?' :: Text.percentEncode Text.queryReserved (rest.takeWhile (· != '#'))
  | _ => []

/-- The path and the query of an address. -/
def target (address : String) : String :=
  let behind := behindServer (cleaned address)
  String.ofList (path behind ++ query behind)

end Web

end Provisioning
