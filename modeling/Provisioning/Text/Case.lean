import Provisioning.Text.CaseTable

/-!
Letter case. Labels that a management plane reports are compared without regard to the case of
their ASCII letters (`equalFold`); locations and machine sizes are brought to lower case with the
full Unicode rules (`lower`), in which a capital sigma depends on where in the word it stands and
one letter becomes two characters.
-/

namespace Provisioning.Text

/-! ### ASCII -/

/-- The ASCII letters in lower case, every other character as it is. -/
def foldAscii (c : Char) : Char :=
  if 'A' ≤ c ∧ c ≤ 'Z' then Char.ofNat (c.toNat + 32) else c

/-- Equality up to the case of ASCII letters. -/
def equalFold (a b : String) : Bool :=
  a.toList.map foldAscii == b.toList.map foldAscii

@[simp] theorem equalFold_self (a : String) : equalFold a a = true := by
  simp [equalFold]

theorem equalFold_iff (a b : String) :
    equalFold a b = true ↔ a.toList.map foldAscii = b.toList.map foldAscii := by
  simp [equalFold]

/-! ### Unicode -/

/-- The code of a character's lower-case partner, or its own code if it has none. -/
def lowerCode (c : Nat) : Nat :=
  match lowerCaseRuns.find? (·.covers c) with
  | some run => (c + run.shift).toNat
  | none => c

/-- The lower-case form of a character, whatever stands around it. Only the dotted capital I needs
two characters: the letter and the dot. -/
def lowerChar (c : Char) : List Char :=
  if c = 'İ' then ['i', '\u0307'] else [Char.ofNat (lowerCode c.toNat)]

/-- Whether the first character that is not skipped for case is a cased one. -/
def casedAhead (cs : List Char) : Bool :=
  match cs.dropWhile caseIgnorable.has with
  | c :: _ => cased.has c
  | [] => false

/-- Lower-casing of the rest of a text, given what came before it, nearest first. A capital sigma
at the end of a word takes the final form. -/
def lowerAfter : List Char → List Char → List Char
  | _, [] => []
  | before, c :: rest =>
    (if c = 'Σ' then [if casedAhead before && !casedAhead rest then 'ς' else 'σ'] else lowerChar c)
      ++ lowerAfter (c :: before) rest

/-- A text in lower case. -/
def lower (s : String) : String :=
  String.ofList (lowerAfter [] s.toList)

end Provisioning.Text

namespace Provisioning

/-! ### Locations -/

/-- A location the way the management plane writes it: in lower case and without blanks, so that
`West Europe` is `westeurope`. -/
def normalizeLocation (location : String) : String :=
  Text.lower (String.ofList (location.toList.filter (· != ' ')))

end Provisioning
