/-!
Texts as lists of characters: sets of characters, what counts as blank, and texts made of parts with
a separator between them, such as the segments of an identifier and the words of a command line.
`split` and `join` undo each other on parts that are free of the separator.
-/

namespace Provisioning.Text

/-! ### Sets of characters -/

/-- A set of characters as the ascending codes at which membership flips, starting outside. So a
character belongs to it when an odd number of flips are passed on the way to its code. -/
structure CharSet where
  flips : List Nat

/-- Whether the character belongs to the set. -/
def CharSet.has (s : CharSet) (c : Char) : Bool :=
  (s.flips.takeWhile (· ≤ c.toNat)).length % 2 == 1

/-! ### Blanks -/

/-- The characters with the Unicode property `White_Space`. -/
def isSpace (c : Char) : Bool :=
  let n := c.toNat
  (9 ≤ n && n ≤ 13) || n == 0x20 || n == 0x85 || n == 0xA0 || n == 0x1680
    || (0x2000 ≤ n && n ≤ 0x200A) || n == 0x2028 || n == 0x2029 || n == 0x202F || n == 0x205F
    || n == 0x3000

/-- Whether a text holds nothing but white space. -/
def isBlank (s : String) : Bool :=
  s.toList.all isSpace

theorem isBlank_iff (s : String) : isBlank s = true ↔ ∀ c ∈ s.toList, isSpace c = true := by
  simp [isBlank]

@[simp] theorem isBlank_empty : isBlank "" = true := rfl

/-! ### Parts and separators -/

/-- The parts of a text between the separators. There is always at least one. -/
def split (sep : Char) : List Char → List (List Char)
  | [] => [[]]
  | c :: rest =>
    if c = sep then [] :: split sep rest
    else match split sep rest with
      | [] => [[c]]
      | part :: parts => (c :: part) :: parts

/-- The parts with one separator between any two. -/
def join (sep : Char) : List (List Char) → List Char
  | [] => []
  | [part] => part
  | part :: parts => part ++ sep :: join sep parts

theorem split_ne_nil (sep : Char) (cs : List Char) : split sep cs ≠ [] := by
  cases cs with
  | nil => simp [split]
  | cons c rest =>
    unfold split
    split
    · simp
    · split <;> simp

@[simp] theorem join_split (sep : Char) (cs : List Char) : join sep (split sep cs) = cs := by
  induction cs with
  | nil => rfl
  | cons c rest ih =>
    unfold split
    split
    · rename_i h
      subst h
      cases hs : split c rest with
      | nil => exact absurd hs (split_ne_nil c rest)
      | cons part parts => rw [hs] at ih; simp [join, ih]
    · cases hs : split sep rest with
      | nil => exact absurd hs (split_ne_nil sep rest)
      | cons part parts =>
        rw [hs] at ih
        cases parts with
        | nil => simpa [join] using ih
        | cons q qs => simpa [join] using ih

/-- A text without the given character at either end. -/
def trimBoth (edge : Char) (cs : List Char) : List Char :=
  ((cs.dropWhile (· = edge)).reverse.dropWhile (· = edge)).reverse

/-- A text without the given character at its end. -/
def trimEnd (edge : Char) (cs : List Char) : List Char :=
  (cs.reverse.dropWhile (· = edge)).reverse

/-- The parts of a text, as texts. -/
def splitText (sep : Char) (s : String) : List String :=
  (split sep s.toList).map String.ofList

end Provisioning.Text
