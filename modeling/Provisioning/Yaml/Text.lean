import Provisioning.Yaml.Cursor

/-!
The scalars of a document: plain, between quotes, and in blocks of lines. A line end within a plain
or quoted scalar is a blank, and so is one of a folded block; empty lines are line ends.
-/

namespace Provisioning.Yaml

/-! ### Gaps -/

/-- What stands between two words of a scalar: blanks, or line ends and the blanks around them. -/
structure Gap where
  blanks : List Char := []
  /-- The number of line ends. -/
  breaks : Nat := 0
  /-- Whether the gap begins with a line end that counts for nothing. -/
  escaped : Bool := false

namespace Gap

/-- The gap with one more blank, which counts only on the line of the word before. -/
def blank (g : Gap) (c : Char) : Gap :=
  if g.breaks = 0 && !g.escaped then { g with blanks := g.blanks ++ [c] } else g

/-- The gap with one more line end. -/
def lineEnd (g : Gap) : Gap := { g with blanks := [], breaks := g.breaks + 1 }

/-- What a gap adds to the text of a scalar. -/
def text (g : Gap) : List Char :=
  if g.escaped then List.replicate g.breaks '\n'
  else if g.breaks = 0 then g.blanks
  else if g.breaks = 1 then [' ']
  else List.replicate (g.breaks - 1) '\n'

end Gap

/-! ### Plain scalars -/

/-- A word of a plain scalar. -/
def plainWord (flow : Bool) : List Char → List Char
  | [] => []
  | c :: rest =>
    if isGap c || (c == ':' && endsKey flow rest) || (flow && isFlowIndicator c) then []
    else c :: plainWord flow rest

/-- The gap that goes on here, and the place behind it. On a later line than that of the word before
it, a tab may not stand before the column `least`. The text has fewer than `fuel` characters. -/
def plainGap (start : Place) (least : Nat) :
    (fuel : Nat) → Gap → Cursor → Except Flaw (Gap × Cursor)
  | 0, gap, cur => .ok (gap, cur)
  | fuel + 1, gap, cur =>
    match cur.rest with
    | [] => .ok (gap, cur)
    | c :: _ =>
      if isBreak c then plainGap start least fuel gap.lineEnd cur.skipBreak
      else if !isBlank c then .ok (gap, cur)
      else if 0 < gap.breaks && c = '\t' && cur.column < least then
        .error (.slip .tabInPlain start)
      else plainGap start least fuel (gap.blank c) cur.next

/-- The rest of a plain scalar, the gap behind it and the place behind that. Outside brackets, the
lines of the scalar reach up to the first that stands before the column `least`. -/
def plainFrom (flow : Bool) (start : Place) (least : Nat) :
    (fuel : Nat) → Gap → Cursor → Except Flaw (List Char × Gap × Cursor)
  | 0, gap, cur => .ok ([], gap, cur)
  | fuel + 1, gap, cur =>
    if cur.atDocumentMark || cur.rest.head? = some '#' then .ok ([], gap, cur)
    else
      let word := plainWord flow cur.rest
      let stop := cur.skip word.length
      let text := if word.isEmpty then [] else gap.text ++ word
      let gap := if word.isEmpty then gap else {}
      if !(stop.rest.head?.map isGap).getD false then .ok (text, gap, stop)
      else do
        let (gap, stop) ← plainGap start least stop.rest.length gap stop
        if !flow && stop.column < least then return (text, gap, stop)
        let (more, gap, stop) ← plainFrom flow start least fuel gap stop
        return (text ++ more, gap, stop)

/-- A plain scalar, and the place of the next thing behind it. The last part says whether a line
ends between them. -/
def plain (flow : Bool) (least : Nat) (cur : Cursor) : Except Flaw (String × Cursor × Bool) := do
  let (text, gap, stop) ← plainFrom flow cur.place least (cur.rest.length + 1) {} cur
  return (String.ofList text, stop, 0 < gap.breaks)

/-! ### Quoted scalars -/

/-- The value of a hexadecimal digit. -/
def hexDigit? (c : Char) : Option Nat :=
  if '0' ≤ c ∧ c ≤ '9' then some (c.toNat - 48)
  else if 'a' ≤ c ∧ c ≤ 'f' then some (c.toNat - 87)
  else if 'A' ≤ c ∧ c ≤ 'F' then some (c.toNat - 55)
  else none

/-- How many hexadecimal digits follow the letter of an escape. -/
def codeLength? : Char → Option Nat
  | 'x' => some 2
  | 'u' => some 4
  | 'U' => some 8
  | _ => none

/-- The character that a letter behind a backslash stands for. -/
def escaped? : Char → Option Char
  | '0' => some '\x00'
  | 'a' => some '\x07'
  | 'b' => some '\x08'
  | 't' => some '\t'
  | '\t' => some '\t'
  | 'n' => some '\n'
  | 'v' => some '\x0b'
  | 'f' => some '\x0c'
  | 'r' => some '\r'
  | 'e' => some '\x1b'
  | ' ' => some ' '
  | '"' => some '"'
  | '\'' => some '\''
  | '/' => some '/'
  | '\\' => some '\\'
  | 'N' => some '\u0085'
  | '_' => some '\u00a0'
  | 'L' => some '\u2028'
  | 'P' => some '\u2029'
  | _ => none

/-- The character of an escape, and how many characters it takes behind its backslash. -/
def escape (letter : Char) (rest : List Char) : Except Slip (Char × Nat) :=
  match codeLength? letter with
  | none =>
    match escaped? letter with
    | some c => .ok (c, 1)
    | none => .error .unknownEscape
  | some length =>
    match (rest.take length).mapM hexDigit? with
    | none => .error .hexDigitWanted
    | some digits =>
      let code := digits.foldl (fun n d => 16 * n + d) 0
      if digits.length < length then .error .hexDigitWanted
      else if code.isValidChar then .ok (Char.ofNat code, length + 1)
      else .error .noCharacter

/-- The rest of a quoted scalar behind a gap, and the place behind its closing quote. The text has
fewer than `fuel` characters. -/
def quotedFrom (quote : Char) (start : Place) :
    (fuel : Nat) → Gap → Cursor → Except Flaw (List Char × Cursor)
  | 0, _, _ => .error (.slip .endInQuotes start)
  | fuel + 1, gap, cur =>
    let go (taken : Nat) (text : List Char) : Except Flaw (List Char × Cursor) := do
      let (more, stop) ← quotedFrom quote start fuel {} (cur.skip taken)
      return (gap.text ++ text ++ more, stop)
    match cur.rest with
    | [] => .error (.slip .endInQuotes start)
    | c :: rest =>
      if cur.atDocumentMark then .error (.slip .markInQuotes start)
      else if c = quote then
        if quote = '\'' && rest.head? = some '\'' then go 2 ['\'']
        else .ok (gap.text, cur.next)
      else if isBreak c then quotedFrom quote start fuel gap.lineEnd cur.skipBreak
      else if isBlank c then quotedFrom quote start fuel (gap.blank c) cur.next
      else if c = '\\' && quote = '"' then
        match rest with
        | [] => .error (.slip .unknownEscape start)
        | letter :: rest =>
          if isBreak letter then do
            let (more, stop) ← quotedFrom quote start fuel { escaped := true } cur.next.skipBreak
            return (gap.text ++ more, stop)
          else match escape letter rest with
            | .ok (character, length) => go (length + 1) [character]
            | .error s => .error (.slip s start)
      else go 1 [c]

/-- A scalar between quotes, and the place behind it. -/
def quoted (quote : Char) (cur : Cursor) : Except Flaw (String × Cursor) := do
  let (text, stop) ← quotedFrom quote cur.place cur.rest.length {} cur.next
  return (String.ofList text, stop)

/-! ### Blocks of lines -/

/-- What is done about the line ends at the end of a block. -/
inductive Chomping where
  /-- One is kept. -/
  | clip
  /-- None is kept. -/
  | strip
  /-- All are kept. -/
  | keep

/-- How a block of lines is announced. -/
structure BlockHeader where
  chomping : Chomping := .clip
  /-- By how much the lines are set in, where that is said. -/
  indent : Option Nat := none

namespace BlockHeader

/-- The sign that says what is done about the last line ends. -/
def chomping? : List Char → Option Chomping
  | '+' :: _ => some .keep
  | '-' :: _ => some .strip
  | _ => none

/-- The digit that says by how much the lines are set in. -/
def indent? : List Char → Option Nat
  | c :: _ => if c.isDigit then some (c.toNat - 48) else none
  | [] => none

/-- The marks of a header, which come in either order, and how many there are. -/
def ofMarks (cs : List Char) : BlockHeader × Nat :=
  match chomping? cs, indent? cs with
  | some chomping, _ =>
    match indent? (cs.drop 1) with
    | some n => (⟨chomping, some n⟩, 2)
    | none => (⟨chomping, none⟩, 1)
  | none, some n =>
    match chomping? (cs.drop 1) with
    | some chomping => (⟨chomping, some n⟩, 2)
    | none => (⟨.clip, some n⟩, 1)
  | none, none => ({}, 0)

end BlockHeader

/-- The place behind empty lines and the blanks that the next line is set in by, and how many line
ends there are before it. The indent may be zero, which stands for one not known yet; `widest` is
the widest so far, and is given back with the rest. -/
def blockGap (start : Place) (indent : Nat) :
    (fuel : Nat) → (widest breaks : Nat) → Cursor → Except Flaw (Nat × Nat × Cursor)
  | 0, widest, breaks, cur => .ok (widest, breaks, cur)
  | fuel + 1, widest, breaks, cur =>
    let lead := (cur.rest.takeWhile (· = ' ')).length
    let cur := cur.skip (if indent = 0 then lead else min lead (indent - cur.column))
    let widest := max widest cur.column
    match cur.rest with
    | [] => .ok (widest, breaks, cur)
    | c :: _ =>
      if c = '\t' && (indent = 0 || cur.column < indent) then .error (.slip .tabInBlock start)
      else if isBreak c then blockGap start indent fuel widest (breaks + 1) cur.skipBreak
      else .ok (widest, breaks, cur)

/-- The lines of a block from here on, joined to the text before them, and the line ends that are
left behind them: one of the last line, if it has one, and those of the empty lines after it.
`joint` says whether there is a line before, `blank` whether that begins with a blank, and `breaks`
counts the empty lines after it. -/
def blockFrom (fold : Bool) (start : Place) (indent : Nat) :
    (fuel : Nat) → (joint blank : Bool) → (breaks : Nat) → Cursor →
    Except Flaw (List Char × Bool × Nat × Cursor)
  | 0, joint, _, breaks, cur => .ok ([], joint, breaks, cur)
  | fuel + 1, joint, blank, breaks, cur =>
    match cur.rest with
    | [] => .ok ([], joint, breaks, cur)
    | c :: _ =>
      if cur.column != indent then .ok ([], joint, breaks, cur)
      else
        let empty := List.replicate breaks '\n'
        let before :=
          if !joint then empty
          else if fold && !blank && !isBlank c then if breaks = 0 then [' '] else empty
          else '\n' :: empty
        let line := cur.rest.takeWhile (!isBreak ·)
        let stop := cur.skip line.length
        if stop.rest.isEmpty then .ok (before ++ line, false, 0, stop)
        else do
          let (_, breaks, below) ← blockGap start indent stop.rest.length 0 0 stop.skipBreak
          let (more, rest) ← blockFrom fold start indent fuel true (isBlank c) breaks below
          return (before ++ line ++ more, rest)

/-- A block of lines, the place of its first line and the place behind it. Where its header does not
say by how much the lines are set in, the first of them does, but it is set in to the column `least`
or further. -/
def block (fold : Bool) (least : Nat) (cur : Cursor) : Except Flaw (String × Place × Cursor) := do
  let (header, count) := BlockHeader.ofMarks cur.next.rest
  if let some 0 := header.indent then cur.slip .blockIndentZero
  let headed := (cur.skip (count + 1)).skipBlanks.skipComment
  if !headed.atLineEnd then cur.slip .blockLineEnd
  let known := match header.indent with
    | some n => least - 1 + n
    | none => 0
  let (widest, breaks, first) ←
    blockGap cur.place known (cur.rest.length + 1) 0 0 headed.skipBreak
  let indent := if known = 0 then max widest (max least 1) else known
  let (text, joint, breaks, stop) ←
    blockFrom fold cur.place indent (cur.rest.length + 1) false false breaks first
  let last : List Char := if joint then ['\n'] else []
  let ending : List Char := match header.chomping with
    | .strip => []
    | .clip => last
    | .keep => last ++ List.replicate breaks '\n'
  return (String.ofList (text ++ ending), first.place, stop)

end Provisioning.Yaml
