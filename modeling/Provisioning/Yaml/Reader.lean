import Provisioning.Yaml.Layout
import Provisioning.Yaml.Node

/-!
Reading documents in YAML from their tokens. Every step of the reader has less fuel than the one
before, and a text is read with more fuel than steps can be made on its tokens.
-/

namespace Provisioning.Yaml

/-- The tokens that are left of a text, and what is known about names: those of the document, and
the nodes that they were given to. -/
structure Supply where
  rest : List (Token × Place)
  names : List (String × Nat) := []
  /-- The number of names given so far. -/
  given : Nat := 0
  named : List (Nat × Node) := []

namespace Supply

/-- The next token. Behind the last one the text has ended. -/
def token (s : Supply) : Token := (s.rest.head?.map Prod.fst).getD .textEnd

/-- The place of the next token. -/
def place (s : Supply) : Place := (s.rest.head?.map Prod.snd).getD ⟨1, 0⟩

/-- The supply behind the next token. -/
def next (s : Supply) : Supply := { s with rest := s.rest.drop 1 }

/-- The flaw of a slip at the next token. -/
def slip {α : Type} (s : Supply) (slip : Slip) : Except Flaw α := .error (.slip slip s.place)

/-- The supply after a name is given to the node with the next number. -/
def withName (name : String) (s : Supply) : Supply :=
  { s with names := (name, s.given) :: s.names, given := s.given + 1 }

/-- The node that stands where nothing is written. -/
def absent (s : Supply) : Node × Supply := (.absent s.place, s)

end Supply

/-! ### Properties -/

/-- What is said about a node before it. -/
structure Properties where
  number : Option Nat := none
  tag : Option Tag := none

namespace Properties

/-- The properties with the tag that comes next, if there is one. -/
def withTag (p : Properties) (s : Supply) : Properties × Supply :=
  match s.token with
  | .tag tag => ({ p with tag := some tag }, s.next)
  | _ => (p, s)

/-- The properties with the name that comes next, if there is one. -/
def withName (p : Properties) (s : Supply) : Properties × Supply :=
  match s.token with
  | .name name => ({ p with number := some s.given }, s.next.withName name)
  | _ => (p, s)

/-- The properties that come next: a name and a tag in either order. -/
def read (s : Supply) : Properties × Supply :=
  match s.token with
  | .name _ =>
    let (p, s) := withName {} s
    p.withTag s
  | _ =>
    let (p, s) := withTag {} s
    if p.tag.isSome then p.withName s else (p, s)

/-- Whether there are no properties. -/
def isEmpty (p : Properties) : Bool := p.number.isNone && p.tag.isNone

/-- The supply once a node with the properties is known. -/
def settle (p : Properties) (node : Node) (s : Supply) : Supply :=
  match p.number with
  | some number => { s with named := (number, node) :: s.named }
  | none => s

end Properties

/-! ### Nodes -/

/-- Whether a token of a mapping by columns comes where a key or value of it is left out. -/
def endsEntry : Token → Bool
  | .key => true
  | .value => true
  | .blockEnd => true
  | _ => false

/-- Whether a token comes where a node between brackets is left out. -/
def endsFlowNode (closing : Token) (token : Token) : Bool :=
  token == .value || token == .comma || token == closing

mutual

/-- A node. Collections by columns can stand only outside of brackets, which `block` says; `bare`
says that the items of a list can come without a start of it, as they do at the column of a key. -/
def node (block bare : Bool) : (fuel : Nat) → Supply → Except Flaw (Node × Supply)
  | 0, s => s.slip .contentWanted
  | fuel + 1, s =>
    match s.token with
    | .reference name =>
      match s.names.lookup name with
      | some number => .ok (.reference s.place number, s.next)
      | none => s.slip .unknownName
    | _ => do
      let (p, s) := Properties.read s
      let (node, s) ← content block bare p fuel s
      return (node, p.settle node s)

/-- A node behind its properties. -/
def content (block bare : Bool) (p : Properties) :
    (fuel : Nat) → Supply → Except Flaw (Node × Supply)
  | 0, s => s.slip .contentWanted
  | fuel + 1, s =>
    let collected (read : Except Flaw (List Node × Supply)) : Except Flaw (Node × Supply) :=
      read.map fun (items, rest) => (.list s.place items, rest)
    let mapped (read : Except Flaw (List (Node × Node) × Supply)) : Except Flaw (Node × Supply) :=
      read.map fun (entries, rest) => (.mapping s.place entries, rest)
    match s.token, block, bare with
    | .scalar quoted text, _, _ => .ok (.scalar s.place p.tag quoted text, s.next)
    | .bracket, _, _ => collected (flowItems true fuel s.next)
    | .brace, _, _ => mapped (flowEntries true fuel s.next)
    | .listStart, true, _ => collected (blockItems fuel s.next)
    | .mappingStart, true, _ => mapped (blockEntries fuel s.next)
    | .item, _, true => collected (bareItems fuel s)
    | _, _, _ =>
      if p.isEmpty then s.slip .contentWanted else .ok (.scalar s.place p.tag false "", s)

/-- The items of a list by columns, and its end. -/
def blockItems : (fuel : Nat) → Supply → Except Flaw (List Node × Supply)
  | 0, s => s.slip .itemWanted
  | fuel + 1, s =>
    match s.token with
    | .blockEnd => .ok ([], s.next)
    | .item => do
      let s := s.next
      let (item, s) ←
        if s.token == .item || s.token == .blockEnd then pure s.absent else node true false fuel s
      let (items, s) ← blockItems fuel s
      return (item :: items, s)
    | _ => s.slip .itemWanted

/-- The items of a list without a start, which has no end either. -/
def bareItems : (fuel : Nat) → Supply → Except Flaw (List Node × Supply)
  | 0, s => s.slip .itemWanted
  | fuel + 1, s =>
    match s.token with
    | .item => do
      let s := s.next
      let (item, s) ←
        if s.token == .item || endsEntry s.token then pure s.absent else node true false fuel s
      let (items, s) ← bareItems fuel s
      return (item :: items, s)
    | _ => .ok ([], s)

/-- The entries of a mapping by columns, and its end. -/
def blockEntries : (fuel : Nat) → Supply → Except Flaw (List (Node × Node) × Supply)
  | 0, s => s.slip .keyWanted
  | fuel + 1, s =>
    match s.token with
    | .blockEnd => .ok ([], s.next)
    | .key => do
      let s := s.next
      let (key, s) ← if endsEntry s.token then pure s.absent else node true true fuel s
      blockEntry key fuel s
    | .value => blockEntry (.absent s.place) fuel s
    | _ => s.slip .keyWanted

/-- The value of a key of a mapping by columns, and the entries behind it. -/
def blockEntry (key : Node) : (fuel : Nat) → Supply → Except Flaw (List (Node × Node) × Supply)
  | 0, s => s.slip .keyWanted
  | fuel + 1, s => do
    let (value, s) ←
      if s.token != .value then pure s.absent
      else if endsEntry s.next.token then pure s.next.absent
      else node true true fuel s.next
    let (entries, s) ← blockEntries fuel s
    return ((key, value) :: entries, s)

/-- The items of a list between brackets, and its end. A comma stands before every item but the
`first`, and may stand before the end. -/
def flowItems (first : Bool) : (fuel : Nat) → Supply → Except Flaw (List Node × Supply)
  | 0, s => s.slip .listEndWanted
  | fuel + 1, s => do
    if s.token == .closingBracket then return ([], s.next)
    if !first && s.token != .comma then s.slip .listEndWanted
    let s := if first then s else s.next
    if s.token == .closingBracket then return ([], s.next)
    let (item, s) ←
      if s.token == .key then flowPair s.place fuel s.next else node false false fuel s
    let (items, s) ← flowItems false fuel s
    return (item :: items, s)

/-- An item that is a key with its value. -/
def flowPair (place : Place) : (fuel : Nat) → Supply → Except Flaw (Node × Supply)
  | 0, s => s.slip .contentWanted
  | fuel + 1, s => do
    let (key, s) ←
      if endsFlowNode .closingBracket s.token then pure (Node.absent s.place, s.next)
      else node false false fuel s
    let (value, s) ←
      if s.token != .value then pure s.absent
      else if s.next.token == .comma || s.next.token == .closingBracket then pure s.next.absent
      else node false false fuel s.next
    return (.mapping place [(key, value)], s)

/-- The entries of a mapping between brackets, and its end. A comma stands before every entry but
the `first`, and may stand before the end. -/
def flowEntries (first : Bool) : (fuel : Nat) → Supply → Except Flaw (List (Node × Node) × Supply)
  | 0, s => s.slip .mappingEndWanted
  | fuel + 1, s => do
    if s.token == .closingBrace then return ([], s.next)
    if !first && s.token != .comma then s.slip .mappingEndWanted
    let s := if first then s else s.next
    match s.token with
    | .closingBrace => return ([], s.next)
    | .key =>
      let s := s.next
      let (key, s) ←
        if endsFlowNode .closingBrace s.token then pure s.absent else node false false fuel s
      flowEntry key fuel s
    | .value => flowEntry (.absent s.place) fuel s
    | _ =>
      let (key, s) ← node false false fuel s
      let (entries, s) ← flowEntries false fuel s
      return ((key, .absent s.place) :: entries, s)

/-- The value of a key of a mapping between brackets, and the entries behind it. -/
def flowEntry (key : Node) : (fuel : Nat) → Supply → Except Flaw (List (Node × Node) × Supply)
  | 0, s => s.slip .mappingEndWanted
  | fuel + 1, s => do
    let (value, s) ←
      if s.token != .value then pure s.absent
      else if s.next.token == .comma || s.next.token == .closingBrace then pure s.next.absent
      else node false false fuel s.next
    let (entries, s) ← flowEntries false fuel s
    return ((key, value) :: entries, s)

end

/-! ### Documents -/

/-- The supply behind the tokens that are of no more use where they stand. -/
def Supply.dropWhile (p : Token → Bool) (s : Supply) : Supply :=
  { s with rest := s.rest.dropWhile fun t => p t.1 }

/-- Whether a token comes where a document is left out. -/
def endsDocument (token : Token) : Bool :=
  [Token.directive, .documentStart, .documentEnd, .textEnd].contains token

/-- A document behind its mark. -/
def markedDocument (fuel : Nat) (s : Supply) : Except Flaw (Node × Supply) := do
  let s := s.dropWhile (· == .directive)
  if s.token != .documentStart then s.slip .documentWanted
  if endsDocument s.next.token then return s.next.absent
  node true false fuel s.next

/-- The documents of a text. Only the first can come without a mark. Names are those of one
document. -/
def documents (first : Bool) : (fuel : Nat) → Supply → Except Flaw (List Node × Supply)
  | 0, s => .ok ([], s)
  | fuel + 1, s => do
    let s := if first then s else s.dropWhile (· == .documentEnd)
    let s := { s with names := [] }
    if s.token == .textEnd then return ([], s)
    let marked := !first || s.token == .directive || s.token == .documentStart
    let (document, s) ← if marked then markedDocument fuel s else node true false fuel s
    let s := if s.token == .documentEnd then s.next else s
    let (others, s) ← documents false fuel s
    return (document :: others, s)

/-- How many lists and mappings may be within each other. -/
def deepest : Nat := 128

/-- How many references may be followed for each mark of a text. -/
def referencesPerMark : Nat := 100

/-- The JSON value that the only document of a text stands for. -/
def readJson (text : String) : Except Flaw Json := do
  let tokens ← tokens text
  let (found, s) ← documents true (8 * tokens.length + 8) { rest := tokens }
  match found with
  | [] => .error .empty
  | document :: others =>
    let book : Book := ⟨s.named, referencesPerMark * Node.itemMarks found⟩
    let (value, _) ← (document.toJson book deepest []).run 0
    if others.isEmpty then return value else .error .secondDocument

end Provisioning.Yaml
