import Provisioning.Yaml.Scalar
import Provisioning.Yaml.Word

/-!
Documents in YAML, of which JSON is a part: scalars, lists, mappings, and references to nodes that
stand elsewhere. A document is used as the JSON value that it stands for.
-/

namespace Provisioning.Yaml

/-- A part of a document, with its place. A reference says which of the named nodes it refers to, by
the number of those before it. -/
inductive Node where
  | scalar (place : Place) (tag : Option Tag) (quoted : Bool) (text : String)
  | list (place : Place) (items : List Node)
  | mapping (place : Place) (entries : List (Node × Node))
  | reference (place : Place) (number : Nat)

/-- The named nodes of a text by their numbers, and how many references to them may be followed. -/
structure Book where
  named : List (Nat × Node)
  limit : Nat

/-- A step of reading values, which counts the references that are followed. -/
abbrev Following : Type → Type := StateT Nat (Except Flaw)

namespace Node

/-- What stands where nothing is written. -/
def absent (place : Place) : Node := .scalar place none false "~"

mutual

/-- The number of marks that it takes to write a node: one for a scalar or a reference, two around
the parts of a collection. -/
def marks : Node → Nat
  | scalar .. => 1
  | reference .. => 1
  | list _ items => 2 + itemMarks items
  | mapping _ entries => 2 + entryMarks entries

/-- The number of marks of the items of a list. -/
def itemMarks : List Node → Nat
  | [] => 0
  | item :: items => item.marks + itemMarks items

/-- The number of marks of the entries of a mapping. -/
def entryMarks : List (Node × Node) → Nat
  | [] => 0
  | (key, value) :: entries => key.marks + value.marks + entryMarks entries

end

/-! ### Values -/

/-- What a scalar stands for. -/
def scalarJson (tag : Option Tag) (quoted : Bool) (text : String) : Except Misfit Json :=
  match tag with
  | some tag =>
    if tag.handle = "!!" then (resolveAs tag.suffix text).mapError .fault else .ok (.str text)
  | none =>
    if quoted then .ok (.str text)
    else match resolve? text with
      | some value => .ok value
      | none => .error .tooWide

/-- The node that is meant: the one that a reference refers to, or else the node itself. -/
def meant (book : Book) : Node → Following Node
  | reference place number => do
    let followed ← get
    if book.limit ≤ followed then throw .tooManyReferences
    set (followed + 1)
    return (book.named.lookup number).getD (absent place)
  | node => return node

/-- The name of the member that a key stands for. -/
def keyName (book : Book) (path : List Step) (wanted : String) (key : Node) :
    Following String := do
  match ← key.meant book with
  | scalar _ _ _ text => return text
  | list place _ => throw (.misfit path (.fault (.wrongType .sequence wanted)) place)
  | mapping place _ => throw (.misfit path (.fault (.wrongType .map wanted)) place)
  | reference .. => throw .tooManyReferences

/-- The step to the member of a key. -/
def keyStep : Node → Step
  | scalar _ _ _ text => .member text
  | _ => .unnamed

/-- The values of the items of a list, from the one with the given index on. -/
def itemsJson (value : Step → Node → Following Json) :
    (index : Nat) → List Node → Following (List Json)
  | _, [] => return []
  | index, item :: items => do
    let first ← value (.item index) item
    let others ← itemsJson value (index + 1) items
    return first :: others

/-- The members of a mapping, added to those before them. They come in ascending order of their
names, and of several with one name the last one stands. -/
def entriesJson (name : String → Node → Following String) (value : Step → Node → Following Json)
    (wanted : String) (before : List (String × Json)) :
    List (Node × Node) → Following (List (String × Json))
  | [] => return before
  | (key, node) :: entries => do
    let member ← name wanted key
    let found ← value (keyStep key) node
    entriesJson name value "a string" (Json.putMember member found before) entries

/-- The JSON value that a node stands for. At most `depth` collections may be within each other. -/
def toJson (book : Book) : (depth : Nat) → (path : List Step) → Node → Following Json
  | depth, path, node => do
    match ← node.meant book, depth with
    | scalar place tag quoted text, _ =>
      match scalarJson tag quoted text with
      | .ok value => return value
      | .error m => throw (.misfit path m place)
    | reference .., _ => throw .tooManyReferences
    | list .., 0 => throw .tooDeep
    | mapping .., 0 => throw .tooDeep
    | list _ items, depth + 1 =>
      .arr <$> itemsJson (fun step => toJson book depth (step :: path)) 0 items
    | mapping _ entries, depth + 1 =>
      .obj <$> entriesJson (keyName book path) (fun step => toJson book depth (step :: path))
        "a string key" [] entries

end Node

end Provisioning.Yaml
