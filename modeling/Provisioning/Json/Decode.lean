import Provisioning.Dictionary
import Provisioning.Json.Source

/-!
Taking JSON for values of given types. A record may stand as an object, whose members come in any
order, or as the list of its fields in the order of their declaration. Of several complaints about
one record the reader hears the one that comes first in the source; that a field is missing is
noticed only at its end.
-/

namespace Provisioning.Json

/-- A way to take a source for a value. -/
abbrev Decoder (α : Type) := Source → Except Complaint α

namespace Decode

/-! ### Plain values -/

/-- A string. -/
def string : Decoder String
  | .scalar (.str s) _ => .ok s
  | source => .error (source.refused "a string")

/-- A truth value. -/
def boolean : Decoder Bool
  | .scalar (.bool b) _ => .ok b
  | source => .error (source.refused "a boolean")

/-- An integer from zero up to the greatest one that the type of the given name holds. -/
def natural (typeName : String) (greatest : Nat) : Decoder Nat
  | .scalar (.int n) stop =>
    if 0 ≤ n ∧ n ≤ greatest then .ok n.toNat else .error ⟨.wrongValue (.int n) typeName, stop⟩
  | source => .error (source.refused typeName)

/-- An integer of 32 bits without sign. -/
def word32 : Decoder UInt32 := fun source => UInt32.ofNat <$> natural "u32" 4294967295 source

/-- An integer of 16 bits without sign. -/
def word16 : Decoder UInt16 := fun source => UInt16.ofNat <$> natural "u16" 65535 source

/-- A number, rounded if it is an integer that binary64 cannot hold. -/
def number : Decoder Binary64
  | .scalar (.int n) _ => .ok (.ofInt n)
  | .scalar (.float x) _ => .ok x
  | source => .error (source.refused "f64")

/-- A string that `read` accepts, the description saying what was wanted. -/
def label {α : Type} (wanted : String) (read : String → Option α) : Decoder α
  | .scalar (.str s) stop =>
    match read s with
    | some value => .ok value
    | none => .error ⟨.wrongValue (.str s) wanted, stop⟩
  | source => .error (source.refused wanted)

/-- A value, or null for none. -/
def nullable {α : Type} (read : Decoder α) : Decoder (Option α)
  | .scalar .null _ => .ok none
  | source => some <$> read source

/-! ### Lists and dictionaries -/

/-- The items of a list, up to the first that cannot be read. -/
def items {α : Type} (read : Decoder α) :
    List (Source × Option Complaint) → Except Complaint (List α)
  | [] => .ok []
  | (item, _) :: rest => do
    let value ← read item
    let values ← items read rest
    .ok (value :: values)

/-- The outcome of reading what a bracket holds, once its end is known. -/
def closed {α : Type} (close : Close) (value : α) : Except Complaint α :=
  match close with
  | .ended _ => .ok value
  | .broken c => .error c

/-- A list. -/
def list {α : Type} (read : Decoder α) : Decoder (List α)
  | .list _ its close => items read its >>= closed close
  | source => .error (source.refused "a sequence")

/-- The entries of an object whose values are strings. -/
def entries : List (Key × Source) → Except Complaint (List (String × String))
  | [] => .ok []
  | (key, source) :: rest => do
    let value ← string source
    let values ← entries rest
    .ok ((key.name, value) :: values)

/-- A dictionary. -/
def dictionary : Decoder Dictionary
  | .record _ members close => do
    let found ← entries members
    closed close (Dictionary.ofList found)
  | source => .error (source.refused "a map")

end Decode

/-! ### Records -/

/-- The outcome of reading a part of a record: a value, or a complaint with its rank among all that
could be made about the record. -/
def Ranked (α : Type) : Type := Except (Nat × Complaint) α

namespace Ranked

/-- A part that was read. -/
def value {α : Type} (a : α) : Ranked α := Except.ok a

/-- A part that could not be read. -/
def fail {α : Type} (rank : Nat) (c : Complaint) : Ranked α := Except.error (rank, c)

/-- A reader's outcome, at a rank. -/
def of {α : Type} (rank : Nat) : Except Complaint α → Ranked α
  | .ok a => value a
  | .error c => fail rank c

/-- Both parts, or the complaint of the lesser rank. -/
def both {α β : Type} : Ranked (α → β) → Ranked α → Ranked β
  | .ok f, .ok a => value (f a)
  | .error e, .ok _ => .error e
  | .ok _, .error e => .error e
  | .error e, .error e' => .error (if e'.1 < e.1 then e' else e)

instance : Applicative Ranked where
  pure := value
  seq f a := both f (a ())

/-- The outcome without its rank. -/
def done {α : Type} : Ranked α → Except Complaint α
  | .ok a => .ok a
  | .error e => .error e.2

end Ranked

/-- What a field becomes where its record does not give it. -/
inductive Absent (α : Type) where
  /-- The field must be given. -/
  | refused
  /-- An object may leave the field out; a list of fields may not. -/
  | inObject (value : α)
  /-- The field may be left out in either form. -/
  | anywhere (value : α)

/-- A record as it stands in its source. -/
structure Parts where
  /-- The name of the record's type. -/
  title : String
  /-- The names of its fields in the order of declaration. -/
  names : List String
  /-- The members, if it stands as an object, or the items, if it stands as a list. -/
  given : List (Key × Source) ⊕ List (Source × Option Complaint)
  close : Close

namespace Parts

/-- What a message calls a record with all its fields. -/
def wanted (p : Parts) : String :=
  "struct " ++ p.title ++ " with " ++ toString p.names.length
    ++ if p.names.length = 1 then " element" else " elements"

/-- A field that a record does not give. -/
def absent {α : Type} (p : Parts) (name : String) (inList : Bool) : Absent α → Ranked α
  | .anywhere value => .value value
  | .inObject value =>
    if inList then
      let index := p.names.idxOf name
      .fail (2 * index + 1) ⟨.wrongLength index p.wanted, p.close.stop⟩
    else .value value
  | .refused =>
    let index := p.names.idxOf name
    if inList then .fail (2 * index + 1) ⟨.wrongLength index p.wanted, p.close.stop⟩
    else
      let count := match p.given with
        | .inl members => members.length
        | .inr items => items.length
      .fail (2 * count + 1) ⟨.missingField name, p.close.stop⟩

/-- A field of a record. -/
def field {α : Type} (p : Parts) (name : String) (missing : Absent α) (read : Decoder α) :
    Ranked α :=
  match p.given with
  | .inl members =>
    match members.filter (fun m => m.1.name == name) with
    | [] => p.absent name false missing
    | [(_, source)] => .of (2 * members.findIdx (fun m => m.1.name == name)) (read source)
    | (_, source) :: (key, _) :: _ =>
      let first := members.findIdx (fun m => m.1.name == name)
      let second := first + 1 + (members.drop (first + 1)).findIdx (fun m => m.1.name == name)
      match read source with
      | .ok _ => .fail (2 * second) ⟨.duplicateField name, key.after⟩
      | .error c => .fail (2 * first) c
  | .inr items =>
    let index := p.names.idxOf name
    match items[index]? with
    | some (source, _) => .of (2 * index) (read source)
    | none => p.absent name true missing

/-- A field that must be given. -/
def required {α : Type} (p : Parts) (name : String) (read : Decoder α) : Ranked α :=
  p.field name .refused read

/-- A field with a value for where it is left out. -/
def withDefault {α : Type} (p : Parts) (name : String) (value : α) (read : Decoder α) : Ranked α :=
  p.field name (.anywhere value) read

/-- A field that may be null or left out. -/
def optional {α : Type} (p : Parts) (name : String) (read : Decoder α) : Ranked (Option α) :=
  p.field name (.anywhere none) (Decode.nullable read)

/-- A field that may be null, or left out of an object. -/
def nullable {α : Type} (p : Parts) (name : String) (read : Decoder α) : Ranked (Option α) :=
  p.field name (.inObject none) (Decode.nullable read)

/-- The first fault of the members that are not fields, with its rank. They are passed over. -/
def strangerFault (names : List String) : (index : Nat) → List (Key × Source) → Ranked Unit
  | _, [] => .value ()
  | index, (key, _) :: rest =>
    if names.contains key.name then strangerFault names (index + 1) rest
    else match key.passed with
      | some c => .fail (2 * index) c
      | none => strangerFault names (index + 1) rest

/-- The fault at the end of a record. A list has to end behind its last field. -/
def endFault (p : Parts) : Ranked Unit :=
  match p.given with
  | .inl members =>
    match p.close.fault? with
    | some c => .fail (2 * members.length) c
    | none => .value ()
  | .inr items =>
    match items[p.names.length - 1]? with
    | some (_, some c) => .fail (2 * p.names.length) c
    | _ =>
      if p.names.length < items.length then
        .fail (2 * p.names.length) ⟨.wrongLength items.length "fewer elements in array", none⟩
      else match p.close.fault? with
        | some c => .fail (2 * items.length) c
        | none => .value ()

/-- The faults of a record that none of its fields reports. -/
def loose (p : Parts) : Ranked Unit :=
  match p.given with
  | .inl members => (fun _ end_ => end_) <$> strangerFault p.names 0 members <*> p.endFault
  | .inr _ => p.endFault

end Parts

/-- A record: `build` puts it together from its fields. -/
def Decode.record {α : Type} (title : String) (names : List String) (build : Parts → Ranked α) :
    Decoder α := fun source =>
  let read (p : Parts) : Except Complaint α :=
    ((fun (_ : Unit) a => a) <$> p.loose <*> build p).done
  match source with
  | .record _ members close => read ⟨title, names, .inl members, close⟩
  | .list _ items close => read ⟨title, names, .inr items, close⟩
  | other => .error (other.refused ("struct " ++ title))

end Provisioning.Json
