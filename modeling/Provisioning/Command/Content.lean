import Provisioning.Document.Form
import Provisioning.Json.Reader
import Provisioning.Json.Writer
import Provisioning.Text.Basic

/-!
Files as a command finds them: what is at a path, what can be done to it, and the record that is
kept in one.
-/

namespace Provisioning.Command

/-- What is at a path. -/
inductive Content where
  | file (text : String)
  /-- A file whose bytes are no text. -/
  | garbled
  | directory
  /-- Nothing, but a file can be put there. -/
  | vacant
  /-- Nothing, and no directory that a file could be put into. -/
  | nowhere
  /-- Nothing, for the path leads through a file. -/
  | throughFile
  /-- Something that can be neither read nor written. -/
  | barred (reason : String)
deriving DecidableEq

/-- What is done to the file at a path. -/
inductive Change where
  | write (text : String)
  | remove
deriving DecidableEq

namespace Content

/-- What is said where a file or a directory is missing. -/
def missing : String := "No such file or directory (os error 2)"

/-- What is said where a file is taken for a directory. -/
def noDirectory : String := "Not a directory (os error 20)"

/-- What is said where a directory is taken for a file. -/
def noFile : String := "Is a directory (os error 21)"

/-- The text at a path, or why there is none. -/
def read : Content → Except String String
  | file text => .ok text
  | garbled => .error "stream did not contain valid UTF-8"
  | directory => .error noFile
  | vacant => .error missing
  | nowhere => .error missing
  | throughFile => .error noDirectory
  | barred reason => .error reason

/-- Whether there is anything at a path. -/
def isPresent : Content → Bool
  | file _ => true
  | garbled => true
  | directory => true
  | vacant => false
  | nowhere => false
  | throughFile => false
  | barred _ => true

/-- Why no file can be written at a path, if none can. -/
def writeError : Content → Option String
  | file _ => none
  | garbled => none
  | directory => some noFile
  | vacant => none
  | nowhere => some missing
  | throughFile => some noDirectory
  | barred reason => some reason

/-- What is at a path after a change, if there was one. -/
def after (before : Content) : Option Change → Content
  | none => before
  | some (.write text) => .file text
  | some .remove => .vacant

end Content

/-! ### Directories -/

/-- A directory: the texts of the files in and below it, each with the names that lead to it. -/
structure Directory where
  files : List (List String × String)

namespace Directory

/-- The names that a path consists of. -/
def names (path : String) : List String :=
  (Text.splitText '/' path).filter fun name => name != "" && name != "."

/-- Whether names lead to a directory. -/
def isDirectory (d : Directory) (at_ : List String) : Bool :=
  at_.isEmpty || d.files.any fun f => at_.isPrefixOf f.1 && at_ != f.1

/-- What is found by following names from a directory. Nothing is known of what is above the first
one. -/
def follow (d : Directory) (here : List String) : List String → Content
  | [] => .directory
  | name :: rest =>
    if name == "" || name == "." then d.follow here rest
    else if name == ".." then
      if here.isEmpty then .nowhere else d.follow here.dropLast rest
    else
      let there := here ++ [name]
      match d.files.lookup there with
      | some text => if rest.isEmpty then .file text else .throughFile
      | none =>
        if d.isDirectory there then d.follow there rest
        else if rest.isEmpty then .vacant else .nowhere

/-- What is at a path. Nothing is known of absolute ones, but that there is a root. -/
def find (d : Directory) (path : String) : Content :=
  if path.toList.head? = some '/' then
    if (names path).isEmpty then .directory else .nowhere
  else d.follow [] (Text.splitText '/' path)

/-- The directory with a change to the file at a path. -/
def put (d : Directory) (path : String) (change : Change) : Directory :=
  let others := d.files.filter fun f => f.1 != names path
  match change with
  | .write text => ⟨(names path, text) :: others⟩
  | .remove => ⟨others⟩

end Directory

/-! ### Records -/

/-- What is kept from one run to the next: the identifier of an object and the last document read
from it. The document has the secrets, so that they survive the next read. -/
structure Record (Doc : Type) where
  id : String
  configuration : Doc

namespace Record

variable {Doc : Type} [Document Doc]

/-- A record as JSON. -/
def toJson (r : Record Doc) : Json :=
  .obj [("id", .str r.id), ("configuration", Document.toJson r.configuration)]

/-- Reads a record from JSON. -/
def decode : Json.Decoder (Record Doc) :=
  Json.Decode.record "State" ["id", "configuration"] fun p => mk
    <$> p.required "id" Json.Decode.string
    <*> p.required "configuration" Document.decode

/-- A record as the text of its file. -/
def text (r : Record Doc) : String := r.toJson.pretty

/-- The record in the text of a file. -/
def ofText (text : String) : Except Json.Complaint (Record Doc) := Json.readAs decode text

end Record

end Provisioning.Command
