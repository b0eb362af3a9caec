import NoxAssist.Path

namespace NoxAssist

inductive ReadFault where
  | zeroByte
  | nameTooLong
  | notFound
  | notDirectory
  | isDirectory
  | notText
  | other (reason : String)
deriving DecidableEq, Repr

def ReadFault.message : ReadFault → String
  | .zeroByte => "file name contained an unexpected NUL byte"
  | .nameTooLong => "File name too long (os error 36)"
  | .notFound => "No such file or directory (os error 2)"
  | .notDirectory => "Not a directory (os error 20)"
  | .isDirectory => "Is a directory (os error 21)"
  | .notText => "stream did not contain valid UTF-8"
  | .other reason => reason

inductive Node where
  | file (content : List UInt8)
  | directory (entries : List (String × Node))

namespace Node

def empty : Node :=
  .directory []

def entry? (name : String) : Node → Option Node
  | .directory entries => (entries.find? fun entry => entry.1 == name).map (·.2)
  | .file _ => none

def setEntry (node : Node) (name : String) (entry : Node) : Node :=
  match node with
  | .directory entries => .directory ((name, entry) :: entries.filter fun other => other.1 != name)
  | .file content => .file content

def place (content : Option (List UInt8)) : List String → Node → Node
  | [], node =>
    match content with
    | some bytes => .file bytes
    | none => node
  | name :: names, node =>
    node.setEntry name (place content names ((node.entry? name).getD empty))

/-- The directories at the root of a system. Of what they hold only the file without content
matters to a reader of files. -/
def system : Node :=
  .directory (("dev", .directory [("null", .file [])]) ::
    ["bin", "boot", "etc", "home", "lib", "mnt", "opt", "proc", "root", "run", "sbin", "srv", "sys",
      "tmp", "usr", "var"].map fun name => (name, empty))

def nameLimit : Nat :=
  255

def pathLimit : Nat :=
  4096

/-- Follows the segments of a path from a directory; `above` holds the directories above it, nearest
first. The root is taken to lie above itself. -/
def follow (above : List Node) (node : Node) : List String → Except ReadFault Node
  | [] => .ok node
  | name :: names =>
    match node with
    | .file _ => .error .notDirectory
    | .directory _ =>
      if name == "" || name == "." then
        follow above node names
      else if name == ".." then
        match above with
        | parent :: above => follow above parent names
        | [] => follow [] node names
      else if nameLimit < name.utf8ByteSize then
        .error .nameTooLong
      else
        match node.entry? name with
        | some entry => follow (node :: above) entry names
        | none => .error .notFound

def locate (working : Node) (path : String) : Except ReadFault Node :=
  if path.toList.contains '\x00' then
    .error .zeroByte
  else if path.isEmpty then
    .error .notFound
  else if pathLimit ≤ path.utf8ByteSize then
    .error .nameTooLong
  else if path.toList.head? == some '/' then
    follow [] system (Path.segments path)
  else
    follow [empty, system] working (Path.segments path)

def read (node : Node) (path : String) : Except ReadFault String := do
  match ← node.locate path with
  | .directory _ => .error .isDirectory
  | .file content =>
    match String.fromUTF8? ⟨content.toArray⟩ with
    | some text => .ok text
    | none => .error .notText

end Node

end NoxAssist
