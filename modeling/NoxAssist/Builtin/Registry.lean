import NoxAssist.Builtin.Table
import NoxAssist.Text.Blank
import Std.Data.HashMap

namespace NoxAssist

structure Registry where
  entries : Array Builtin
  places : Std.HashMap String Nat

inductive NameFault where
  | blank (index : Nat)
  | repeated (name : String)
deriving DecidableEq, Repr

def NameFault.message : NameFault → String
  | .blank index => "builtin entry #" ++ toString index ++ " has an empty name"
  | .repeated name => "builtin '" ++ name ++ "' is defined more than once"

namespace Registry

def empty : Registry :=
  ⟨#[], ∅⟩

def add (r : Registry) (b : Builtin) : Except NameFault Registry :=
  if Text.isAllBlank b.name then
    .error (.blank r.entries.size)
  else if r.places.contains b.name then
    .error (.repeated b.name)
  else
    .ok ⟨r.entries.push b, r.places.insert b.name r.entries.size⟩

def ofList (builtins : List Builtin) : Except NameFault Registry :=
  builtins.foldlM add empty

def toList (r : Registry) : List Builtin :=
  r.entries.toList

def size (r : Registry) : Nat :=
  r.entries.size

def contains (r : Registry) (name : String) : Bool :=
  r.places.contains name

def get? (r : Registry) (name : String) : Option Builtin :=
  (r.places[name]?).bind fun place => r.entries[place]?

end Registry

inductive TableFault where
  | decoding (fault : Builtin.Table.Fault)
  | naming (fault : NameFault)
deriving DecidableEq, Repr

def TableFault.malformed : String :=
  "malformed builtin table"

def TableFault.message : TableFault → String
  | .decoding fault =>
    match fault.message? with
    | some reason => malformed ++ ": " ++ reason
    | none => malformed
  | .naming fault => fault.message

def Registry.ofTable (text : String) : Except TableFault Registry :=
  match Builtin.Table.decode text with
  | .error fault => .error (.decoding fault)
  | .ok builtins =>
    match Registry.ofList builtins with
    | .error fault => .error (.naming fault)
    | .ok registry => .ok registry

end NoxAssist
