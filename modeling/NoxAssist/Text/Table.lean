import NoxAssist.Text.Hex

namespace NoxAssist.Text.Table

def entries (text : String) : List (List Char) :=
  (text.toList.splitOnP fun c => c == ' ' || c == '\n').filter (!·.isEmpty)

def range (entry : List Char) : Nat × Nat :=
  match entry.splitOn '-' with
  | [first, last] => (hexNumber first, hexNumber last)
  | _ => (hexNumber entry, hexNumber entry)

def ranges (text : String) : List (Nat × Nat) :=
  (entries text).map range

def sequence (entry : List Char) : List Nat :=
  (entry.splitOn '.').map hexNumber

def cut (mark : Char) (entry : List Char) : List Char × List Char :=
  (entry.takeWhile (· != mark), (entry.dropWhile (· != mark)).drop 1)

def valueAt (code : Nat) (rows : List ((Nat × Nat) × Nat)) : Nat :=
  match rows.find? fun row => row.1.1 ≤ code && code ≤ row.1.2 with
  | some row => row.2
  | none => 0

def values (text : String) : List ((Nat × Nat) × Nat) :=
  (entries text).map fun entry =>
    let (bounds, value) := cut ':' entry
    (range bounds, hexNumber value)

end NoxAssist.Text.Table
