import NoxAssist.Decimal.Shortest
import NoxAssist.Json.Basic
import NoxAssist.Text.Hex

namespace NoxAssist

def Number.render : Number → String
  | .int n => toString n
  | .real bits => Decimal.render bits

namespace Json

def escapeChar (c : Char) : List Char :=
  if c = '"' then ['\\', '"']
  else if c = '\\' then ['\\', '\\']
  else if c = '\n' then ['\\', 'n']
  else if c = '\r' then ['\\', 'r']
  else if c = '\t' then ['\\', 't']
  else if c.toNat = 0x08 then ['\\', 'b']
  else if c.toNat = 0x0c then ['\\', 'f']
  else if c.toNat < 0x20 then ['\\', 'u', '0', '0'] ++ Text.hexPair c.toNat
  else [c]

def quoted (text : String) : String :=
  "\"" ++ String.ofList (text.toList.flatMap escapeChar) ++ "\""

mutual

def compact : Json → String
  | .null => "null"
  | .bool true => "true"
  | .bool false => "false"
  | .number n => n.render
  | .string text => quoted text
  | .array items => "[" ++ compactItems items ++ "]"
  | .object fields => "\x7b" ++ compactFields fields ++ "\x7d"

def compactItems : List Json → String
  | [] => ""
  | [item] => compact item
  | item :: items => compact item ++ "," ++ compactItems items

def compactFields : List (String × Json) → String
  | [] => ""
  | [(name, value)] => quoted name ++ ":" ++ compact value
  | (name, value) :: fields => quoted name ++ ":" ++ compact value ++ "," ++ compactFields fields

end

def newLine (level : Nat) : String :=
  "\n" ++ String.ofList (List.replicate (2 * level) ' ')

mutual

/-- A value that begins at a level; the lines inside it are one level deeper. -/
def prettyAt (level : Nat) : Json → String
  | .null => "null"
  | .bool true => "true"
  | .bool false => "false"
  | .number n => n.render
  | .string text => quoted text
  | .array [] => "[]"
  | .array (item :: items) => "[" ++ prettyItems (level + 1) (item :: items) ++ newLine level ++ "]"
  | .object [] => "\x7b\x7d"
  | .object (field :: fields) =>
    "\x7b" ++ prettyFields (level + 1) (field :: fields) ++ newLine level ++ "\x7d"

def prettyItems (level : Nat) : List Json → String
  | [] => ""
  | [item] => newLine level ++ prettyAt level item
  | item :: items => newLine level ++ prettyAt level item ++ "," ++ prettyItems level items

def prettyFields (level : Nat) : List (String × Json) → String
  | [] => ""
  | [(name, value)] => newLine level ++ quoted name ++ ": " ++ prettyAt level value
  | (name, value) :: fields =>
    newLine level ++ quoted name ++ ": " ++ prettyAt level value ++ ","
      ++ prettyFields level fields

end

def pretty (value : Json) : String :=
  prettyAt 0 value

end Json

end NoxAssist
