import NoxAssist.Json.Printer
import NoxAssist.Text.Quoted

namespace NoxAssist.Json

inductive Found where
  | null
  | bool (value : Bool)
  | number (value : Number)
  | text (value : String)
  | list
  | object
deriving DecidableEq, Repr

def Found.describe : Found → String
  | .null => "null"
  | .bool value => "boolean `" ++ (if value then "true" else "false") ++ "`"
  | .number (.int n) => "integer `" ++ toString n ++ "`"
  | .number (.real bits) => "floating point `" ++ Decimal.render bits ++ "`"
  | .text value => "string " ++ Text.quoted value
  | .list => "sequence"
  | .object => "map"

def found : Json → Found
  | .null => .null
  | .bool value => .bool value
  | .number value => .number value
  | .string value => .text value
  | .array _ => .list
  | .object _ => .object

end NoxAssist.Json
