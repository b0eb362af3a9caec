import NoxAssist.Json.Basic

namespace NoxAssist

inductive ArgumentPolicy where
  | clamp
  | raw
deriving DecidableEq, Repr

namespace ArgumentPolicy

def apply (policy : ArgumentPolicy) (argument count : Nat) : Nat :=
  match policy with
  | .clamp => min argument (count - 1)
  | .raw => argument

def name : ArgumentPolicy → String
  | .clamp => "clamp"
  | .raw => "raw"

def ofName? : String → Option ArgumentPolicy
  | "clamp" => some .clamp
  | "raw" => some .raw
  | _ => none

end ArgumentPolicy

structure Settings where
  completesKeywords : Bool
  completesBuiltins : Bool
  argumentPolicy : ArgumentPolicy
deriving DecidableEq, Repr

def Settings.default : Settings :=
  ⟨true, true, .clamp⟩

namespace Settings

/-- The values of the fields `names` of a record. It is an object, or an array of the values in the
order of `names`, which may lack the last ones but has no more. -/
def recordValues? (names : List String) : Json → Option (List (Option Json))
  | .object fields => some (names.map fun name => (Json.object fields).field? name)
  | .array items =>
    if items.length ≤ names.length then
      some (names.zipIdx.map fun (_, index) => items[index]?)
    else
      none
  | _ => none

def readFlag? : Option Json → Option Bool
  | none => some true
  | some .null => some true
  | some (.bool flag) => some flag
  | some _ => none

/-- A policy that may be absent or null; it is its name, or an object with its name as the only
field and null as that field's value. -/
def readPolicy? : Option Json → Option ArgumentPolicy
  | none => some .clamp
  | some .null => some .clamp
  | some (.string name) => ArgumentPolicy.ofName? name
  | some (.object [(name, .null)]) => ArgumentPolicy.ofName? name
  | some _ => none

def readCompletion? : Option Json → Option (Bool × Bool)
  | none => some (true, true)
  | some part => do
    match ← recordValues? ["keywords", "builtins"] part with
    | [keywords, builtins] => return (← readFlag? keywords, ← readFlag? builtins)
    | _ => none

def readSignatureHelp? : Option Json → Option ArgumentPolicy
  | none => some .clamp
  | some part => do
    match ← recordValues? ["activeParameter"] part with
    | [policy] => readPolicy? policy
    | _ => none

def ofSection? (part : Json) : Option Settings := do
  match ← recordValues? ["completion", "signatureHelp"] part with
  | [completion, signatureHelp] =>
    let (keywords, builtins) ← readCompletion? completion
    return ⟨keywords, builtins, ← readSignatureHelp? signatureHelp⟩
  | _ => none

def applySection (settings : Settings) (part : Json) : Settings × Bool :=
  match ofSection? part with
  | some new => (new, true)
  | none => (settings, false)

def apply (settings : Settings) (part : Json) : Settings :=
  (settings.applySection part).1

end Settings

end NoxAssist
