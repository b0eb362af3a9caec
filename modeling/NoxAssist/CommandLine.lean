namespace NoxAssist.CommandLine

structure Options where
  builtins : Option String
  analyze : Option String
  offset : Option Nat
  stdio : Bool
deriving DecidableEq, Repr

inductive UsageError where
  | help
  | version
  | unknownArgument
  | invalidValue
  | tooManyValues
  | conflict
  | badOffset
  | missingAnalyze
deriving DecidableEq, Repr

inductive Key where
  | builtins
  | analyze
  | offset
deriving DecidableEq, Repr

/-- The words that have been read: the options that are settled, and the last option with its value
if it is not settled yet. -/
structure Progress where
  options : Options
  pending : Option (Key × Option String)
deriving DecidableEq, Repr

def Progress.start : Progress :=
  ⟨⟨none, none, none, false⟩, none⟩

/-- The number that a text writes in decimal digits, with a plus sign or not, below `2 ^ 64`. -/
def readOffset? (text : String) : Option Nat :=
  let digits := match text.toList with
    | '+' :: digits => digits
    | digits => digits
  if digits.isEmpty || !digits.all Char.isDigit then
    none
  else
    let value := digits.foldl (fun n c => n * 10 + (c.toNat - '0'.toNat)) 0
    if value < 0x10000000000000000 then some value else none

def Options.set (options : Options) (key : Key) (value : String) : Except UsageError Options :=
  match key with
  | .builtins =>
    if options.builtins.isSome then .error .conflict
    else if value.isEmpty then .error .invalidValue
    else .ok { options with builtins := some value }
  | .analyze =>
    if options.analyze.isSome then .error .conflict
    else .ok { options with analyze := some value }
  | .offset =>
    if options.offset.isSome then .error .conflict
    else
      match readOffset? value with
      | some offset => .ok { options with offset := some offset }
      | none => .error .badOffset

def Progress.settle (p : Progress) : Except UsageError Options :=
  match p.pending with
  | none => .ok p.options
  | some (_, none) => .error .invalidValue
  | some (key, some value) => p.options.set key value

def Key.ofName? : String → Option Key
  | "builtins" => some .builtins
  | "analyze" => some .analyze
  | "offset" => some .offset
  | _ => none

def Progress.readLong (p : Progress) (name : String) (value : Option String) :
    Except UsageError Progress :=
  match Key.ofName? name, value with
  | some key, some value => do
    return ⟨← (← p.settle).set key value, none⟩
  | some key, none => do
    return ⟨← p.settle, some (key, none)⟩
  | none, value =>
    if ["help", "version", "stdio"].contains name then
      if value.isSome then
        .error .tooManyValues
      else do
        let options ← p.settle
        if name == "help" then
          .error .help
        else if name == "version" then
          .error .version
        else if options.stdio then
          .error .conflict
        else
          return ⟨{ options with stdio := true }, none⟩
    else
      .error .unknownArgument

def Progress.readShort (p : Progress) (letter : Char) : Except UsageError Progress :=
  if letter == 'h' then do
    let _ ← p.settle
    .error .help
  else if letter == 'V' then do
    let _ ← p.settle
    .error .version
  else
    .error .unknownArgument

def Progress.readValue (p : Progress) (word : String) : Except UsageError Progress :=
  match p.pending with
  | some (key, none) => .ok { p with pending := some (key, some word) }
  | _ => .error .unknownArgument

def Progress.readWord (p : Progress) (word : String) : Except UsageError Progress :=
  match word.toList with
  | '-' :: '-' :: rest =>
    let name := String.ofList (rest.takeWhile (· != '='))
    match rest.dropWhile (· != '=') with
    | '=' :: value => p.readLong name (some (String.ofList value))
    | _ => p.readLong name none
  | '-' :: letter :: _ => p.readShort letter
  | _ => p.readValue word

def Progress.readWords (p : Progress) : List String → Except UsageError Options
  | [] => p.settle
  | word :: words =>
    if word == "--" then
      if words.isEmpty then p.settle else .error .unknownArgument
    else do
      (← p.readWord word).readWords words

def parse (words : List String) : Except UsageError Options := do
  let options ← Progress.start.readWords words
  if options.offset.isSome && options.analyze.isNone then
    .error .missingAnalyze
  else
    return options

end NoxAssist.CommandLine
