import NoxAssist.Json.Found
import NoxAssist.Uri.Basic

/-!
# Shapes of messages

A schema says what JSON a part of a message has to be. `Schema.read` checks a value and brings it
into a normal form: unknown fields and absent optional fields are gone, addresses are in normal
form, and a record that is written as the array of its fields has become an object. If the value is
not of that shape, it says where the first difference lies.

A record may hold further records whose fields stand among its own. Such a record is always written
as an object, and its own fields are read first.
-/

namespace NoxAssist

/-! ## Differences -/

inductive Mismatch where
  | kind (found : Json.Found) (expected : String)
  | value (found : Json.Found) (expected : String)
  | length (count : Nat) (expected : String)
  | missing (field : String)
  | unknown (text : String) (known : List String)
  | noCase (union : String)
deriving DecidableEq, Repr

namespace Mismatch

def marked (word : String) : String :=
  "`" ++ word ++ "`"

def alternatives : List String → String
  | [word] => marked word
  | [first, second] => marked first ++ " or " ++ marked second
  | words => "one of " ++ ", ".intercalate (words.map marked)

def elements (count : Nat) : String :=
  toString count ++ (if count = 1 then " element" else " elements")

def message : Mismatch → String
  | .kind found expected => "invalid type: " ++ found.describe ++ ", expected " ++ expected
  | .value found expected => "invalid value: " ++ found.describe ++ ", expected " ++ expected
  | .length count expected => "invalid length " ++ toString count ++ ", expected " ++ expected
  | .missing field => "missing field " ++ marked field
  | .unknown text known =>
    "unknown variant " ++ marked text ++ ", expected " ++ alternatives known
  | .noCase union => "data did not match any variant of untagged enum " ++ union

end Mismatch

/-! ## Schemas -/

/-- The shape of a part of a message. A field of a record has a name, and may be absent from an
array at its end if the Boolean says so. -/
inductive Schema where
  | any
  | flag
  | text
  | integer (name : String) (low high : Int)
  | real (name : String)
  | uri
  | optional (shape : Schema)
  | orFlag (shape : Schema)
  | list (shape : Schema)
  | tuple (count : Nat) (shape : Schema)
  | table (shape : Schema)
  | uriTable (shape : Schema)
  /-- One of some texts, or an object with it as the name of a field that is null. -/
  | choice (texts : List String)
  | union (name : String) (shapes : List Schema)
  /-- A record whose kind is told by a field, or by the first item if it is an array. -/
  | tagged (tag : String) (kinds : List (String × Schema))
  | record (name : String) (fields : List (String × Bool × Schema))
  /-- An object with some fields, among which those of other records stand. -/
  | mixed (name : String) (fields : List (String × Bool × Schema)) (parts : List Schema)

namespace Schema

def unsigned : Schema :=
  .integer "u32" 0 0xffffffff

def signed : Schema :=
  .integer "i32" (-0x80000000) 0x7fffffff

def field (name : String) (shape : Schema) : String × Bool × Schema :=
  (name, false, shape)

def optionalField (name : String) (shape : Schema) : String × Bool × Schema :=
  (name, false, .optional shape)

def lackingField (name : String) (shape : Schema) : String × Bool × Schema :=
  (name, true, shape)

def isOptional : Schema → Bool
  | .optional _ => true
  | _ => false

/-! ## Fields -/

abbrev FieldResult :=
  String × Except Mismatch (Option Json)

def firstMismatch? (results : List FieldResult) : Option Mismatch :=
  results.findSome? fun result =>
    match result.2 with
    | .error mismatch => some mismatch
    | .ok _ => none

def present (results : List FieldResult) : List (String × Json) :=
  results.filterMap fun (name, result) =>
    match result with
    | .ok (some value) => some (name, value)
    | _ => none

def missingField? (fields : List (String × Bool × Schema)) (names : List String) :
    Option String :=
  (fields.find? fun (name, mayLack, shape) =>
    !mayLack && !shape.isOptional && !names.contains name).map (·.1)

def missingIndex? (fields : List (String × Bool × Schema)) (length : Nat) : Option Nat :=
  (fields.zipIdx.find? fun ((_, mayLack, _), index) => !mayLack && length ≤ index).map (·.2)

/-- The fields of an object, if they are all right: of several mismatches the one of the first name
counts. -/
def finishObject (fields : List (String × Bool × Schema)) (names : List String)
    (results : List FieldResult) : Except Mismatch (List (String × Json)) :=
  match firstMismatch? (results.mergeSort fun a b => a.1 ≤ b.1) with
  | some mismatch => .error mismatch
  | none =>
    match missingField? fields names with
    | some name => .error (.missing name)
    | none => .ok (present results)

def finishArray (isNested : Bool) (name : String) (fields : List (String × Bool × Schema))
    (length : Nat) (results : List FieldResult) : Except Mismatch (List (String × Json)) :=
  match firstMismatch? results, missingIndex? fields length with
  | some mismatch, _ => .error mismatch
  | none, some index =>
    .error (.length index (name ++ " with " ++ Mismatch.elements fields.length))
  | none, none =>
    if length ≤ fields.length then
      .ok (present results)
    else if isNested then
      .error (.length length (Mismatch.elements fields.length ++ " in sequence"))
    else
      .error (.length length "fewer elements in array")

def readChoice (texts : List String) : Json → Except Mismatch Json
  | .string word =>
    if texts.contains word then .ok (.string word) else .error (.unknown word texts)
  | .object [(word, value)] =>
    if texts.contains word then
      match value with
      | .null => .ok (.string word)
      | value => .error (.kind value.found "unit")
    else
      .error (.unknown word texts)
  | .object _ => .error (.value .object "map with a single key")
  | value => .error (.kind value.found "string or map")

def readUri (written : String) : Except Mismatch String :=
  match Uri.normalize written with
  | .ok address => .ok address
  | .error fault => .error (.value (.text written) fault.message)

def kindIndex? (kinds : List (String × Schema)) : Json → Option Nat
  | .string name => kinds.findIdx? fun kind => kind.1 == name
  | .number (.int n) => if 0 ≤ n ∧ n < kinds.length then some n.toNat else none
  | _ => none

def splitTag? (tag : String) : Json → Option (Json × Json)
  | .object fields =>
    ((Json.object fields).field? tag).map fun kind =>
      (kind, .object (fields.filter fun field => field.1 != tag))
  | .array (kind :: items) => some (kind, .array items)
  | _ => none

/-! ## Reading -/

mutual

/-- A value of a shape in normal form. `isNested` says that it is part of a record with mixed
fields. -/
def readIn (isNested : Bool) : Schema → Json → Except Mismatch Json
  | .any, value => .ok value
  | .flag, value =>
    match value with
    | .bool b => .ok (.bool b)
    | value => .error (.kind value.found "a boolean")
  | .text, value =>
    match value with
    | .string s => .ok (.string s)
    | value => .error (.kind value.found "a string")
  | .integer name low high, value =>
    match value with
    | .number (.int n) =>
      if low ≤ n ∧ n ≤ high then .ok (.ofInt n) else .error (.value value.found name)
    | value => .error (.kind value.found name)
  | .real name, value =>
    match value with
    | .number n => .ok (.number n)
    | value => .error (.kind value.found name)
  | .uri, value =>
    match value with
    | .string s => Json.string <$> readUri s
    | value => .error (.kind value.found "a string representing an URL")
  | .optional shape, value =>
    match value with
    | .null => .ok .null
    | value => readIn isNested shape value
  | .orFlag shape, value =>
    match value with
    | .bool b => .ok (.bool b)
    | value => readIn isNested shape value
  | .list shape, value =>
    match value with
    | .array items => Json.array <$> items.mapM fun item => readIn isNested shape item
    | value => .error (.kind value.found "a sequence")
  | .tuple count shape, value =>
    match value with
    | .array items =>
      if items.length = count then
        Json.array <$> items.mapM fun item => readIn isNested shape item
      else
        .error (.length items.length ("an array of length " ++ toString count))
    | value => .error (.kind value.found ("an array of length " ++ toString count))
  | .table shape, value =>
    match value with
    | .object fields =>
      Json.ofFields <$> fields.mapM fun (name, item) => do
        return (name, ← readIn isNested shape item)
    | value => .error (.kind value.found "a map")
  | .uriTable shape, value =>
    match value with
    | .object fields =>
      Json.ofFields <$> fields.mapM fun (name, item) => do
        return (← readUri name, ← readIn isNested shape item)
    | value => .error (.kind value.found "map")
  | .choice texts, value => readChoice texts value
  | .union name shapes, value =>
    match readFirst? shapes value with
    | some value => .ok value
    | none => .error (.noCase name)
  | .tagged tag kinds, value =>
    match splitTag? tag value with
    | none => .error (.missing tag)
    | some (kind, rest) =>
      match kindIndex? kinds kind with
      | none => .error (.kind kind.found "a kind")
      | some index => readKind index kinds rest
  | .record name fields, value =>
    match value with
    | .object entries => do
      let values := fields.map fun field => (Json.object entries).field? field.1
      let results := readFields isNested fields values
      return .ofFields (← finishObject fields (entries.map (·.1)) results)
    | .array items => do
      let results := readFields isNested fields (items.map some)
      return .ofFields (← finishArray isNested name fields items.length results)
    | value => .error (.kind value.found name)
  | .mixed name fields parts, value =>
    match value with
    | .object entries => do
      let values := fields.map fun field => (Json.object entries).field? field.1
      let results := readFields isNested fields values
      let own ← finishObject fields (entries.map (·.1)) results
      let others := entries.filter fun entry => !(fields.map (·.1)).contains entry.1
      return .ofFields (own ++ (← readParts parts (.object others)))
    | value => .error (.kind value.found name)

def readFields (isNested : Bool) :
    List (String × Bool × Schema) → List (Option Json) → List FieldResult
  | (name, _, shape) :: fields, value :: values =>
    let result : Except Mismatch (Option Json) :=
      match value with
      | none => .ok none
      | some value =>
        if value.isNull && shape.isOptional then .ok none
        else some <$> readIn isNested shape value
    (name, result) :: readFields isNested fields values
  | _, _ => []

def readFirst? : List Schema → Json → Option Json
  | [], _ => none
  | shape :: shapes, value =>
    match readIn true shape value with
    | .ok value => some value
    | .error _ => readFirst? shapes value

def readKind : Nat → List (String × Schema) → Json → Except Mismatch Json
  | _, [], value => .error (.kind value.found "a kind")
  | 0, (_, shape) :: _, value => readIn true shape value
  | index + 1, _ :: kinds, value => readKind index kinds value

def readParts : List Schema → Json → Except Mismatch (List (String × Json))
  | [], _ => .ok []
  | part :: parts, value => do
    let read ← readIn true part value
    return read.fields ++ (← readParts parts value)

end

def read (shape : Schema) (value : Json) : Except Mismatch Json :=
  readIn false shape value

end Schema

end NoxAssist
