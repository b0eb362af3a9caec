namespace NoxAssist

/-- A number: an integer of at most 64 bits, or a double by its bits. -/
inductive Number where
  | int (value : Int)
  | real (bits : UInt64)
deriving DecidableEq, Repr

inductive Json where
  | null
  | bool (value : Bool)
  | number (value : Number)
  | string (value : String)
  | array (items : List Json)
  | object (fields : List (String × Json))
deriving Repr

namespace Json

def insertField (name : String) (value : Json) : List (String × Json) → List (String × Json)
  | [] => [(name, value)]
  | field :: fields =>
    if name < field.1 then
      (name, value) :: field :: fields
    else if name = field.1 then
      (name, value) :: fields
    else
      field :: insertField name value fields

def ofFields (fields : List (String × Json)) : Json :=
  .object (fields.foldl (fun sorted (name, value) => insertField name value sorted) [])

def field? (name : String) : Json → Option Json
  | .object fields => (fields.find? fun field => field.1 == name).map (·.2)
  | _ => none

def fields : Json → List (String × Json)
  | .object fields => fields
  | _ => []

def isNull : Json → Bool
  | .null => true
  | _ => false

mutual

def depth : Json → Nat
  | .array items => depthOfItems items + 1
  | .object fields => depthOfFields fields + 1
  | _ => 0

def depthOfItems : List Json → Nat
  | [] => 0
  | item :: items => max item.depth (depthOfItems items)

def depthOfFields : List (String × Json) → Nat
  | [] => 0
  | field :: fields => max field.2.depth (depthOfFields fields)

end

def ofInt (n : Int) : Json :=
  .number (.int n)

def ofNat (n : Nat) : Json :=
  .number (.int n)

def ofStrings (texts : List String) : Json :=
  .array (texts.map .string)

def ofOption : Option Json → Json
  | some value => value
  | none => .null

theorem field?_insertField (name key : String) (value : Json) (fields : List (String × Json)) :
    (object (insertField key value fields)).field? name =
      if key = name then some value else (object fields).field? name := by
  induction fields with
  | nil => by_cases same : key = name <;> simp [insertField, field?, same]
  | cons head fields ih =>
    rw [insertField]
    split
    · by_cases same : key = name <;> simp [field?, same]
    · split
      · rename_i replaced
        by_cases same : key = name <;> simp [field?, ← replaced, same]
      · rename_i other
        by_cases here : head.1 = name
        · simp [field?, here, here ▸ other]
        · simpa [field?, here] using ih

theorem field?_ofFields (name : String) (fields : List (String × Json)) :
    (ofFields fields).field? name = (fields.reverse.find? fun field => field.1 == name).map (·.2) := by
  have along (sorted : List (String × Json)) :
      (object (fields.foldl (fun sorted (key, value) => insertField key value sorted) sorted)).field?
          name =
        ((fields.reverse.find? fun field => field.1 == name).map (·.2)).or
          ((object sorted).field? name) := by
    induction fields generalizing sorted with
    | nil => rfl
    | cons head fields ih =>
      rw [List.foldl_cons, ih, field?_insertField, List.reverse_cons, List.find?_append,
        Option.map_or, Option.or_assoc]
      by_cases same : head.1 = name <;> simp [same]
  rw [ofFields, along]
  exact Option.or_none

end Json

end NoxAssist
