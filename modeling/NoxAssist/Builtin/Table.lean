import NoxAssist.Builtin.Basic
import NoxAssist.Json.Found
import NoxAssist.Json.Reader

/-!
# Tables of builtins

A table is a JSON array of entries. An entry, its signature and each parameter label is a *record*:
an object with its fields in any order, or the array of its fields in their order. Descriptions and
parameters may be left out. Unknown fields of an object are passed over.

The table is read from left to right, and the first thing that does not fit decides the fault, also
when the text is not JSON further on.
-/

namespace NoxAssist.Builtin.Table

open Json (Flaw Found)

/-! ## Faults -/

inductive Kind where
  | entry
  | signature
  | parameter
deriving DecidableEq, Repr

inductive Expected where
  | list
  | text
  | record (kind : Kind)
deriving DecidableEq, Repr

inductive Fault where
  | json (flaw : Flaw)
  | missing (field : String)
  | repeated (field : String)
  | misfit (found : Found) (expected : Expected)
  | tooShort (length : Nat) (kind : Kind)
deriving DecidableEq, Repr

def Kind.title : Kind → String
  | .entry => "struct BuiltinEntry"
  | .signature => "struct BuiltinSignature"
  | .parameter => "struct ParameterLabel"

def Kind.arity : Kind → String
  | .entry => "5 elements"
  | .signature => "2 elements"
  | .parameter => "1 element"

def Expected.describe : Expected → String
  | .list => "a sequence"
  | .text => "a string"
  | .record kind => kind.title

def Fault.message? : Fault → Option String
  | .json _ => none
  | .missing field => some ("missing field `" ++ field ++ "`")
  | .repeated field => some ("duplicate field `" ++ field ++ "`")
  | .misfit found expected =>
    some ("invalid type: " ++ found.describe ++ ", expected " ++ expected.describe)
  | .tooShort length kind =>
    some ("invalid length " ++ toString length ++ ", expected " ++ kind.title ++ " with "
      ++ kind.arity)

/-! ## Readers -/

def lift {α : Type} : Except Flaw α → Except Fault α
  | .ok a => .ok a
  | .error flaw => .error (.json flaw)

/-- Reads what stands at the start of `text`, which is not white space, where it does not belong. A
list or an object is not read further than its bracket. -/
def readFound (text : List Char) : Except Flaw Found :=
  match text with
  | [] => .error .truncated
  | '[' :: _ => .ok .list
  | '{' :: _ => .ok .object
  | '"' :: text => do return .text (← Json.readString [] text).1
  | 'n' :: text => do
    let _ ← Json.readWord ['u', 'l', 'l'] text
    return .null
  | 't' :: text => do
    let _ ← Json.readWord ['r', 'u', 'e'] text
    return .bool true
  | 'f' :: text => do
    let _ ← Json.readWord ['a', 'l', 's', 'e'] text
    return .bool false
  | '-' :: text => do return .number (← Json.readNumber true text).1
  | text => do return .number (← Json.readNumber false text).1

def refuse {α : Type} (expected : Expected) (text : List Char) : Except Fault α :=
  match readFound text with
  | .ok found => .error (.misfit found expected)
  | .error flaw => .error (.json flaw)

def readText (text : List Char) : Except Fault (String × List Char) :=
  match Json.skipSpace text with
  | '"' :: text => lift (Json.readString [] text)
  | text => refuse .text text

def nextItem? (isFirst : Bool) (text : List Char) : Except Flaw (Option (List Char)) :=
  match Json.skipSpace text with
  | [] => .error .truncated
  | ']' :: _ => .ok none
  | ',' :: rest =>
    if isFirst then
      .ok (some (',' :: rest))
    else
      match Json.skipSpace rest with
      | [] => .error .truncated
      | ']' :: _ => .error .malformed
      | rest => .ok (some rest)
  | rest => if isFirst then .ok (some rest) else .error .malformed

def closeArray (text : List Char) : Except Flaw (List Char) :=
  match Json.skipSpace text with
  | [] => .error .truncated
  | ']' :: rest => .ok rest
  | _ => .error .malformed

def nextField? (isFirst : Bool) (text : List Char) :
    Except Flaw (Option (String × List Char)) :=
  match Json.skipSpace text with
  | [] => .error .truncated
  | '}' :: _ => .ok none
  | '"' :: rest => if isFirst then some <$> Json.readString [] rest else .error .malformed
  | ',' :: rest =>
    if isFirst then
      .error .malformed
    else
      match Json.skipSpace rest with
      | [] => .error .truncated
      | '"' :: rest => some <$> Json.readString [] rest
      | _ => .error .malformed
  | _ => .error .malformed

def closeObject (text : List Char) : Except Flaw (List Char) :=
  match Json.skipSpace text with
  | [] => .error .truncated
  | '}' :: rest => .ok rest
  | _ => .error .malformed

def readColon (text : List Char) : Except Flaw (List Char) :=
  match Json.skipSpace text with
  | [] => .error .truncated
  | ':' :: rest => .ok rest
  | _ => .error .malformed

/-! ## Lists -/

/-- Reads the items of a list up to its end; `read` holds the items before, last one first, and
`fuel` bounds their number. -/
def readItems {α : Type} (item : List Char → Except Fault (α × List Char)) :
    Nat → List α → List Char → Except Fault (List α × List Char)
  | 0, _, _ => .error (.json .malformed)
  | fuel + 1, read, text => do
    match ← lift (nextItem? read.isEmpty text) with
    | none => return (read.reverse, ← lift (closeArray text))
    | some text =>
      let (value, text) ← item text
      readItems item fuel (value :: read) text

def readList {α : Type} (item : List Char → Except Fault (α × List Char)) (text : List Char) :
    Except Fault (List α × List Char) :=
  match Json.skipSpace text with
  | '[' :: text => readItems item (text.length + 1) [] text
  | text => refuse .list text

/-! ## Records -/

structure Field (δ : Type) where
  name : String
  isRequired : Bool
  isPresent : δ → Bool
  read : δ → List Char → Except Fault (δ × List Char)

def firstLacking? {δ : Type} (fields : List (Field δ)) (draft : δ) : Option (Field δ × Nat) :=
  fields.zipIdx.find? fun (field, _) => field.isRequired && !field.isPresent draft

def readArrayForm {δ : Type} :
    List (Field δ) → Bool → δ → List Char → Except Fault (δ × List Char)
  | [], _, draft, text => do return (draft, ← lift (closeArray text))
  | field :: fields, isFirst, draft, text => do
    match ← lift (nextItem? isFirst text) with
    | none => return (draft, ← lift (closeArray text))
    | some text =>
      let (draft, text) ← field.read draft text
      readArrayForm fields false draft text

def readObjectForm {δ : Type} (fields : List (Field δ)) :
    Nat → Bool → δ → List Char → Except Fault (δ × List Char)
  | 0, _, _, _ => .error (.json .malformed)
  | fuel + 1, isFirst, draft, text => do
    match ← lift (nextField? isFirst text) with
    | none => return (draft, ← lift (closeObject text))
    | some (name, text) =>
      match fields.find? fun field => field.name == name with
      | some field =>
        if field.isPresent draft then
          .error (.repeated name)
        else
          let (draft, text) ← field.read draft (← lift (readColon text))
          readObjectForm fields fuel false draft text
      | none =>
        let text ← lift (readColon text)
        let text ← lift (Json.skipValue text)
        readObjectForm fields fuel false draft text

def readRecord {δ : Type} (kind : Kind) (fields : List (Field δ)) (empty : δ)
    (text : List Char) : Except Fault (δ × List Char) :=
  match Json.skipSpace text with
  | '[' :: text => do
    let (draft, text) ← readArrayForm fields true empty text
    match firstLacking? fields draft with
    | some (_, index) => .error (.tooShort index kind)
    | none => return (draft, text)
  | '{' :: text => do
    let (draft, text) ← readObjectForm fields (text.length + 1) true empty text
    match firstLacking? fields draft with
    | some (field, _) => .error (.missing field.name)
    | none => return (draft, text)
  | text => refuse (.record kind) text

/-! ## Parameters, signatures and entries -/

def parameterFields : List (Field (Option String)) :=
  [{ name := "label"
     isRequired := true
     isPresent := Option.isSome
     read := fun _ text => do
       let (label, text) ← readText text
       return (some label, text) }]

def readParameter (text : List Char) : Except Fault (String × List Char) := do
  let (draft, text) ← readRecord .parameter parameterFields none text
  return (draft.getD "", text)

structure SignatureDraft where
  label : Option String
  parameters : Option (List String)
deriving DecidableEq, Repr

def signatureFields : List (Field SignatureDraft) :=
  [{ name := "label"
     isRequired := true
     isPresent := fun draft => draft.label.isSome
     read := fun draft text => do
       let (label, text) ← readText text
       return ({ draft with label := some label }, text) },
   { name := "parameters"
     isRequired := false
     isPresent := fun draft => draft.parameters.isSome
     read := fun draft text => do
       let (parameters, text) ← readList readParameter text
       return ({ draft with parameters := some parameters }, text) }]

def SignatureDraft.finish (draft : SignatureDraft) : Signature :=
  ⟨draft.label.getD "", draft.parameters.getD []⟩

def readSignature (text : List Char) : Except Fault (Signature × List Char) := do
  let (draft, text) ← readRecord .signature signatureFields ⟨none, none⟩ text
  return (draft.finish, text)

structure EntryDraft where
  name : Option String
  text : Option String
  brief : Option String
  detail : Option String
  signature : Option Signature
deriving DecidableEq, Repr

def entryFields : List (Field EntryDraft) :=
  [{ name := "name"
     isRequired := true
     isPresent := fun draft => draft.name.isSome
     read := fun draft text => do
       let (name, text) ← readText text
       return ({ draft with name := some name }, text) },
   { name := "text"
     isRequired := true
     isPresent := fun draft => draft.text.isSome
     read := fun draft text => do
       let (shown, text) ← readText text
       return ({ draft with text := some shown }, text) },
   { name := "brief"
     isRequired := false
     isPresent := fun draft => draft.brief.isSome
     read := fun draft text => do
       let (brief, text) ← readText text
       return ({ draft with brief := some brief }, text) },
   { name := "detail"
     isRequired := false
     isPresent := fun draft => draft.detail.isSome
     read := fun draft text => do
       let (detail, text) ← readText text
       return ({ draft with detail := some detail }, text) },
   { name := "signature"
     isRequired := true
     isPresent := fun draft => draft.signature.isSome
     read := fun draft text => do
       let (signature, text) ← readSignature text
       return ({ draft with signature := some signature }, text) }]

def EntryDraft.finish (draft : EntryDraft) : Builtin :=
  ⟨draft.name.getD "", draft.text.getD "", draft.brief.getD "", draft.detail.getD "",
    draft.signature.getD ⟨"", []⟩⟩

def readEntry (text : List Char) : Except Fault (Builtin × List Char) := do
  let (draft, text) ← readRecord .entry entryFields ⟨none, none, none, none, none⟩ text
  return (draft.finish, text)

/-! ## Tables -/

def decode (text : String) : Except Fault (List Builtin) := do
  let (entries, rest) ← readList readEntry text.toList
  if (Json.skipSpace rest).isEmpty then .ok entries else .error (.json .malformed)

end NoxAssist.Builtin.Table
