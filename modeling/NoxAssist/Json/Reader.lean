import NoxAssist.Json.Lexeme

namespace NoxAssist.Json

mutual

/-- Reads a value; `fuel` bounds the number of words read. -/
def readValue : Nat → List Char → Except Flaw (Json × List Char)
  | 0, _ => .error .malformed
  | fuel + 1, text =>
    match skipSpace text with
    | [] => .error .truncated
    | '"' :: text => do
      let (value, text) ← readString [] text
      return (.string value, text)
    | '[' :: text =>
      match skipSpace text with
      | ']' :: text => .ok (.array [], text)
      | text => readItems fuel [] text
    | '{' :: text =>
      match skipSpace text with
      | '}' :: text => .ok (.object [], text)
      | text => readFields fuel [] text
    | 'n' :: text => do return (.null, ← readWord ['u', 'l', 'l'] text)
    | 't' :: text => do return (.bool true, ← readWord ['r', 'u', 'e'] text)
    | 'f' :: text => do return (.bool false, ← readWord ['a', 'l', 's', 'e'] text)
    | '-' :: text => do
      let (value, text) ← readNumber true text
      return (.number value, text)
    | text => do
      let (value, text) ← readNumber false text
      return (.number value, text)

def readItems : Nat → List Json → List Char → Except Flaw (Json × List Char)
  | 0, _, _ => .error .malformed
  | fuel + 1, read, text => do
    let (item, text) ← readValue fuel text
    match skipSpace text with
    | [] => .error .truncated
    | ',' :: text => readItems fuel (item :: read) text
    | ']' :: text => .ok (.array (item :: read).reverse, text)
    | _ => .error .malformed

def readFields : Nat → List (String × Json) → List Char → Except Flaw (Json × List Char)
  | 0, _, _ => .error .malformed
  | fuel + 1, read, text =>
    match skipSpace text with
    | [] => .error .truncated
    | '"' :: text => do
      let (name, text) ← readString [] text
      match skipSpace text with
      | [] => .error .truncated
      | ':' :: text =>
        let (value, text) ← readValue fuel text
        match skipSpace text with
        | [] => .error .truncated
        | ',' :: text => readFields fuel ((name, value) :: read) text
        | '}' :: text => .ok (ofFields ((name, value) :: read).reverse, text)
        | _ => .error .malformed
      | _ => .error .malformed
    | _ => .error .malformed

end

def parse (text : String) : Except Flaw Json := do
  let chars := text.toList
  let (value, rest) ← readValue (chars.length + 1) chars
  if (skipSpace rest).isEmpty then .ok value else .error .malformed

inductive Bracket where
  | list
  | object
deriving DecidableEq, Repr

inductive Awaited where
  | value
  | name
  | follow
deriving DecidableEq, Repr

def Bracket.afterComma : Bracket → Awaited
  | .list => .value
  | .object => .name

/-- Passes over the rest of a value whose brackets `enclosing` are open, innermost first; `fuel`
bounds the number of words. -/
def skipFrom : Nat → Awaited → List Bracket → List Char → Except Flaw (List Char)
  | _, .follow, [], text => .ok text
  | 0, _, _, _ => .error .malformed
  | fuel + 1, .value, enclosing, text =>
    match skipSpace text with
    | [] => .error .truncated
    | '[' :: text =>
      match skipSpace text with
      | ']' :: text => skipFrom fuel .follow enclosing text
      | text => skipFrom fuel .value (.list :: enclosing) text
    | '{' :: text =>
      match skipSpace text with
      | '}' :: text => skipFrom fuel .follow enclosing text
      | text => skipFrom fuel .name (.object :: enclosing) text
    | '"' :: text => do skipFrom fuel .follow enclosing (← skipString text)
    | 'n' :: text => do skipFrom fuel .follow enclosing (← readWord ['u', 'l', 'l'] text)
    | 't' :: text => do skipFrom fuel .follow enclosing (← readWord ['r', 'u', 'e'] text)
    | 'f' :: text => do skipFrom fuel .follow enclosing (← readWord ['a', 'l', 's', 'e'] text)
    | '-' :: text => do skipFrom fuel .follow enclosing (← skipNumber text)
    | text => do skipFrom fuel .follow enclosing (← skipNumber text)
  | fuel + 1, .name, enclosing, text =>
    match skipSpace text with
    | [] => .error .truncated
    | '"' :: text => do
      match skipSpace (← skipString text) with
      | [] => .error .truncated
      | ':' :: text => skipFrom fuel .value enclosing text
      | _ => .error .malformed
    | _ => .error .malformed
  | fuel + 1, .follow, bracket :: enclosing, text =>
    match skipSpace text with
    | [] => .error .truncated
    | ',' :: text => skipFrom fuel bracket.afterComma (bracket :: enclosing) text
    | ']' :: text =>
      if bracket = .list then skipFrom fuel .follow enclosing text else .error .malformed
    | '}' :: text =>
      if bracket = .object then skipFrom fuel .follow enclosing text else .error .malformed
    | _ => .error .malformed

def skipValue (text : List Char) : Except Flaw (List Char) :=
  skipFrom (text.length + 1) .value [] text

end NoxAssist.Json
