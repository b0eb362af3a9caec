import NoxAssist.Decimal.Scale
import NoxAssist.Json.Basic
import NoxAssist.Text.Hex
import NoxAssist.Text.Utf8

namespace NoxAssist.Json

inductive Flaw where
  | truncated
  | malformed
deriving DecidableEq, Repr

def isSpace (c : Char) : Bool :=
  c == ' ' || c == '\n' || c == '\t' || c == '\r'

def skipSpace (text : List Char) : List Char :=
  text.dropWhile isSpace

def readWord : List Char → List Char → Except Flaw (List Char)
  | [], text => .ok text
  | _ :: _, [] => .error .truncated
  | w :: word, c :: text => if c = w then readWord word text else .error .malformed

def unit? (a b c d : Char) : Option Nat := do
  let a ← Text.hexDigit? a
  let b ← Text.hexDigit? b
  let c ← Text.hexDigit? c
  let d ← Text.hexDigit? d
  return ((a * 16 + b) * 16 + c) * 16 + d

/-- The flaw of an escape that is not followed by four characters: it is cut off only if fewer than
four bytes follow. -/
def shortUnit (text : List Char) : Flaw :=
  if Text.width text < 4 then .truncated else .malformed

def escaped? : Char → Option Char
  | '"' => some '"'
  | '\\' => some '\\'
  | '/' => some '/'
  | 'b' => some (Char.ofNat 0x08)
  | 'f' => some (Char.ofNat 0x0c)
  | 'n' => some '\n'
  | 'r' => some '\r'
  | 't' => some '\t'
  | _ => none

def isHighUnit (unit : Nat) : Bool :=
  0xd800 ≤ unit && unit ≤ 0xdbff

def isLowUnit (unit : Nat) : Bool :=
  0xdc00 ≤ unit && unit ≤ 0xdfff

def pairChar (high low : Nat) : Char :=
  Char.ofNat ((high - 0xd800) * 0x400 + (low - 0xdc00) + 0x10000)

/-- Reads a string behind its opening quote; `read` holds the characters before, last one first. -/
def readString (read : List Char) : List Char → Except Flaw (String × List Char)
  | [] => .error .truncated
  | c :: text =>
    if c = '"' then
      .ok (String.ofList read.reverse, text)
    else if c = '\\' then
      match text with
      | [] => .error .truncated
      | 'u' :: a :: b :: x :: y :: text =>
        match unit? a b x y with
        | none => .error .malformed
        | some high =>
          if isLowUnit high then
            .error .malformed
          else if isHighUnit high then
            match text with
            | [] => .error .truncated
            | ['\\'] => .error .truncated
            | '\\' :: 'u' :: a :: b :: x :: y :: text =>
              match unit? a b x y with
              | none => .error .malformed
              | some low =>
                if isLowUnit low then
                  readString (pairChar high low :: read) text
                else
                  .error .malformed
            | '\\' :: 'u' :: text => .error (shortUnit text)
            | _ => .error .malformed
          else
            readString (Char.ofNat high :: read) text
      | 'u' :: text => .error (shortUnit text)
      | letter :: text =>
        match escaped? letter with
        | none => .error .malformed
        | some c => readString (c :: read) text
    else if c.toNat < 0x20 then
      .error .malformed
    else
      readString (c :: read) text

def skipString : List Char → Except Flaw (List Char)
  | [] => .error .truncated
  | c :: text =>
    if c = '"' then
      .ok text
    else if c = '\\' then
      match text with
      | [] => .error .truncated
      | 'u' :: a :: b :: x :: y :: text =>
        if (unit? a b x y).isSome then skipString text else .error .malformed
      | 'u' :: text => .error (shortUnit text)
      | letter :: text => if (escaped? letter).isSome then skipString text else .error .malformed
    else if c.toNat < 0x20 then
      .error .malformed
    else
      skipString text

def digitsValue (digits : List Char) : Nat :=
  digits.foldl (fun value c => value * 10 + (c.toNat - '0'.toNat)) 0

def absorb (significand : Nat) : List Char → Nat × List Char
  | [] => (significand, [])
  | c :: digits =>
    let extended := significand * 10 + (c.toNat - '0'.toNat)
    if extended < 0x10000000000000000 then absorb extended digits else (significand, c :: digits)

/-- The number that `text` has only digits of: an integer if it fits 64 bits, and a double
otherwise. Minus zero is a double. -/
def wholeNumber (negative : Bool) (significand : Nat) : Number :=
  if !negative then
    .int significand
  else if significand = 0 ∨ 0x8000000000000000 < significand then
    .real (-(significand.toUInt64.toFloat)).toBits
  else
    .int (-significand)

def realNumber (negative : Bool) (significand : Nat) (exponent : Int) (text : List Char) :
    Except Flaw (Number × List Char) :=
  match Decimal.scale? significand.toUInt64 exponent with
  | none => .error .malformed
  | some x => .ok (.real (if negative then -x else x).toBits, text)

/-- Reads the exponent behind its mark. An exponent of `2 ^ 31` or more is not looked at: the number
is then zero, or too large. -/
def readExponent (negative : Bool) (significand : Nat) (exponent : Int) (text : List Char) :
    Except Flaw (Number × List Char) :=
  let (down, text) :=
    match text with
    | '+' :: text => (false, text)
    | '-' :: text => (true, text)
    | text => (false, text)
  let digits := text.takeWhile Char.isDigit
  let rest := text.dropWhile Char.isDigit
  match digits, text with
  | [], [] => .error .truncated
  | [], _ => .error .malformed
  | digits, _ =>
    let value := digitsValue digits
    if value < 0x80000000 then
      realNumber negative significand (if down then exponent - value else exponent + value) rest
    else if significand ≠ 0 ∧ !down then
      .error .malformed
    else
      .ok (.real (if negative then -0.0 else 0.0 : Float).toBits, rest)

def readFraction (negative : Bool) (significand left : Nat) (text : List Char) :
    Except Flaw (Number × List Char) :=
  match text with
  | '.' :: text =>
    let digits := text.takeWhile Char.isDigit
    let rest := text.dropWhile Char.isDigit
    match digits, rest with
    | [], [] => .error .truncated
    | [], _ => .error .malformed
    | digits, rest =>
      let (significand, unplaced) := absorb significand digits
      let exponent : Int := left - (digits.length - unplaced.length : Nat)
      match rest with
      | 'e' :: rest => readExponent negative significand exponent rest
      | 'E' :: rest => readExponent negative significand exponent rest
      | rest => realNumber negative significand exponent rest
  | 'e' :: text => readExponent negative significand left text
  | 'E' :: text => readExponent negative significand left text
  | text =>
    if left = 0 then
      .ok (wholeNumber negative significand, text)
    else
      realNumber negative significand left text

def readNumber (negative : Bool) (text : List Char) : Except Flaw (Number × List Char) :=
  match text with
  | [] => .error .truncated
  | '0' :: text =>
    if text.head?.any Char.isDigit then .error .malformed else readFraction negative 0 0 text
  | c :: _ =>
    if c.isDigit then
      let (significand, unplaced) := absorb 0 (text.takeWhile Char.isDigit)
      readFraction negative significand unplaced.length (text.dropWhile Char.isDigit)
    else
      .error .malformed

def skipDigits (text : List Char) : Except Flaw (List Char) :=
  if text.head?.any Char.isDigit then .ok (text.dropWhile Char.isDigit) else .error .malformed

def skipExponent (text : List Char) : Except Flaw (List Char) :=
  match text with
  | c :: rest =>
    if c = 'e' ∨ c = 'E' then
      match rest with
      | '+' :: rest => skipDigits rest
      | '-' :: rest => skipDigits rest
      | rest => skipDigits rest
    else
      .ok text
  | [] => .ok text

def skipNumber (text : List Char) : Except Flaw (List Char) := do
  let rest ←
    match text with
    | '0' :: rest => if rest.head?.any Char.isDigit then .error .malformed else .ok rest
    | text => skipDigits text
  match rest with
  | '.' :: rest => skipExponent (← skipDigits rest)
  | rest => skipExponent rest

end NoxAssist.Json
