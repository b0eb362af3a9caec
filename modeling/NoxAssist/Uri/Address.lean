import NoxAssist.Text.Hex

namespace NoxAssist.Uri

def digits? (base : Nat) (digits : List Char) : Option Nat :=
  digits.foldlM
    (fun n c => do
      let value ← Text.hexDigit? c
      if value < base then some (n * base + value) else none)
    0

/-- The number that a part of a short address writes: hexadecimal behind `0x`, octal behind another
zero, and decimal otherwise. -/
def addressNumber? : List Char → Option Nat
  | [] => none
  | '0' :: 'x' :: rest => digits? 16 rest
  | '0' :: 'X' :: rest => digits? 16 rest
  | ['0'] => some 0
  | '0' :: rest => digits? 8 rest
  | digits => digits? 10 digits

def addressParts (host : List Char) : List (List Char) :=
  let parts := host.splitOn '.'
  if parts.getLast? = some [] then parts.dropLast else parts

def endsWithNumber (host : List Char) : Bool :=
  match (addressParts host).getLast? with
  | none => false
  | some last => (!last.isEmpty && last.all Char.isDigit) || (addressNumber? last).isSome

/-- The value of a short address: each number but the last is a byte, and the last one stands for
all bytes that are left. -/
def shortAddress? (host : List Char) : Option Nat := do
  let numbers ← (addressParts host).mapM addressNumber?
  let last ← numbers.getLast?
  let front := numbers.dropLast
  if 3 < front.length || front.any (255 < ·) || Nat.pow 256 (4 - front.length) ≤ last then
    none
  else
    return front.foldl (fun n byte => n * 256 + byte) 0 * Nat.pow 256 (4 - front.length) + last

def renderShort (value : Nat) : List Char :=
  let bytes := [value / 0x1000000, value / 0x10000, value / 0x100, value]
  ['.'].intercalate (bytes.map fun n => Nat.toDigits 10 (n % 256))

def group? (digits : List Char) : Option Nat :=
  if digits.isEmpty || 4 < digits.length then none else digits? 16 digits

def byte? (digits : List Char) : Option Nat := do
  if digits.isEmpty || (1 < digits.length && digits.head? == some '0') then
    none
  else
    let n ← digits? 10 digits
    if n < 256 then some n else none

def groupsOfShort? (text : List Char) : Option (List Nat) := do
  match ← (text.splitOn '.').mapM byte? with
  | [a, b, c, d] => some [a * 256 + b, c * 256 + d]
  | _ => none

def groups? (mayEndShort : Bool) : List (List Char) → Option (List Nat)
  | [] => some []
  | [last] =>
    if mayEndShort && last.contains '.' then groupsOfShort? last
    else (group? last).map fun n => [n]
  | text :: texts => do return (← group? text) :: (← groups? mayEndShort texts)

def groupTexts (text : List Char) : List (List Char) :=
  if text.isEmpty then [] else text.splitOn ':'

def splitAtGap : List Char → Option (List Char × List Char)
  | [] => none
  | c :: chars =>
    match c, chars with
    | ':', ':' :: rest => some ([], rest)
    | c, chars => (splitAtGap chars).map fun (front, rest) => (c :: front, rest)

def longAddress? (text : List Char) : Option (List Nat) :=
  match splitAtGap text with
  | none => do
    let groups ← groups? true (groupTexts text)
    if groups.length = 8 then some groups else none
  | some (front, rest) => do
    let front ← groups? false (groupTexts front)
    let rest ← groups? true (groupTexts rest)
    if front.length + rest.length < 8 then
      return front ++ List.replicate (8 - front.length - rest.length) 0 ++ rest
    else
      none

def zerosFrom (groups : List Nat) (index : Nat) : Nat :=
  ((groups.drop index).takeWhile (· == 0)).length

def longestZeros (groups : List Nat) : Nat :=
  (List.range groups.length).foldl
    (fun best index => if zerosFrom groups best < zerosFrom groups index then index else best) 0

def renderGroups (groups : List Nat) : List Char :=
  [':'].intercalate (groups.map (Nat.toDigits 16))

def renderLong (groups : List Nat) : List Char :=
  let start := longestZeros groups
  let count := zerosFrom groups start
  if count < 2 then
    renderGroups groups
  else
    renderGroups (groups.take start) ++ [':', ':'] ++ renderGroups (groups.drop (start + count))

end NoxAssist.Uri
