/-!
# Labels in ASCII

A label with characters outside ASCII is written in ASCII: first its ASCII characters and a dash, if
it has any, and then, for each further character in the order of their codes, a number that says
which character comes next and where. A number is a run of digits of base 36, lowest first; a digit
below a threshold ends it, and the thresholds follow a bias that adapts to the numbers before.
-/

namespace NoxAssist.Domain.Punycode

def digit (value : Nat) : Char :=
  if value < 26 then Char.ofNat ('a'.toNat + value) else Char.ofNat ('0'.toNat + (value - 26))

def digitValue? (c : Char) : Option Nat :=
  if 'a' ≤ c ∧ c ≤ 'z' then some (c.toNat - 'a'.toNat)
  else if '0' ≤ c ∧ c ≤ '9' then some (c.toNat - '0'.toNat + 26)
  else none

def threshold (bias place : Nat) : Nat :=
  if place ≤ bias then 1 else if bias + 26 ≤ place then 26 else place - bias

theorem one_le_threshold (bias place : Nat) : 1 ≤ threshold bias place := by
  unfold threshold
  split
  · omega
  · split <;> omega

def biasOf (base delta : Nat) : Nat :=
  if 455 < delta then biasOf (base + 36) (delta / 35) else base + 36 * delta / (delta + 38)
termination_by delta
decreasing_by omega

def adapt (delta count : Nat) (isFirst : Bool) : Nat :=
  let scaled := if isFirst then delta / 700 else delta / 2
  biasOf 0 (scaled + scaled / count)

def encodeNumber (bias place n : Nat) : List Char :=
  if n < threshold bias place then
    [digit n]
  else
    let rest := n - threshold bias place
    digit (threshold bias place + rest % (36 - threshold bias place))
      :: encodeNumber bias (place + 36) (rest / (36 - threshold bias place))
termination_by n
decreasing_by
  have := one_le_threshold bias place
  have := Nat.div_le_self (n - threshold bias place) (36 - threshold bias place)
  omega

structure Progress where
  delta : Nat
  bias : Nat
  written : Nat
  digits : List Char
deriving DecidableEq, Repr

def Progress.pass (basic code : Nat) (p : Progress) (c : Char) : Progress :=
  if c.toNat < code then
    { p with delta := p.delta + 1 }
  else if c.toNat = code then
    { delta := 0
      bias := adapt p.delta (p.written + 1) (p.written == basic)
      written := p.written + 1
      digits := (encodeNumber p.bias 36 p.delta).reverse ++ p.digits }
  else
    p

/-- Writes the characters of a label with some codes, in ascending order; `reached` is the code up
to which all have been written. -/
def encodeCodes (label : List Char) (basic reached : Nat) (p : Progress) : List Nat → Progress
  | [] => p
  | code :: codes =>
    let p := { p with delta := p.delta + (code - reached) * (p.written + 1) }
    let p := label.foldl (Progress.pass basic code) p
    encodeCodes label basic (code + 1) { p with delta := p.delta + 1 } codes

def isAscii (c : Char) : Bool :=
  c.toNat < 0x80

def encode (label : List Char) : List Char :=
  let basic := label.filter isAscii
  let codes := (((label.filter (!isAscii ·)).map Char.toNat).mergeSort).eraseDups
  let p := encodeCodes label basic.length 0x80 ⟨0, 72, basic.length, []⟩ codes
  basic ++ (if basic.isEmpty then [] else ['-']) ++ p.digits.reverse

def decodeNumber (bias place weight sum : Nat) : List Char → Option (Nat × List Char)
  | [] => none
  | c :: rest => do
    let value ← digitValue? c
    let sum := sum + value * weight
    if value < threshold bias place then
      return (sum, rest)
    else
      decodeNumber bias (place + 36) (weight * (36 - threshold bias place)) sum rest

theorem length_decodeNumber {bias place weight sum n : Nat} {digits rest : List Char}
    (h : decodeNumber bias place weight sum digits = some (n, rest)) :
    rest.length < digits.length := by
  induction digits generalizing place weight sum with
  | nil => cases h
  | cons c digits ih =>
    simp only [decodeNumber, Option.bind_eq_bind, Option.bind_eq_some_iff] at h
    obtain ⟨value, -, h⟩ := h
    split at h
    · cases h
      exact Nat.lt_succ_self _
    · exact Nat.lt_succ_of_lt (ih h)

def charOf? (code : Nat) : Option Char :=
  if code.isValidChar then some (Char.ofNat code) else none

/-- Reads the numbers of a label and puts the characters that they say into it; the next character
has at least the code `code`, and is at least at `place` if it has just that. -/
def decodeDigits (bias code place : Nat) (label : List Char) (digits : List Char) :
    Option (List Char) :=
  if digits.isEmpty then
    some label
  else
    match _h : decodeNumber bias 36 1 place digits with
    | none => none
    | some (n, rest) =>
      let count := label.length + 1
      match charOf? (code + n / count) with
      | none => none
      | some c =>
        decodeDigits (adapt (n - place) count (place == 0)) (code + n / count) (n % count + 1)
          (label.take (n % count) ++ c :: label.drop (n % count)) rest
termination_by digits.length
decreasing_by exact length_decodeNumber _h

def decode? (text : List Char) : Option (List Char) :=
  if text.contains '-' then
    let digits := (text.reverse.takeWhile (· != '-')).reverse
    let basic := text.take (text.length - digits.length - 1)
    if basic.isEmpty then none else decodeDigits 72 0x80 0 basic digits
  else
    decodeDigits 72 0x80 0 [] text

end NoxAssist.Domain.Punycode
