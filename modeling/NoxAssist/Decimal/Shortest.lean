/-!
# The shortest decimal of a double

`shortest` gives the decimal with the fewest digits that reads back as a given double; of several,
the nearest to it, and of two equally near ones the even one. `render` writes that decimal:
positionally, with at least one digit after the point, when the point falls at most five places
before the first digit or at most sixteen behind it, and in exponent notation otherwise.
-/

namespace NoxAssist.Decimal

/-- A positive double, `mantissa * 2 ^ exponent`, and whether the next double below is only half as
far away as the next one above. -/
structure Binary where
  mantissa : Nat
  exponent : Int
  narrowBelow : Bool
deriving DecidableEq, Repr

def Binary.ofBits (bits : UInt64) : Binary :=
  let fraction : Nat := bits.toNat % 0x10000000000000
  let exponent : Nat := bits.toNat / 0x10000000000000 % 0x800
  if exponent = 0 then
    ⟨fraction, -1074, false⟩
  else
    ⟨0x10000000000000 + fraction, (exponent : Int) - 1075, fraction = 0 && 1 < exponent⟩

structure Numeral where
  digits : Nat
  exponent : Int
deriving DecidableEq, Repr

def powerUp (base : Nat) (exponent : Int) : Nat :=
  Nat.pow base exponent.toNat

def leadingExponent (x : Binary) : Int :=
  let numerator := x.mantissa * powerUp 2 x.exponent
  let denominator := powerUp 2 (-x.exponent)
  if denominator ≤ numerator then
    (Nat.toDigits 10 (numerator / denominator)).length - 1
  else
    match (List.range 400).find? fun places => denominator ≤ numerator * Nat.pow 10 places with
    | some places => -(places : Int)
    | none => 0

/-- The nearest multiple of `10 ^ exponent` that reads back as `x`, if one of the two multiples next
to `x` does. -/
def onGrid? (x : Binary) (exponent : Int) : Option Numeral :=
  -- In quarters of the last place of `x`, counted in units of the grid.
  let numerator := powerUp 2 (x.exponent - 2) * powerUp 10 (-exponent)
  let denominator := powerUp 2 (2 - x.exponent) * powerUp 10 exponent
  let value := 4 * x.mantissa * numerator
  let low := (4 * x.mantissa - (if x.narrowBelow then 1 else 2)) * numerator
  let high := (4 * x.mantissa + 2) * numerator
  let readsBack (n : Nat) : Bool :=
    if x.mantissa % 2 = 0 then
      low ≤ n * denominator && n * denominator ≤ high
    else
      low < n * denominator && n * denominator < high
  let below := value / denominator
  let above := below + 1
  let toBelow := value - below * denominator
  let toAbove := above * denominator - value
  match readsBack below, readsBack above with
  | true, true =>
    let takeBelow := toBelow < toAbove || (toBelow == toAbove && below % 2 == 0)
    some ⟨if takeBelow then below else above, exponent⟩
  | true, false => some ⟨below, exponent⟩
  | false, true => some ⟨above, exponent⟩
  | false, false => none

def Numeral.normalize : Nat → Numeral → Numeral
  | 0, n => n
  | fuel + 1, n =>
    if n.digits ≠ 0 ∧ n.digits % 10 = 0 then
      normalize fuel ⟨n.digits / 10, n.exponent + 1⟩
    else
      n

def shortest (x : Binary) : Numeral :=
  let leading := leadingExponent x
  match (List.range 17).findSome? fun (more : Nat) => onGrid? x (leading - more) with
  | some n => n.normalize 20
  | none => ⟨0, 0⟩

def zeros (count : Nat) : String :=
  String.ofList (List.replicate count '0')

def exponentText (exponent : Int) : String :=
  if exponent < 0 then "e" ++ toString exponent else "e+" ++ toString exponent

def Numeral.render (n : Numeral) : String :=
  let digits := toString n.digits
  let point : Int := digits.length + n.exponent
  if 0 ≤ n.exponent ∧ point ≤ 16 then
    digits ++ zeros n.exponent.toNat ++ ".0"
  else if 0 < point ∧ point ≤ 16 then
    String.ofList (digits.toList.take point.toNat) ++ "."
      ++ String.ofList (digits.toList.drop point.toNat)
  else if -5 < point ∧ point ≤ 0 then
    "0." ++ zeros (-point).toNat ++ digits
  else if digits.length = 1 then
    digits ++ exponentText (point - 1)
  else
    String.ofList (digits.toList.take 1) ++ "." ++ String.ofList (digits.toList.drop 1)
      ++ exponentText (point - 1)

def render (bits : UInt64) : String :=
  let x := Binary.ofBits bits
  let magnitude := if x.mantissa = 0 then "0.0" else (shortest x).render
  if bits.toNat < 0x8000000000000000 then magnitude else "-" ++ magnitude

end NoxAssist.Decimal
