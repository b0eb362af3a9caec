namespace NoxAssist.Decimal

def maxPower : Nat := 308

def power (exponent : Nat) : Float :=
  Float.ofScientific 1 false exponent

/-- `x` divided by `10 ^ exponent`, in steps that each divide by a power of ten that a double holds.
-/
def divide (x : Float) (exponent : Nat) : Float :=
  if exponent ≤ maxPower then
    x / power exponent
  else if x == 0 then
    x
  else
    divide (x / power maxPower) (exponent - maxPower)
termination_by exponent
decreasing_by
  simp only [maxPower] at *
  omega

def scale? (significand : UInt64) : Int → Option Float
  | .ofNat exponent =>
    let x := significand.toFloat
    if exponent ≤ maxPower then
      let y := x * power exponent
      if y.isInf then none else some y
    else if significand == 0 then
      some x
    else
      none
  | .negSucc exponent => some (divide significand.toFloat (exponent + 1))

end NoxAssist.Decimal
