import NoxAssist.Text.Identifier
import NoxAssist.Text.Literal

/-!
# The call around a cursor

A call is located by a walk backward from the cursor. The walk skips string literals and balanced
parentheses, counts the commas of the argument list it started in, and stops at the first open
parenthesis that has a function name before it. A semicolon in code ends the walk without a call.
-/

namespace NoxAssist

open Text

structure Call where
  name : String
  argument : Nat
deriving DecidableEq, Repr

namespace Call

def leavesLiteral (b : UInt8) (behind : List UInt8) : Bool :=
  b == newline || (b == quote && isUnescaped behind)

/-- The call around a position whose bytes behind it are given nearest first. `inside` says whether
the walk is inside a string literal, `depth` how many parentheses it has to open before it is back
in the argument list it started in, and `commas` how many commas of that list it has passed. -/
def locateBehind (inside : Bool) (depth commas : Nat) : List UInt8 → Option Call
  | [] => none
  | b :: behind =>
    if inside then
      locateBehind (!leavesLiteral b behind) depth commas behind
    else if b == semicolon then
      none
    else if b == quote then
      locateBehind true depth commas behind
    else if b == openParen then
      match depth with
      | depth + 1 => locateBehind false depth commas behind
      | 0 =>
        match identifierEnding behind with
        | some name => some ⟨name, commas⟩
        | none => locateBehind false 0 commas behind
    else if b == closeParen then
      locateBehind false (depth + 1) commas behind
    else if b == comma && depth == 0 then
      locateBehind false depth (commas + 1) behind
    else
      locateBehind false depth commas behind

def locate (text : String) (offset : Nat) : Option Call :=
  locateBehind (inStringAt text offset) 0 0 (before text (offset + 1))

def locateAtCursor (text : String) : Nat → Option Call
  | 0 => none
  | offset + 1 => locate text offset

end Call

end NoxAssist
