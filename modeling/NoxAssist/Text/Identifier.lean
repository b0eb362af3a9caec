import NoxAssist.Text.Blank
import NoxAssist.Text.Utf8

namespace NoxAssist.Text

def isIdentByte (b : UInt8) : Bool :=
  (0x61 ≤ b && b ≤ 0x7a) || (0x41 ≤ b && b ≤ 0x5a) || (0x30 ≤ b && b ≤ 0x39) || b == 0x5f

def identifierAround (text : String) (boundary : Nat) : String :=
  ofAscii <|
    ((before text boundary).takeWhile isIdentByte).reverse
      ++ (after text boundary).takeWhile isIdentByte

def identifierAt (text : String) (offset : Nat) : String :=
  identifierAround text (offset + 1)

/-- The identifier that ends the bytes `behind`, which are given nearest first, once trailing ASCII
white space is left out. -/
def identifierEnding (behind : List UInt8) : Option String :=
  match (behind.dropWhile isAsciiBlank).takeWhile isIdentByte with
  | [] => none
  | run => some (ofAscii run.reverse)

def identifierBefore (text : String) (offset : Nat) : Option String :=
  identifierEnding (before text (offset + 1))

end NoxAssist.Text
