import NoxAssist.Text.Utf8

namespace NoxAssist.Text

def isUnescaped (behind : List UInt8) : Bool :=
  behind.head? != some backslash

def quotesBehind : List UInt8 → Nat
  | [] => 0
  | b :: behind =>
    if b == newline then
      0
    else if b == quote && isUnescaped behind then
      quotesBehind behind + 1
    else
      quotesBehind behind

def quoteCount (text : String) (offset : Nat) : Nat :=
  quotesBehind (before text (offset + 1))

/-- Whether byte `offset` lies in a string literal; the closing quote no longer does. -/
def inStringAt (text : String) (offset : Nat) : Bool :=
  quoteCount text offset % 2 == 1

end NoxAssist.Text
