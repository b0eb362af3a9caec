import NoxAssist.Text.Hex
import NoxAssist.Text.Utf8

namespace NoxAssist.Uri

def percentByte (b : UInt8) : List Char :=
  '%' :: (Text.hexPair b.toNat).map Char.toUpper

def isControl (c : Char) : Bool :=
  c.toNat < 0x20 || 0x7f ≤ c.toNat

def encode (reserved : List Char) (chars : List Char) : List Char :=
  chars.flatMap fun c =>
    if isControl c || reserved.contains c then
      (String.utf8EncodeChar c).flatMap percentByte
    else
      [c]

/-- The bytes that a percent-encoded text stands for; a percent sign without two digits behind it
stands for itself. -/
def decode : List UInt8 → List UInt8
  | [] => []
  | b :: bytes =>
    if b = 0x25 then
      match bytes with
      | high :: low :: rest =>
        match Text.hexDigit? (Char.ofUInt8 high), Text.hexDigit? (Char.ofUInt8 low) with
        | some high, some low => (high * 16 + low).toUInt8 :: decode rest
        | _, _ => b :: decode (high :: low :: rest)
      | bytes => b :: decode bytes
    else
      b :: decode bytes

def reservedInPath : List Char :=
  [' ', '"', '#', '<', '>', '?', '`', '{', '}']

def reservedInUser : List Char :=
  reservedInPath ++ ['/', ':', ';', '=', '@', '[', '\\', ']', '^', '|']

def reservedInQuery (isKnown : Bool) : List Char :=
  [' ', '"', '#', '<', '>'] ++ if isKnown then [Char.ofNat 0x27] else []

def reservedInFragment : List Char :=
  [' ', '"', '<', '>', '`']

end NoxAssist.Uri
