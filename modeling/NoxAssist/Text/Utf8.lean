/-!
# Texts as UTF-8 bytes

Cursors and offsets count the bytes of a text in UTF-8, and may fall inside a character. This module
gives the bytes of a text, the bytes behind a position with the nearest one first, and the character
boundary at or below a position.

Every scanner that walks backward from a cursor is a recursion on `before`: the head of the list is
the byte just behind the cursor, and the tail is what is left to visit.
-/

namespace NoxAssist.Text

def bytes (text : String) : List UInt8 :=
  text.toList.flatMap String.utf8EncodeChar

def width (chars : List Char) : Nat :=
  chars.foldr (fun c size => c.utf8Size + size) 0

/-- The bytes behind `position`, nearest first; a position past the end stands at the end. -/
def before (text : String) (position : Nat) : List UInt8 :=
  ((bytes text).take position).reverse

def after (text : String) (position : Nat) : List UInt8 :=
  (bytes text).drop position

def ofAscii (run : List UInt8) : String :=
  String.ofList (run.map Char.ofUInt8)

def floorBoundaryIn : List Char → Nat → Nat
  | [], _ => 0
  | c :: chars, position =>
    if c.utf8Size ≤ position then
      c.utf8Size + floorBoundaryIn chars (position - c.utf8Size)
    else
      0

def floorBoundary (text : String) (position : Nat) : Nat :=
  floorBoundaryIn text.toList position

def quote : UInt8 := 0x22

def backslash : UInt8 := 0x5c

def newline : UInt8 := 0x0a

def semicolon : UInt8 := 0x3b

def comma : UInt8 := 0x2c

def openParen : UInt8 := 0x28

def closeParen : UInt8 := 0x29

end NoxAssist.Text
