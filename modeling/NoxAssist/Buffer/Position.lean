import NoxAssist.Buffer.Basic
import NoxAssist.Buffer.Line

namespace NoxAssist

structure Position where
  line : Nat
  character : Nat
deriving DecidableEq, Repr

structure Range where
  start : Position
  stop : Position
deriving DecidableEq, Repr

inductive Change where
  | replace (text : String)
  | edit (range : Range) (text : String)
deriving DecidableEq, Repr

namespace Buffer

/-- The number of characters before `column` of a line that begins at character `start`. In a line
of ASCII characters each is one unit, so nothing has to be counted when the line lies in one piece.
-/
def columnIndex (b : Buffer) (start : Nat) (line : List Char) (column : Nat) : Nat :=
  let content := Line.content line
  if liesInOne start line.length b.pieces && line.all fun c => c.toNat < 0x80 then
    min column content.length
  else
    Line.charsBefore column content

def index (b : Buffer) (p : Position) : Nat :=
  let lines := Line.split b.chars
  match lines[p.line]? with
  | none => b.chars.length
  | some line =>
    let start := (lines.take p.line).flatten.length
    start + b.columnIndex start line p.character

def byteOffset (b : Buffer) (p : Position) : Nat :=
  Text.width (b.chars.take (b.index p))

def apply (b : Buffer) : Change → Buffer
  | .replace text => ofText text
  | .edit range text =>
    let start := b.index range.start
    let stop := b.index range.stop
    b.splice (min start stop) (max start stop) text.toList

end Buffer

end NoxAssist
