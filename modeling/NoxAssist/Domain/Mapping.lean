import NoxAssist.Domain.MappingTable
import NoxAssist.Text.Printable
import NoxAssist.Text.Table

namespace NoxAssist.Domain

open Text (inRanges)

structure Mapping where
  first : Nat
  last : Nat
  stride : Nat
  /-- Whether the images follow each other as the characters do. -/
  isMoving : Bool
  image : List Nat
deriving DecidableEq, Repr

namespace Mapping

def covers (m : Mapping) (code : Nat) : Bool :=
  m.first ≤ code && code ≤ m.last && (code - m.first) % m.stride == 0

def apply (m : Mapping) (code : Nat) : List Nat :=
  if m.isMoving then m.image.map (· + (code - m.first)) else m.image

def ofEntry (entry : List Char) : Mapping :=
  let build (mark : Char) (stride : Nat) (isMoving : Bool) : Mapping :=
    let (bounds, image) := Text.Table.cut mark entry
    let (first, last) := Text.Table.range bounds
    ⟨first, last, stride, isMoving, Text.Table.sequence image⟩
  if entry.contains '>' then build '>' 1 true
  else if entry.contains '/' then build '/' 2 true
  else build ':' 1 false

end Mapping

def mappings : List Mapping :=
  (Text.Table.entries mappingTable).map Mapping.ofEntry

def ignored : List (Nat × Nat) :=
  Text.Table.ranges
    "ad 34f 115f-1160 17b4-17b5 180b-180f 200b 2060-2064 3164 fe00-fe0f feff ffa0 1bca0-1bca3
      e0020-e007f e0100-e01ef"

def refused : List (Nat × Nat) :=
  Text.Table.ranges
    "a8 af b4 b8 2d8-2dd 37a 384-385 1806 1fbd 1fbf-1fc1 1fcd-1fcf 1fdd-1fdf 1fed-1fee
      1ffd-1ffe 2017 2024-2026 203e 2047-2049 2100-2101 2105-2106 2488-249b 2a74 2ff0-2fff
      309b-309c 31ef 33c2 33c7 33d8 fc5e-fc63 fdfa-fdfb fe12-fe13 fe16 fe19 fe30 fe47-fe4c fe52
      fe55-fe56 fe5f fe64-fe65 fe68 fe6a-fe6b fe70 fe72 fe74 fe76 fe78 fe7a fe7c fe7e ff03 ff05
      ff0f ff1a ff1c ff1e-ff20 ff3b-ff3e ff5c ffe3 fffc-fffd 1f100"

def nonJoiner : Char :=
  Char.ofNat 0x200c

def joiner : Char :=
  Char.ofNat 0x200d

def mapChar? (c : Char) : Option (List Char) :=
  if c.toNat < 0x80 then
    some [c.toLower]
  else if inRanges c.toNat ignored then
    some []
  else
    match mappings.find? fun m => m.covers c.toNat with
    | some m => some ((m.apply c.toNat).map Char.ofNat)
    | none =>
      if c = nonJoiner || c = joiner then some [c]
      else if !Text.isPrintable c || inRanges c.toNat refused then none
      else some [c]

def mapChars? (chars : List Char) : Option (List Char) := do
  return (← chars.mapM mapChar?).flatten

end NoxAssist.Domain
