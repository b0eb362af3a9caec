import NoxAssist.Domain.Joining
import NoxAssist.Domain.Punycode

namespace NoxAssist.Domain

def encodedMark : List Char :=
  ['x', 'n', '-', '-']

def isDenied (c : Char) : Bool :=
  c.toNat ≤ 0x20 || c.toNat == 0x7f
    || ['%', '#', '/', ':', '<', '>', '?', '@', '[', '\\', ']', '^', '|'].contains c

def encodeLimit : Nat := 1000

def decodeLimit : Nat := 2000

/-- The label that a label stands for: one with a mark stands for another, which needs it and is as
mapping and composing leave it. -/
def labelOf? (label : List Char) : Option (List Char) :=
  if encodedMark.isPrefixOf label then do
    let digits := label.drop encodedMark.length
    let meant ← if decodeLimit < digits.length then none else Punycode.decode? digits
    let mapped ← mapChars? meant
    if meant.all Punycode.isAscii || compose mapped != meant then none else some meant
  else
    some label

def isLabel (label : List Char) : Bool :=
  !label.any isDenied && !label.head?.any isMark && fitsJoiners [] label

def encodeLabel? (label : List Char) : Option (List Char) :=
  if label.all Punycode.isAscii then some label
  else if encodeLimit < label.length then none
  else some (encodedMark ++ Punycode.encode label)

def toAscii? (name : List Char) : Option (List Char) := do
  let labels := (compose (← mapChars? name)).splitOn '.'
  let meant ← labels.mapM labelOf?
  if meant.all isLabel && (!meant.any runsRight || meant.all fitsDirection) then
    return ['.'].intercalate (← labels.mapM encodeLabel?)
  else
    none

end NoxAssist.Domain
