import NoxAssist.Domain.Basic
import NoxAssist.Uri.Address
import NoxAssist.Uri.Fault
import NoxAssist.Uri.Percent

namespace NoxAssist.Uri

def bracketHost (chars : List Char) : Except Fault (List Char) :=
  if chars.getLast? = some ']' then
    match longAddress? (chars.drop 1).dropLast with
    | some groups => .ok (['['] ++ renderLong groups ++ [']'])
    | none => .error .badLongAddress
  else
    .error .badLongAddress

def namedHost (chars : List Char) : Except Fault (List Char) :=
  match String.fromUTF8? ⟨(decode (Text.bytes (String.ofList chars))).toArray⟩ with
  | none => .error .badDomain
  | some name =>
    match Domain.toAscii? name.toList with
    | none => .error .badDomain
    | some [] => .error .emptyHost
    | some host =>
      if endsWithNumber host then
        match shortAddress? host with
        | some value => .ok (renderShort value)
        | none => .error .badShortAddress
      else
        .ok host

def knownHost (chars : List Char) : Except Fault (List Char) :=
  if chars.head? = some '[' then bracketHost chars else namedHost chars

def isForbiddenInHost (c : Char) : Bool :=
  ['\x00', '\t', '\n', '\r', ' ', '#', '/', ':', '<', '>', '?', '@', '[', '\\', ']', '^',
    '|'].contains c

def otherHost (chars : List Char) : Except Fault (List Char) :=
  if chars.head? = some '[' then bracketHost chars
  else if chars.any isForbiddenInHost then .error .badHost
  else .ok (encode [] chars)

end NoxAssist.Uri
