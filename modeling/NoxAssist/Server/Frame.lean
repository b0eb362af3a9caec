import NoxAssist.Json.Printer
import NoxAssist.Json.Reader
import NoxAssist.Server.Conversation

namespace NoxAssist

def Refusal.toJson (r : Refusal) : Json :=
  let method := match r with
    | .methodNotFound (some method) => [("data", Json.string method)]
    | _ => []
  .object ([("code", .ofInt r.code), ("message", .string r.message)] ++ method)

def Outgoing.toJson (message : Outgoing) : Json :=
  let fields := match message with
    | .result id value => [("result", value), ("id", id)]
    | .refusal id reason => [("error", reason.toJson), ("id", id)]
    | .notify method params => [("method", .string method), ("params", params)]
    | .ask number method params =>
      [("method", .string method), ("params", params), ("id", .ofNat number)]
  .object (("jsonrpc", .string "2.0") :: fields)

namespace Frame

def encode (body : String) : String :=
  "Content-Length: " ++ toString body.utf8ByteSize ++ "\r\n\r\n" ++ body

def splitHeader : List UInt8 → Option (List UInt8 × List UInt8)
  | [] => none
  | b :: bytes =>
    if [0x0d, 0x0a, 0x0d, 0x0a].isPrefixOf (b :: bytes) then
      some ([], bytes.drop 3)
    else
      (splitHeader bytes).map fun (header, rest) => (b :: header, rest)

def lineLength? (line : List Char) : Option Nat :=
  let name := line.takeWhile (· != ':')
  let value := ((line.dropWhile (· != ':')).drop 1).dropWhile (· == ' ')
  if String.ofList (name.map Char.toLower) == "content-length" then
    (String.ofList value).toNat?
  else
    none

def bodyLength? (header : List UInt8) : Option Nat :=
  let lines := (header.map Char.ofUInt8).splitOn '\n'
  lines.findSome? fun line => lineLength? (line.filter (· != '\r'))

def next? (stream : List UInt8) : Option (List UInt8 × List UInt8) := do
  let (header, rest) ← splitHeader stream
  let length ← bodyLength? header
  if rest.length < length then none else some (rest.take length, rest.drop length)

theorem length_splitHeader {stream header rest : List UInt8}
    (h : splitHeader stream = some (header, rest)) : rest.length < stream.length := by
  induction stream generalizing header with
  | nil => cases h
  | cons b bytes ih =>
    rw [splitHeader] at h
    split at h
    · cases h
      simp only [List.length_drop, List.length_cons]
      omega
    · obtain ⟨⟨inner, tail⟩, hs, he⟩ := Option.map_eq_some_iff.1 h
      cases he
      exact Nat.lt_succ_of_lt (ih hs)

theorem length_next? {stream body rest : List UInt8} (h : next? stream = some (body, rest)) :
    rest.length < stream.length := by
  simp only [next?, Option.bind_eq_bind, Option.bind_eq_some_iff] at h
  obtain ⟨⟨header, behind⟩, hs, length, -, h⟩ := h
  split at h
  · cases h
  · cases h
    have := length_splitHeader hs
    simp only [List.length_drop]
    omega

def bodies (stream : List UInt8) : List (List UInt8) :=
  match _h : next? stream with
  | none => []
  | some (body, rest) => body :: bodies rest
termination_by stream.length
decreasing_by exact length_next? _h

end Frame

inductive Incoming where
  | request (request : Request)
  | reply (id : Json) (answer : Option Json)
  | invalid (reason : Refusal)

namespace Incoming

def isVersion : Json → Bool
  | .string version => version == "2.0"
  | _ => false

def isIdentifier : Json → Bool
  | .number (.int value) => -0x8000000000000000 ≤ value && value < 0x8000000000000000
  | .string _ => true
  | .null => true
  | _ => false

def isFailure : Json → Bool
  | .array [.number (.int code), .string _, _] => isIdentifier (.ofInt code)
  | .object fields =>
    let isCode := fun value => match value with
      | .number (.int code) => isIdentifier (.ofInt code)
      | _ => false
    let isText := fun value => match value with
      | .string _ => true
      | _ => false
    ((Json.object fields).field? "code").any isCode
      && ((Json.object fields).field? "message").any isText
      && fields.all fun field => ["code", "message", "data"].contains field.1
  | _ => false

def reply? (message : Json) : Option Incoming := do
  guard ((message.field? "jsonrpc").any isVersion)
  let id ← message.field? "id"
  guard (isIdentifier id)
  let answer ← match message.field? "result", message.field? "error" with
    | some result, _ => some (some result)
    | none, some failure => if isFailure failure then some none else none
    | none, none => none
  return .reply id answer

/-- The request with the given parts. One without a method has the empty name for it. -/
def request? (version method params id : Option Json) : Option Incoming := do
  guard (version.any isVersion)
  guard (id.all isIdentifier)
  match method with
  | none => return .request ⟨id, "", params⟩
  | some (.string method) => return .request ⟨id, method, params⟩
  | some _ => none

def ofJson (message : Json) : Incoming :=
  let request := match message with
    | .object _ =>
      request? (message.field? "jsonrpc") (message.field? "method") (message.field? "params")
        (message.field? "id")
    | .array items =>
      if 4 < items.length then none
      else request? items[0]? items[1]? items[2]? items[3]?
    | _ => none
  ((reply? message).or request).getD (.invalid .invalidRequest)

def depthLimit : Nat :=
  128

def ofBody (body : List UInt8) : Incoming :=
  match String.fromUTF8? ⟨body.toArray⟩ with
  | none => .invalid .unreadable
  | some text =>
    match Json.parse text with
    | .error _ => .invalid .unreadable
    | .ok message =>
      if message.depth < depthLimit then .ofJson message else .invalid .unreadable

end Incoming

namespace Server

def receiveMessage (s : Server) : Incoming → Option (Server × List Outgoing)
  | .request request => s.receive request
  | .reply (.number (.int (.ofNat number))) answer => some (s.receiveReply number answer, [])
  | .reply _ _ => some (s, [])
  | .invalid reason => some (s, [.refusal .null reason])

def serveBodies (s : Server) : List (List UInt8) → String
  | [] => ""
  | body :: bodies =>
    match s.receiveMessage (.ofBody body) with
    | none => ""
    | some (s, outgoing) =>
      String.join (outgoing.map fun message => Frame.encode message.toJson.compact)
        ++ s.serveBodies bodies

end Server

end NoxAssist
