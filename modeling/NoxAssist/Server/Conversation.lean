import NoxAssist.Json.Printer
import NoxAssist.Server.Answer
import NoxAssist.Server.Basic
import NoxAssist.Server.Method

/-!
# Conversations

A client sends requests, which have an identifier and are answered, and notifications, which have
none. The server may answer, send notifications of its own and ask the client for its settings; the
client's reply comes as a message of its own.

Before the first request is answered everything else is refused, and likewise after the request to
stop. After the notification to exit the server takes no message at all.
-/

namespace NoxAssist

structure Request where
  id : Option Json
  method : String
  params : Option Json

inductive Refusal where
  | unreadable
  | notStarted
  | invalidRequest
  | methodNotFound (method : Option String)
  | invalidParams (reason : String)
deriving DecidableEq, Repr

def Refusal.code : Refusal → Int
  | .unreadable => -32700
  | .notStarted => -32002
  | .invalidRequest => -32600
  | .methodNotFound _ => -32601
  | .invalidParams _ => -32602

def Refusal.message : Refusal → String
  | .unreadable => "Parse error"
  | .notStarted => "Server not initialized"
  | .invalidRequest => "Invalid request"
  | .methodNotFound _ => "Method not found"
  | .invalidParams reason => reason

inductive Outgoing where
  | result (id : Json) (value : Json)
  | refusal (id : Json) (reason : Refusal)
  | notify (method : String) (params : Json)
  | ask (number : Nat) (method : String) (params : Json)

namespace Server

def refuse (id : Option Json) (reason : Refusal) : List Outgoing :=
  match id with
  | some id => [.refusal id reason]
  | none => []

def reply (id : Option Json) (value : Json) : List Outgoing :=
  match id with
  | some id => [.result id value]
  | none => []

def settingsSection : String :=
  "noxscriptLanguageServer"

def askSettings (s : Server) : Server × List Outgoing :=
  ({ s with asked := s.asked + 1, awaiting := s.asked :: s.awaiting },
    [.ask s.asked "workspace/configuration"
      (.ofFields [("items", .array [.ofFields [("section", .string settingsSection)]])])])

/-- The settings after the client's answer: of a list the first section counts, and anything else is
no answer. -/
def applyAnswer (settings : Settings) : Option Json → Settings
  | some (.array (part :: _)) => settings.apply part
  | _ => settings

def receiveReply (s : Server) (number : Nat) (answer : Option Json) : Server :=
  if s.awaiting.contains number then
    { s with
      awaiting := s.awaiting.filter (· != number)
      settings := applyAnswer s.settings answer }
  else
    s

def readParams (method : Method) (params : Option Json) : Except Refusal Json :=
  match method.paramsShape, params with
  | none, none => .ok .null
  | none, some params => .error (.invalidParams ("Unexpected params: " ++ params.compact))
  | some _, none => .error (.invalidParams "Missing params field")
  | some shape, some params =>
    match shape.read params with
    | .ok params => .ok params
    | .error mismatch => .error (.invalidParams mismatch.message)

def perform (s : Server) (id : Option Json) (params : Json) :
    Method → Server × List Outgoing
  | .start => ({ s with phase := .running }, reply id capabilities)
  | .ready =>
    let (s, questions) := s.askSettings
    let greeting := Json.ofFields
      [("type", .ofNat 3), ("message", .string (serverName ++ " started"))]
    (s, .notify "window/logMessage" greeting :: questions)
  | .stop => (s, reply id .null)
  | .exit => (s, [])
  | .cancel => (s, [])
  | .didOpen =>
    let document := Method.partField "textDocument" params
    (s.openDocument (Method.uriOf params) (Method.intField "version" document)
      (Method.textField "text" document), [])
  | .didChange =>
    let document := Method.partField "textDocument" params
    (s.changeDocument (Method.uriOf params) (Method.intField "version" document)
      (Method.changesOf params), [])
  | .didClose => (s.closeDocument (Method.uriOf params), [])
  | .didChangeConfiguration => s.askSettings
  | .hover =>
    let position := Method.positionOf (Method.partField "position" params)
    let hover := s.hover (Method.uriOf params) position
    (s, reply id (.ofOption (hover.map Hover.toWire)))
  | .completion =>
    let completions := s.completions (Method.uriOf params)
    (s, reply id (.array (completions.map Completion.toWire)))
  | .resolve => (s, reply id params)
  | .signatureHelp =>
    let position := Method.positionOf (Method.partField "position" params)
    let help := s.signatureHelp (Method.uriOf params) position
    (s, reply id (.ofOption (help.map SignatureHelp.toWire)))
  | .unsupported isRequest _ => (s, if isRequest then refuse id (.methodNotFound none) else [])

def carryOut (s : Server) (request : Request) (method : Method) : Server × List Outgoing :=
  match readParams method request.params with
  | .error reason => (s, refuse request.id reason)
  | .ok params => s.perform request.id params method

/-- Carries out a method that may be called now. A notification is no request, so one with an
identifier is refused; a request without identifier could not be answered and is ignored. -/
def serve (s : Server) (request : Request) (method : Method) : Server × List Outgoing :=
  if method.isRequest then
    if request.id.isNone then
      (s, [])
    else
      s.carryOut request method
  else if request.id.isSome then
    (s, refuse request.id .invalidRequest)
  else
    s.carryOut request method

def closedReason? : Phase → Option Refusal
  | .waiting => some .notStarted
  | .running => none
  | .stopped => some .invalidRequest
  | .exited => some .invalidRequest

def dispatch (s : Server) (request : Request) : Method → Server × List Outgoing
  | .exit => ({ s with phase := .exited }, [])
  | .cancel => (s, refuse request.id .invalidRequest)
  | .start =>
    if s.phase = .waiting then s.serve request .start
    else (s, refuse request.id .invalidRequest)
  | method =>
    match closedReason? s.phase, method with
    | some reason, _ => (s, refuse request.id reason)
    | none, .stop => ({ s with phase := .stopped } : Server).serve request .stop
    | none, method => s.serve request method

def isIgnorable (method : String) : Bool :=
  "$/".toList.isPrefixOf method.toList

def receive (s : Server) (request : Request) : Option (Server × List Outgoing) :=
  if s.phase = .exited then
    none
  else
    match Method.ofName? request.method with
    | some method => some (s.dispatch request method)
    | none =>
      if isIgnorable request.method then
        some (s, [])
      else
        some (s, refuse request.id (.methodNotFound (some request.method)))

end Server

/-- A server and what its client replies when it is asked for its settings; none if it cannot. -/
structure Session where
  server : Server
  answer : Option Json

namespace Session

def send (s : Session) (request : Request) : Option (Session × List Outgoing) := do
  let (server, outgoing) ← s.server.receive request
  let server := outgoing.foldl
    (fun server message =>
      match message with
      | .ask number _ _ => server.receiveReply number s.answer
      | _ => server)
    server
  return ({ s with server }, outgoing)

end Session

end NoxAssist
