import NoxAssist.Program

namespace NoxAssist.Command

/-- Whether a code of the system, which may come with its sign turned, is a certain one. -/
def isCode (code expected : UInt32) : Bool :=
  code == expected || code == 0 - expected

def readFault (error : IO.Error) : ReadFault :=
  match error with
  | .noFileOrDirectory .. => .notFound
  | .inappropriateType _ code _ =>
    if isCode code 20 then .notDirectory
    else if isCode code 21 then .isDirectory
    else .other (toString error)
  | .invalidArgument _ code _ =>
    if isCode code 36 then .nameTooLong else .other (toString error)
  | _ => .other (toString error)

def readFile (path : String) : IO (Except ReadFault String) := do
  if path.toList.contains '\x00' then
    return .error .zeroByte
  try
    let content ← IO.FS.readBinFile path
    match String.fromUTF8? content with
    | some text => return .ok text
    | none => return .error .notText
  catch error =>
    return .error (readFault error)

partial def readBytes (input : IO.FS.Stream) (count : Nat) (read : ByteArray) :
    IO (Option (List UInt8)) := do
  if count ≤ read.size then
    return some read.toList
  else
    let more ← input.read (count - read.size).toUSize
    if more.isEmpty then return none else readBytes input count (read ++ more)

partial def readHeader (input : IO.FS.Stream) (length : Option Nat) : IO (Option Nat) := do
  let line ← input.getLine
  if line.isEmpty then
    return none
  else
    let content := line.toList.filter fun c => c != '\r' && c != '\n'
    match content, length with
    | [], some length => return some length
    | [], none => readHeader input none
    | content, length => readHeader input ((Frame.lineLength? content).or length)

partial def serve (server : Server) (input output : IO.FS.Stream) : IO Unit := do
  let some length ← readHeader input none | return
  let some body ← readBytes input length ByteArray.empty | return
  let some (server, outgoing) := server.receiveMessage (.ofBody body) | return
  for message in outgoing do
    output.putStr (Frame.encode message.toJson.compact)
  output.flush
  serve server input output

end NoxAssist.Command

open NoxAssist in
def main (arguments : List String) : IO UInt32 := do
  match ← Program.launch Command.readFile arguments with
  | .finish outcome =>
    (← IO.getStdout).putStr outcome.output
    (← IO.getStderr).putStr outcome.errors
    return outcome.code.toUInt32
  | .serve server =>
    Command.serve server (← IO.getStdin) (← IO.getStdout)
    return 0
