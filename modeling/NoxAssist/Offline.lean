import NoxAssist.Directory
import NoxAssist.Report

namespace NoxAssist

inductive AnalysisFault where
  | forbiddenPath (path : String)
  | unreadable (path : String) (fault : ReadFault)
deriving DecidableEq, Repr

def AnalysisFault.message : AnalysisFault → String
  | .forbiddenPath path => "Unsafe file path: " ++ path
  | .unreadable path fault => "Failed to read file '" ++ path ++ "': " ++ fault.message

inductive LoadFault where
  | unreadable (path : String) (fault : ReadFault)
  | table (path : String) (fault : TableFault)
deriving DecidableEq, Repr

namespace LoadFault

def context : LoadFault → String
  | .unreadable path _ => "Failed to load builtins from '" ++ path ++ "'"
  | .table path _ => "Failed to load builtins from '" ++ path ++ "'"

def reason : LoadFault → String
  | .unreadable path fault =>
    "failed to read builtin table '" ++ path ++ "': " ++ fault.message
  | .table _ fault => fault.message

def message (fault : LoadFault) : String :=
  let cause := match fault with
    | .unreadable _ cause => ": " ++ cause.message
    | .table _ (.decoding cause) => (cause.message?.map fun text => ": " ++ text).getD ""
    | .table _ (.naming _) => ""
  fault.context ++ ": " ++ fault.reason ++ cause

end LoadFault

structure CursorReport where
  cursor : Nat
  call : Option Call
  hover : Option Hover
  signatureHelp : Option SignatureHelp
deriving DecidableEq, Repr

structure FileReport where
  declarations : List Declaration
  atCursor : Option CursorReport
deriving DecidableEq, Repr

/-- The report on a cursor at or inside a character. -/
def CursorReport.of (registry : Registry) (text : String) (offset : Nat) : CursorReport :=
  let analyzer := Analyzer.ofRegistry registry Settings.default
  let cursor := Text.floorBoundary text offset
  { cursor
    call := Call.locateAtCursor text cursor
    hover := analyzer.hover text cursor
    signatureHelp := analyzer.signatureHelp text cursor }

def FileReport.of (registry : Registry) (text : String) (offset : Option Nat) : FileReport where
  declarations := Declaration.scan text
  atCursor := offset.map (CursorReport.of registry text)

def CursorReport.fields (r : CursorReport) : List (String × Json) :=
  [("cursor", .ofNat r.cursor), ("call", Call.toJson r.call),
    ("hover", .ofOption (r.hover.map Hover.toJson)),
    ("signature_help", .ofOption (r.signatureHelp.map SignatureHelp.toJson))]

def FileReport.toJson (r : FileReport) : Json :=
  let atCursor := (r.atCursor.map CursorReport.fields).getD []
  .ofFields (("declarations", .array (r.declarations.map Declaration.toJson)) :: atCursor)

section

variable {m : Type → Type} [Monad m] (readFile : String → m (Except ReadFault String))

def loadBuiltins : Option String → m (Except LoadFault Registry)
  | none => return .ok Registry.bundled
  | some path => do
    match ← readFile path with
    | .error fault => return .error (.unreadable path fault)
    | .ok table =>
      match Registry.ofTable table with
      | .error fault => return .error (.table path fault)
      | .ok registry => return .ok registry

def analyzeFile (registry : Registry) (path : String) (offset : Option Nat) :
    m (Except AnalysisFault String) := do
  if !Path.isSafe path then
    return .error (.forbiddenPath path)
  else
    match ← readFile path with
    | .error fault => return .error (.unreadable path fault)
    | .ok text => return .ok (FileReport.of registry text offset).toJson.pretty

end

end NoxAssist
