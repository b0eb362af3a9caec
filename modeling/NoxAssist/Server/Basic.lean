import NoxAssist.Analysis
import NoxAssist.Buffer.Position
import Std.Data.TreeMap

namespace NoxAssist

structure Document where
  version : Int
  content : Buffer
deriving DecidableEq, Repr

def Document.empty : Document :=
  ⟨0, Buffer.ofText ""⟩

def Document.change (d : Document) (version : Int) (changes : List Change) : Document :=
  ⟨version, changes.foldl Buffer.apply d.content⟩

inductive Phase where
  | waiting
  | running
  | stopped
  | exited
deriving DecidableEq, Repr

structure Server where
  registry : Registry
  phase : Phase
  settings : Settings
  documents : Std.TreeMap String Document
  asked : Nat
  awaiting : List Nat

namespace Server

def ofRegistry (registry : Registry) : Server :=
  ⟨registry, .waiting, Settings.default, ∅, 0, []⟩

def document? (s : Server) (uri : String) : Option Document :=
  s.documents[uri]?

def openDocument (s : Server) (uri : String) (version : Int) (text : String) : Server :=
  { s with documents := s.documents.insert uri ⟨version, Buffer.ofText text⟩ }

/-- Changes a document; one that is not open is taken to be empty. -/
def changeDocument (s : Server) (uri : String) (version : Int) (changes : List Change) : Server :=
  let document := (s.document? uri).getD Document.empty
  { s with documents := s.documents.insert uri (document.change version changes) }

def closeDocument (s : Server) (uri : String) : Server :=
  { s with documents := s.documents.erase uri }

def documentList (s : Server) : List (String × Document) :=
  s.documents.toList

def analyzer (s : Server) : Analyzer :=
  Analyzer.ofRegistry s.registry s.settings

def hover (s : Server) (uri : String) (p : Position) : Option Hover := do
  let document ← s.document? uri
  s.analyzer.hover document.content.text (document.content.byteOffset p)

def completions (s : Server) (uri : String) : List Completion :=
  let text := ((s.document? uri).map fun document => document.content.text).getD ""
  s.analyzer.completions text

def signatureHelp (s : Server) (uri : String) (p : Position) : Option SignatureHelp := do
  let document ← s.document? uri
  s.analyzer.signatureHelp document.content.text (document.content.byteOffset p)

end Server

end NoxAssist
