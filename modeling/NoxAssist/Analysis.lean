import NoxAssist.Builtin.Catalogue
import NoxAssist.Call
import NoxAssist.Declaration.Scan
import NoxAssist.Settings

namespace NoxAssist

structure Hover where
  signature : String
  documentation : Option String
deriving DecidableEq, Repr

inductive CompletionKind where
  | keyword
  | function
deriving DecidableEq, Repr

def CompletionKind.name : CompletionKind → String
  | .keyword => "keyword"
  | .function => "function"

structure Completion where
  label : String
  kind : CompletionKind
  detail : String
  documentation : Option String
deriving DecidableEq, Repr

structure SignatureInfo where
  label : String
  documentation : Option String
  parameters : List String
deriving DecidableEq, Repr

structure SignatureHelp where
  signature : SignatureInfo
  activeParameter : Nat
deriving DecidableEq, Repr

def languageKeywords : List String :=
  ["if", "else", "int", "float", "string", "object", "goto", "return", "continue", "break", "while",
    "for", "void", "self", "other", "true", "false"]

structure Analyzer where
  registry : Registry
  keywords : List String
  settings : Settings

namespace Analyzer

def ofRegistry (registry : Registry) (settings : Settings) : Analyzer :=
  ⟨registry, languageKeywords, settings⟩

/-- What a cursor points at: the identifier that touches it, and the empty text inside a string. At
the start of the text there is no string yet. -/
def nameAt (text : String) : Nat → String
  | 0 => Text.identifierAround text 0
  | offset + 1 =>
    if Text.inStringAt text offset then "" else Text.identifierAt text offset

def hoverOf (a : Analyzer) (text name : String) : Option Hover :=
  match a.registry.get? name with
  | some builtin => some ⟨builtin.text, builtin.documentation?⟩
  | none => (Declaration.find? text name).map fun d => ⟨d.rendered, none⟩

def hover (a : Analyzer) (text : String) (cursor : Nat) : Option Hover :=
  let name := nameAt text cursor
  if name.isEmpty then none else a.hoverOf text name

def keywordCompletion (keyword : String) : Completion :=
  ⟨keyword, .keyword, keyword, none⟩

def builtinCompletion (builtin : Builtin) : Completion :=
  ⟨builtin.name, .function, builtin.text,
    if builtin.brief.isEmpty then none else some builtin.brief⟩

def declarationCompletion (d : Declaration) : Completion :=
  ⟨d.name, .function, d.rendered, none⟩

def completions (a : Analyzer) (text : String) : List Completion :=
  (if a.settings.completesKeywords then a.keywords.map keywordCompletion else [])
    ++ (if a.settings.completesBuiltins then a.registry.toList.map builtinCompletion else [])
    ++ (Declaration.scan text).map declarationCompletion

def signatureOf (a : Analyzer) (text name : String) : Option SignatureInfo :=
  match a.registry.get? name with
  | some builtin =>
    some ⟨builtin.signature.label, builtin.documentation?, builtin.signature.parameters⟩
  | none => (Declaration.find? text name).map fun d => ⟨d.rendered, none, d.parameters⟩

def signatureHelp (a : Analyzer) (text : String) (cursor : Nat) : Option SignatureHelp := do
  let call ← Call.locateAtCursor text cursor
  let signature ← a.signatureOf text call.name
  return ⟨signature, a.settings.argumentPolicy.apply call.argument signature.parameters.length⟩

end Analyzer

end NoxAssist
