import NoxAssist.Buffer.Position
import NoxAssist.Server.Shape.Client
import NoxAssist.Server.Shape.Params

namespace NoxAssist

inductive Method where
  | start
  | ready
  | stop
  | exit
  | cancel
  | didOpen
  | didChange
  | didClose
  | didChangeConfiguration
  | hover
  | completion
  | resolve
  | signatureHelp
  | unsupported (isRequest : Bool) (params : Schema)

namespace Method

def supported : List (String × Method) :=
  [("initialize", .start), ("initialized", .ready), ("shutdown", .stop), ("exit", .exit),
    ("$/cancelRequest", .cancel), ("textDocument/didOpen", .didOpen),
    ("textDocument/didChange", .didChange), ("textDocument/didClose", .didClose),
    ("workspace/didChangeConfiguration", .didChangeConfiguration),
    ("textDocument/hover", .hover), ("textDocument/completion", .completion),
    ("completionItem/resolve", .resolve), ("textDocument/signatureHelp", .signatureHelp)]

def unsupportedRequests : List (String × Schema) :=
  [("textDocument/willSaveWaitUntil", Shape.willSave),
    ("textDocument/declaration", Shape.atPlacePartly "GotoDefinitionParams"),
    ("textDocument/definition", Shape.atPlacePartly "GotoDefinitionParams"),
    ("textDocument/typeDefinition", Shape.atPlacePartly "GotoDefinitionParams"),
    ("textDocument/implementation", Shape.atPlacePartly "GotoDefinitionParams"),
    ("textDocument/references", Shape.references),
    ("textDocument/prepareCallHierarchy", Shape.atPlace "CallHierarchyPrepareParams"),
    ("callHierarchy/incomingCalls", Shape.aboutCall "CallHierarchyIncomingCallsParams"),
    ("callHierarchy/outgoingCalls", Shape.aboutCall "CallHierarchyOutgoingCallsParams"),
    ("textDocument/prepareTypeHierarchy", Shape.atPlace "TypeHierarchyPrepareParams"),
    ("typeHierarchy/supertypes", Shape.aboutType "TypeHierarchySupertypesParams"),
    ("typeHierarchy/subtypes", Shape.aboutType "TypeHierarchySubtypesParams"),
    ("textDocument/documentHighlight", Shape.atPlacePartly "DocumentHighlightParams"),
    ("textDocument/documentLink", Shape.aboutDocumentPartly "DocumentLinkParams" []),
    ("documentLink/resolve", Shape.documentLink),
    ("textDocument/codeLens", Shape.aboutDocumentPartly "CodeLensParams" []),
    ("codeLens/resolve", Shape.codeLens),
    ("textDocument/foldingRange", Shape.aboutDocumentPartly "FoldingRangeParams" []),
    ("textDocument/selectionRange", Shape.aboutDocumentPartly "SelectionRangeParams"
      [Schema.field "positions" (.list Shape.position)]),
    ("textDocument/documentSymbol", Shape.aboutDocumentPartly "DocumentSymbolParams" []),
    ("textDocument/semanticTokens/full", Shape.aboutDocumentPartly "SemanticTokensParams" []),
    ("textDocument/semanticTokens/full/delta",
      Shape.aboutDocumentPartly "SemanticTokensDeltaParams"
        [Schema.field "previousResultId" .text]),
    ("textDocument/semanticTokens/range",
      Shape.aboutDocumentPartly "SemanticTokensRangeParams" [Shape.rangeField]),
    ("textDocument/inlineValue", Shape.inlineValues),
    ("textDocument/inlayHint", Shape.aboutDocument "InlayHintParams" [Shape.rangeField]),
    ("inlayHint/resolve", Shape.inlayHint),
    ("textDocument/moniker", Shape.atPlacePartly "MonikerParams"),
    ("textDocument/diagnostic", Shape.aboutDocumentPartly "DocumentDiagnosticParams"
      [Schema.optionalField "identifier" .text, Schema.optionalField "previousResultId" .text]),
    ("workspace/diagnostic", Shape.workspaceDiagnostics),
    ("textDocument/codeAction", Shape.codeActions),
    ("codeAction/resolve", Shape.codeAction),
    ("textDocument/documentColor", Shape.aboutDocumentPartly "DocumentColorParams" []),
    ("textDocument/colorPresentation", Shape.colorForms),
    ("textDocument/formatting",
      Shape.aboutDocument "DocumentFormattingParams" [Shape.optionsField]),
    ("textDocument/rangeFormatting", Shape.aboutDocument "DocumentRangeFormattingParams"
      [Shape.rangeField, Shape.optionsField]),
    ("textDocument/onTypeFormatting", Shape.onTypeFormatting),
    ("textDocument/rename", Shape.rename),
    ("textDocument/prepareRename", Shape.place),
    ("textDocument/linkedEditingRange", Shape.atPlace "LinkedEditingRangeParams"),
    ("workspace/symbol", Shape.workspaceSymbols),
    ("workspaceSymbol/resolve", Shape.workspaceSymbol),
    ("workspace/willCreateFiles",
      Shape.willChangeFiles "CreateFilesParams" "FileCreate" ["uri"]),
    ("workspace/willRenameFiles",
      Shape.willChangeFiles "RenameFilesParams" "FileRename" ["oldUri", "newUri"]),
    ("workspace/willDeleteFiles",
      Shape.willChangeFiles "DeleteFilesParams" "FileDelete" ["uri"]),
    ("workspace/executeCommand", Shape.executeCommand)]

def unsupportedNotifications : List String :=
  ["textDocument/willSave", "textDocument/didSave", "workspace/didChangeWorkspaceFolders",
    "workspace/didCreateFiles", "workspace/didRenameFiles", "workspace/didDeleteFiles",
    "workspace/didChangeWatchedFiles"]

def ofName? (name : String) : Option Method :=
  if let some (_, method) := supported.find? fun entry => entry.1 == name then
    some method
  else if let some (_, shape) := unsupportedRequests.find? fun entry => entry.1 == name then
    some (.unsupported true shape)
  else if unsupportedNotifications.contains name then
    some (.unsupported false .any)
  else
    none

def isRequest : Method → Bool
  | .start | .stop | .hover | .completion | .resolve | .signatureHelp => true
  | .unsupported isRequest _ => isRequest
  | _ => false

/-- The parameters that a method takes; none if it takes no parameters at all. -/
def paramsShape : Method → Option Schema
  | .start => some Shape.start
  | .ready => some Shape.ready
  | .stop => none
  | .exit => none
  | .cancel => some .any
  | .didOpen => some Shape.didOpen
  | .didChange => some Shape.didChange
  | .didClose => some Shape.didClose
  | .didChangeConfiguration => some Shape.didChangeConfiguration
  | .hover => some (Shape.atPlace "HoverParams")
  | .completion => some Shape.completion
  | .resolve => some Shape.completionItem
  | .signatureHelp => some Shape.signatureHelp
  | .unsupported _ shape => some shape

def textField (name : String) (value : Json) : String :=
  match value.field? name with
  | some (.string content) => content
  | _ => ""

def intField (name : String) (value : Json) : Int :=
  match value.field? name with
  | some (.number (.int n)) => n
  | _ => 0

def partField (name : String) (value : Json) : Json :=
  Json.ofOption (value.field? name)

def uriOf (params : Json) : String :=
  textField "uri" (partField "textDocument" params)

def positionOf (value : Json) : Position :=
  ⟨(intField "line" value).toNat, (intField "character" value).toNat⟩

def changeOf (value : Json) : Change :=
  match value.field? "range" with
  | some range =>
    .edit ⟨positionOf (partField "start" range), positionOf (partField "end" range)⟩
      (textField "text" value)
  | none => .replace (textField "text" value)

def changesOf (params : Json) : List Change :=
  match params.field? "contentChanges" with
  | some (.array items) => items.map changeOf
  | _ => []

end Method

end NoxAssist
