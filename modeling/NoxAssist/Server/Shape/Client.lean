import NoxAssist.Server.Shape.Basic

namespace NoxAssist.Shape

open Schema

def flags (name : String) (names : List String) : Schema :=
  recordOf name (names.map fun name => optionalField name .flag)

def registration : Schema :=
  flags "DynamicRegistrationClientCapabilities" ["dynamicRegistration"]

def registrationField : String × Bool × Schema :=
  optionalField "dynamicRegistration" .flag

def refresh (name : String) : Schema :=
  flags name ["refreshSupport"]

def properties (name : String) : Schema :=
  recordOf name [field "properties" (.list .text)]

def knownValues (name : String) (shape : Schema) : Schema :=
  recordOf name [optionalField "valueSet" (.list shape)]

/-- The tags that the client knows; a flag says only whether it knows any. -/
def tagSupport : String × Bool × Schema :=
  lackingField "tagSupport"
    (.optional (.orFlag (recordOf "TagSupport" [field "valueSet" (.list signed)])))

def symbolKinds : Schema :=
  knownValues "SymbolKindCapability" signed

def markupKinds : Schema :=
  .list markupKind

def workspaceEditSupport : Schema :=
  recordOf "WorkspaceEditClientCapabilities"
    [optionalField "documentChanges" .flag,
      optionalField "resourceOperations" (.list (.choice ["create", "rename", "delete"])),
      optionalField "failureHandling"
        (.choice ["abort", "transactional", "textOnlyTransactional", "undo"]),
      optionalField "normalizesLineEndings" .flag,
      optionalField "changeAnnotationSupport"
        (flags "ChangeAnnotationWorkspaceEditClientCapabilities" ["groupsOnLabel"])]

def workspaceSymbolSupport : Schema :=
  recordOf "WorkspaceSymbolClientCapabilities"
    [registrationField, optionalField "symbolKind" symbolKinds, tagSupport,
      optionalField "resolveSupport" (properties "WorkspaceSymbolResolveSupportCapability")]

def workspaceSupport : Schema :=
  recordOf "WorkspaceClientCapabilities"
    [optionalField "applyEdit" .flag, optionalField "workspaceEdit" workspaceEditSupport,
      optionalField "didChangeConfiguration" registration,
      optionalField "didChangeWatchedFiles" (flags "DidChangeWatchedFilesClientCapabilities"
        ["dynamicRegistration", "relativePatternSupport"]),
      optionalField "symbol" workspaceSymbolSupport,
      optionalField "executeCommand" registration,
      optionalField "workspaceFolders" .flag, optionalField "configuration" .flag,
      optionalField "semanticTokens" (refresh "SemanticTokensWorkspaceClientCapabilities"),
      optionalField "codeLens" (refresh "CodeLensWorkspaceClientCapabilities"),
      optionalField "fileOperations" (flags "WorkspaceFileOperationsClientCapabilities"
        ["dynamicRegistration", "didCreate", "willCreate", "didRename", "willRename", "didDelete",
          "willDelete"]),
      optionalField "inlineValue" (refresh "InlineValueWorkspaceClientCapabilities"),
      optionalField "inlayHint" (refresh "InlayHintWorkspaceClientCapabilities"),
      optionalField "diagnostic" (refresh "DiagnosticWorkspaceClientCapabilities")]

def completionItemSupport : Schema :=
  recordOf "CompletionItemCapability"
    [optionalField "snippetSupport" .flag, optionalField "commitCharactersSupport" .flag,
      optionalField "documentationFormat" markupKinds, optionalField "deprecatedSupport" .flag,
      optionalField "preselectSupport" .flag, tagSupport,
      optionalField "insertReplaceSupport" .flag,
      optionalField "resolveSupport" (properties "CompletionItemCapabilityResolveSupport"),
      optionalField "insertTextModeSupport"
        (recordOf "InsertTextModeSupport" [field "valueSet" (.list signed)]),
      optionalField "labelDetailsSupport" .flag]

def completionSupport : Schema :=
  recordOf "CompletionClientCapabilities"
    [registrationField, optionalField "completionItem" completionItemSupport,
      optionalField "completionItemKind" (knownValues "CompletionItemKindCapability" signed),
      optionalField "contextSupport" .flag, optionalField "insertTextMode" signed,
      optionalField "completionList"
        (recordOf "CompletionListCapability" [optionalField "itemDefaults" (.list .text)])]

def signatureHelpSupport : Schema :=
  recordOf "SignatureHelpClientCapabilities"
    [registrationField,
      optionalField "signatureInformation" (recordOf "SignatureInformationSettings"
        [optionalField "documentationFormat" markupKinds,
          optionalField "parameterInformation"
            (flags "ParameterInformationSettings" ["labelOffsetSupport"]),
          optionalField "activeParameterSupport" .flag]),
      optionalField "contextSupport" .flag]

def documentSymbolSupport : Schema :=
  recordOf "DocumentSymbolClientCapabilities"
    [registrationField, optionalField "symbolKind" symbolKinds,
      optionalField "hierarchicalDocumentSymbolSupport" .flag, tagSupport]

def codeActionSupport : Schema :=
  recordOf "CodeActionClientCapabilities"
    [registrationField,
      optionalField "codeActionLiteralSupport" (recordOf "CodeActionLiteralSupport"
        [field "codeActionKind" (recordOf "CodeActionKindLiteralSupport"
          [field "valueSet" (.list .text)])]),
      optionalField "isPreferredSupport" .flag, optionalField "disabledSupport" .flag,
      optionalField "dataSupport" .flag,
      optionalField "resolveSupport" (properties "CodeActionCapabilityResolveSupport"),
      optionalField "honorsChangeAnnotations" .flag]

def renameSupport : Schema :=
  recordOf "RenameClientCapabilities"
    [registrationField, optionalField "prepareSupport" .flag,
      optionalField "prepareSupportDefaultBehavior" signed,
      optionalField "honorsChangeAnnotations" .flag]

def publishSupport : Schema :=
  recordOf "PublishDiagnosticsClientCapabilities"
    [optionalField "relatedInformation" .flag, tagSupport, optionalField "versionSupport" .flag,
      optionalField "codeDescriptionSupport" .flag, optionalField "dataSupport" .flag]

def foldingSupport : Schema :=
  recordOf "FoldingRangeClientCapabilities"
    [registrationField, optionalField "rangeLimit" unsigned,
      optionalField "lineFoldingOnly" .flag,
      optionalField "foldingRangeKind" (knownValues "FoldingRangeKindCapability"
        (.choice ["comment", "imports", "region"])),
      optionalField "foldingRange" (flags "FoldingRangeCapability" ["collapsedText"])]

def semanticTokenSupport : Schema :=
  recordOf "SemanticTokensClientCapabilities"
    [registrationField,
      field "requests" (recordOf "SemanticTokensClientCapabilitiesRequests"
        [optionalField "range" .flag,
          optionalField "full" (.union "SemanticTokensFullOptions"
            [.flag, recordOf "SemanticTokensFullOptions" [optionalField "delta" .flag]])]),
      field "tokenTypes" (.list .text), field "tokenModifiers" (.list .text),
      field "formats" (.list .text), optionalField "overlappingTokenSupport" .flag,
      optionalField "multilineTokenSupport" .flag, optionalField "serverCancelSupport" .flag,
      optionalField "augmentsSyntaxTokens" .flag]

def targetSupport : Schema :=
  flags "GotoCapability" ["dynamicRegistration", "linkSupport"]

def documentSupport : Schema :=
  recordOf "TextDocumentClientCapabilities"
    [optionalField "synchronization" (flags "TextDocumentSyncClientCapabilities"
        ["dynamicRegistration", "willSave", "willSaveWaitUntil", "didSave"]),
      optionalField "completion" completionSupport,
      optionalField "hover" (recordOf "HoverClientCapabilities"
        [registrationField, optionalField "contentFormat" markupKinds]),
      optionalField "signatureHelp" signatureHelpSupport,
      optionalField "references" registration,
      optionalField "documentHighlight" registration,
      optionalField "documentSymbol" documentSymbolSupport,
      optionalField "formatting" registration,
      optionalField "rangeFormatting" registration,
      optionalField "onTypeFormatting" registration,
      optionalField "declaration" targetSupport,
      optionalField "definition" targetSupport,
      optionalField "typeDefinition" targetSupport,
      optionalField "implementation" targetSupport,
      optionalField "codeAction" codeActionSupport,
      optionalField "codeLens" registration,
      optionalField "documentLink" (flags "DocumentLinkClientCapabilities"
        ["dynamicRegistration", "tooltipSupport"]),
      optionalField "colorProvider" registration,
      optionalField "rename" renameSupport,
      optionalField "publishDiagnostics" publishSupport,
      optionalField "foldingRange" foldingSupport,
      optionalField "selectionRange"
        (flags "SelectionRangeClientCapabilities" ["dynamicRegistration"]),
      optionalField "linkedEditingRange" registration,
      optionalField "callHierarchy" registration,
      optionalField "semanticTokens" semanticTokenSupport,
      optionalField "moniker" registration,
      optionalField "typeHierarchy" registration,
      optionalField "inlineValue" registration,
      optionalField "inlayHint" (recordOf "InlayHintClientCapabilities"
        [registrationField,
          optionalField "resolveSupport" (properties "InlayHintResolveClientCapabilities")]),
      optionalField "diagnostic" (flags "DiagnosticClientCapabilities"
        ["dynamicRegistration", "relatedDocumentSupport"])]

def windowSupport : Schema :=
  recordOf "WindowClientCapabilities"
    [optionalField "workDoneProgress" .flag,
      optionalField "showMessage" (recordOf "ShowMessageRequestClientCapabilities"
        [optionalField "messageActionItem"
          (flags "MessageActionItemCapabilities" ["additionalPropertiesSupport"])]),
      optionalField "showDocument"
        (recordOf "ShowDocumentClientCapabilities" [field "support" .flag])]

def generalSupport : Schema :=
  recordOf "GeneralClientCapabilities"
    [optionalField "regularExpressions" (recordOf "RegularExpressionsClientCapabilities"
        [field "engine" .text, optionalField "version" .text]),
      optionalField "markdown" (recordOf "MarkdownClientCapabilities"
        [field "parser" .text, optionalField "version" .text,
          optionalField "allowedTags" (.list .text)]),
      optionalField "staleRequestSupport" (recordOf "StaleRequestSupportClientCapabilities"
        [field "cancel" .flag, field "retryOnContentModified" (.list .text)]),
      optionalField "positionEncodings" (.list .text)]

def clientSupport : Schema :=
  recordOf "ClientCapabilities"
    [optionalField "workspace" workspaceSupport, optionalField "textDocument" documentSupport,
      optionalField "window" windowSupport, optionalField "general" generalSupport,
      optionalField "experimental" .any]

def folder : Schema :=
  recordOf "WorkspaceFolder" [field "uri" .uri, field "name" .text]

def start : Schema :=
  recordOf "InitializeParams"
    [optionalField "processId" unsigned, optionalField "rootPath" .text,
      lackingField "rootUri" (.optional .uri), optionalField "initializationOptions" .any,
      field "capabilities" clientSupport,
      lackingField "trace" (.optional (.choice ["off", "messages", "verbose"])),
      optionalField "workspaceFolders" (.list folder),
      optionalField "clientInfo"
        (recordOf "ClientInfo" [field "name" .text, optionalField "version" .text]),
      optionalField "locale" .text]

end NoxAssist.Shape
