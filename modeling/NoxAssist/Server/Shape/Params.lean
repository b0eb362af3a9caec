import NoxAssist.Server.Shape.Basic

namespace NoxAssist.Shape

open Schema

def didOpen : Schema :=
  recordOf "DidOpenTextDocumentParams"
    [field "textDocument" (recordOf "TextDocumentItem"
      [field "uri" .uri, field "languageId" .text, field "version" signed, field "text" .text])]

def change : Schema :=
  recordOf "TextDocumentContentChangeEvent"
    [optionalField "range" range, optionalField "rangeLength" unsigned, field "text" .text]

def didChange : Schema :=
  recordOf "DidChangeTextDocumentParams"
    [field "textDocument" (recordOf "VersionedTextDocumentIdentifier"
        [field "uri" .uri, field "version" signed]),
      field "contentChanges" (.list change)]

def didClose : Schema :=
  recordOf "DidCloseTextDocumentParams" [documentField]

def didChangeConfiguration : Schema :=
  recordOf "DidChangeConfigurationParams" [field "settings" .any]

def ready : Schema :=
  recordOf "InitializedParams" []

def willSave : Schema :=
  recordOf "WillSaveTextDocumentParams" [documentField, field "reason" signed]

def atPlace (name : String) : Schema :=
  mixedOf name [] [place, progress]

def atPlacePartly (name : String) : Schema :=
  mixedOf name [] [place, progress, partialResults]

def completion : Schema :=
  mixedOf "CompletionParams"
    [optionalField "context" (recordOf "CompletionContext"
      [field "triggerKind" signed, optionalField "triggerCharacter" .text])]
    [place, progress, partialResults]

def signatureInformation : Schema :=
  recordOf "SignatureInformation"
    [field "label" .text, optionalField "documentation" (documentation "Documentation"),
      optionalField "parameters" (.list (recordOf "ParameterInformation"
        [field "label" (.union "ParameterLabel" [.text, .tuple 2 unsigned]),
          optionalField "documentation" (documentation "Documentation")])),
      optionalField "activeParameter" unsigned]

def shownSignatureHelp : Schema :=
  recordOf "SignatureHelp"
    [field "signatures" (.list signatureInformation), optionalField "activeSignature" unsigned,
      optionalField "activeParameter" unsigned]

def signatureHelp : Schema :=
  mixedOf "SignatureHelpParams"
    [optionalField "context" (recordOf "SignatureHelpContext"
      [field "triggerKind" signed, optionalField "triggerCharacter" .text,
        field "isRetrigger" .flag, optionalField "activeSignatureHelp" shownSignatureHelp])]
    [place, progress]

def references : Schema :=
  mixedOf "ReferenceParams"
    [field "context" (recordOf "ReferenceContext" [field "includeDeclaration" .flag])]
    [place, progress, partialResults]

def rename : Schema :=
  mixedOf "RenameParams" [field "newName" .text] [place, progress]

def aboutDocument (name : String) (fields : List (String × Bool × Schema)) : Schema :=
  mixedOf name (documentField :: fields) [progress]

def aboutDocumentPartly (name : String) (fields : List (String × Bool × Schema)) : Schema :=
  mixedOf name (documentField :: fields) [progress, partialResults]

def rangeField : String × Bool × Schema :=
  field "range" range

/-- How a document is laid out; any further property is a flag, a number or a text. -/
def formattingOptions : Schema :=
  mixedOf "FormattingOptions"
    [field "tabSize" unsigned, field "insertSpaces" .flag,
      optionalField "trimTrailingWhitespace" .flag, optionalField "insertFinalNewline" .flag,
      optionalField "trimFinalNewlines" .flag]
    [.table (.union "FormattingProperty" [.flag, signed, .text])]

def optionsField : String × Bool × Schema :=
  field "options" formattingOptions

def onTypeFormatting : Schema :=
  mixedOf "DocumentOnTypeFormattingParams" [field "ch" .text, optionsField] [place]

def codeActions : Schema :=
  aboutDocumentPartly "CodeActionParams"
    [rangeField, field "context" (recordOf "CodeActionContext"
      [field "diagnostics" (.list diagnostic), optionalField "only" (.list .text),
        optionalField "triggerKind" signed])]

def colorForms : Schema :=
  aboutDocumentPartly "ColorPresentationParams"
    [field "color" (recordOf "Color"
        [field "red" (.real "f32"), field "green" (.real "f32"), field "blue" (.real "f32"),
          field "alpha" (.real "f32")]),
      rangeField]

def inlineValues : Schema :=
  aboutDocument "InlineValueParams"
    [rangeField, field "context" (recordOf "InlineValueContext"
      [field "frameId" signed, field "stoppedLocation" range])]

def workspaceDiagnostics : Schema :=
  mixedOf "WorkspaceDiagnosticParams"
    [optionalField "identifier" .text,
      field "previousResultIds" (.list (recordOf "PreviousResultId"
        [field "uri" .uri, field "value" .text]))]
    [progress, partialResults]

def workspaceSymbols : Schema :=
  mixedOf "WorkspaceSymbolParams" [field "query" .text] [partialResults, progress]

def executeCommand : Schema :=
  mixedOf "ExecuteCommandParams"
    [field "command" .text, lackingField "arguments" (.list .any)] [progress]

def willChangeFiles (name item : String) (names : List String) : Schema :=
  recordOf name
    [field "files" (.list (recordOf item (names.map fun name => field name .text)))]

def completionItem : Schema :=
  recordOf "CompletionItem"
    [field "label" .text,
      optionalField "labelDetails" (recordOf "CompletionItemLabelDetails"
        [optionalField "detail" .text, optionalField "description" .text]),
      optionalField "kind" signed, optionalField "detail" .text,
      optionalField "documentation" (documentation "Documentation"),
      optionalField "deprecated" .flag, optionalField "preselect" .flag,
      optionalField "sortText" .text, optionalField "filterText" .text,
      optionalField "insertText" .text, optionalField "insertTextFormat" signed,
      optionalField "insertTextMode" signed,
      optionalField "textEdit" (.union "CompletionTextEdit" [textEdit, insertReplaceEdit]),
      optionalField "additionalTextEdits" (.list textEdit), optionalField "command" command,
      optionalField "commitCharacters" (.list .text), optionalField "data" .any,
      optionalField "tags" (.list signed)]

def codeLens : Schema :=
  recordOf "CodeLens" [rangeField, optionalField "command" command, optionalField "data" .any]

def documentLink : Schema :=
  recordOf "DocumentLink"
    [rangeField, optionalField "target" .uri, optionalField "tooltip" .text,
      optionalField "data" .any]

def inlayHint : Schema :=
  recordOf "InlayHint"
    [field "position" position,
      field "label" (.union "InlayHintLabel" [.text, .list (recordOf "InlayHintLabelPart"
        [field "value" .text,
          optionalField "tooltip" (documentation "InlayHintLabelPartTooltip"),
          optionalField "location" location, optionalField "command" command])]),
      optionalField "kind" signed, optionalField "textEdits" (.list textEdit),
      optionalField "tooltip" (documentation "InlayHintTooltip"),
      optionalField "paddingLeft" .flag, optionalField "paddingRight" .flag,
      optionalField "data" .any]

def codeAction : Schema :=
  recordOf "CodeAction"
    [field "title" .text, optionalField "kind" .text,
      optionalField "diagnostics" (.list diagnostic), optionalField "edit" workspaceEdit,
      optionalField "command" command, optionalField "isPreferred" .flag,
      optionalField "disabled" (recordOf "CodeActionDisabled" [field "reason" .text]),
      optionalField "data" .any]

def workspaceSymbol : Schema :=
  recordOf "WorkspaceSymbol"
    [field "name" .text, field "kind" signed, optionalField "tags" (.list signed),
      optionalField "containerName" .text,
      field "location" (.union "OneOf"
        [location, recordOf "WorkspaceLocation" [field "uri" .uri]]),
      optionalField "data" .any]

def hierarchyItem (name : String) (tags : Schema) : Schema :=
  recordOf name
    [field "name" .text, field "kind" signed, optionalField "tags" tags,
      optionalField "detail" .text, field "uri" .uri, field "range" range,
      field "selectionRange" range, optionalField "data" .any]

def aboutCall (name : String) : Schema :=
  mixedOf name [field "item" (hierarchyItem "CallHierarchyItem" (.list signed))]
    [progress, partialResults]

def aboutType (name : String) : Schema :=
  mixedOf name [field "item" (hierarchyItem "TypeHierarchyItem" signed)]
    [progress, partialResults]

end NoxAssist.Shape
