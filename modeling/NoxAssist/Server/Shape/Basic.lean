import NoxAssist.Server.Schema

namespace NoxAssist.Shape

open Schema

def title (name : String) : String :=
  "struct " ++ name

def recordOf (name : String) (fields : List (String × Bool × Schema)) : Schema :=
  .record (title name) fields

def mixedOf (name : String) (fields : List (String × Bool × Schema)) (parts : List Schema) :
    Schema :=
  .mixed (title name) fields parts

def position : Schema :=
  recordOf "Position" [field "line" unsigned, field "character" unsigned]

def range : Schema :=
  recordOf "Range" [field "start" position, field "end" position]

def location : Schema :=
  recordOf "Location" [field "uri" .uri, field "range" range]

def document : Schema :=
  recordOf "TextDocumentIdentifier" [field "uri" .uri]

def documentField : String × Bool × Schema :=
  field "textDocument" document

def place : Schema :=
  recordOf "TextDocumentPositionParams" [documentField, field "position" position]

def token : Schema :=
  .union "NumberOrString" [signed, .text]

def progress : Schema :=
  recordOf "WorkDoneProgressParams" [optionalField "workDoneToken" token]

def partialResults : Schema :=
  recordOf "PartialResultParams" [optionalField "partialResultToken" token]

def markupKind : Schema :=
  .choice ["plaintext", "markdown"]

def markup : Schema :=
  recordOf "MarkupContent" [field "kind" markupKind, field "value" .text]

def documentation (name : String) : Schema :=
  .union name [.text, markup]

def textEdit : Schema :=
  recordOf "TextEdit" [field "range" range, field "newText" .text]

def insertReplaceEdit : Schema :=
  recordOf "InsertReplaceEdit"
    [field "newText" .text, field "insert" range, field "replace" range]

def annotatedEdit : Schema :=
  mixedOf "AnnotatedTextEdit" [field "annotationId" .text] [textEdit]

def documentEdit : Schema :=
  recordOf "TextDocumentEdit"
    [field "textDocument" (recordOf "OptionalVersionedTextDocumentIdentifier"
        [field "uri" .uri, optionalField "version" signed]),
      field "edits" (.list (.union "OneOf" [textEdit, annotatedEdit]))]

def createFile : Schema :=
  recordOf "CreateFile"
    [field "uri" .uri,
      optionalField "options" (recordOf "CreateFileOptions"
        [optionalField "overwrite" .flag, optionalField "ignoreIfExists" .flag]),
      optionalField "annotationId" .text]

def renameFile : Schema :=
  recordOf "RenameFile"
    [field "oldUri" .uri, field "newUri" .uri,
      optionalField "options" (recordOf "RenameFileOptions"
        [optionalField "overwrite" .flag, optionalField "ignoreIfExists" .flag]),
      optionalField "annotationId" .text]

def deleteFile : Schema :=
  recordOf "DeleteFile"
    [field "uri" .uri,
      optionalField "options" (recordOf "DeleteFileOptions"
        [optionalField "recursive" .flag, optionalField "ignoreIfNotExists" .flag,
          optionalField "annotationId" .text])]

def fileChange : Schema :=
  .union "DocumentChangeOperation"
    [.tagged "kind" [("create", createFile), ("rename", renameFile), ("delete", deleteFile)],
      documentEdit]

def changeAnnotation : Schema :=
  recordOf "ChangeAnnotation"
    [field "label" .text, optionalField "needsConfirmation" .flag,
      optionalField "description" .text]

def workspaceEdit : Schema :=
  recordOf "WorkspaceEdit"
    [lackingField "changes" (.optional (.uriTable (.list textEdit))),
      optionalField "documentChanges"
        (.union "DocumentChanges" [.list documentEdit, .list fileChange]),
      optionalField "changeAnnotations" (.table changeAnnotation)]

def command : Schema :=
  recordOf "Command"
    [field "title" .text, field "command" .text, optionalField "arguments" (.list .any)]

def diagnostic : Schema :=
  recordOf "Diagnostic"
    [field "range" range, optionalField "severity" signed, optionalField "code" token,
      optionalField "codeDescription" (recordOf "CodeDescription" [field "href" .uri]),
      optionalField "source" .text, field "message" .text,
      optionalField "relatedInformation" (.list (recordOf "DiagnosticRelatedInformation"
        [field "location" location, field "message" .text])),
      optionalField "tags" (.list signed), optionalField "data" .any]

end NoxAssist.Shape
