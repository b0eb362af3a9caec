import NoxAssist.Report

namespace NoxAssist

def languageId : String :=
  "ns"

def serverName : String :=
  "NoxScript Language Server"

def serverVersion : String :=
  "0.1.0"

def wireNat (n : Nat) : Json :=
  .ofNat (n % 0x100000000)

def Hover.toWire (h : Hover) : Json :=
  let code := Json.ofFields [("language", .string languageId), ("value", .string h.signature)]
  let contents := code :: h.documentation.toList.map .string
  .ofFields [("contents", .array contents)]

def CompletionKind.toWire : CompletionKind → Json
  | .keyword => .ofNat 14
  | .function => .ofNat 3

def Completion.toWire (c : Completion) : Json :=
  .ofFields
    ([("label", .string c.label), ("kind", c.kind.toWire), ("detail", .string c.detail)]
      ++ documentationField c.documentation)

def SignatureInfo.toWire (s : SignatureInfo) : Json :=
  let parameters := s.parameters.map fun label => Json.ofFields [("label", .string label)]
  .ofFields
    ([("label", .string s.label), ("parameters", .array parameters)]
      ++ documentationField s.documentation)

def SignatureHelp.toWire (s : SignatureHelp) : Json :=
  .ofFields
    [("signatures", .array [s.signature.toWire]), ("activeSignature", .ofNat 0),
      ("activeParameter", wireNat s.activeParameter)]

def capabilities : Json :=
  .ofFields
    [("capabilities", .ofFields
        [("textDocumentSync", .ofNat 2), ("hoverProvider", .bool true),
          ("completionProvider", .ofFields [("resolveProvider", .bool true)]),
          ("signatureHelpProvider", .ofFields
            [("triggerCharacters", .ofStrings ["(", ","])])]),
      ("serverInfo", .ofFields
        [("name", .string serverName), ("version", .string serverVersion)])]

end NoxAssist
