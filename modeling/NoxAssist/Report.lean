import NoxAssist.Analysis

namespace NoxAssist

def documentationField : Option String → List (String × Json)
  | some text => [("documentation", .string text)]
  | none => []

def Declaration.toJson (d : Declaration) : Json :=
  .ofFields
    [("return_type", .string d.returnType), ("name", .string d.name),
      ("parameters", .ofStrings d.parameters), ("rendered", .string d.rendered)]

def Builtin.toJson (b : Builtin) : Json :=
  let parameters := b.signature.parameters.map fun label => Json.ofFields [("label", .string label)]
  .ofFields
    [("name", .string b.name), ("text", .string b.text), ("brief", .string b.brief),
      ("detail", .string b.detail),
      ("signature", .ofFields
        [("label", .string b.signature.label), ("parameters", .array parameters)])]

/-- The call around a cursor in a report; without one, the name is null and the argument zero. -/
def Call.toJson : Option Call → Json
  | some call =>
    .ofFields [("function_name", .string call.name), ("active_parameter", .ofNat call.argument)]
  | none => .ofFields [("function_name", .null), ("active_parameter", .ofNat 0)]

def Hover.toJson (h : Hover) : Json :=
  .ofFields (("signature", .string h.signature) :: documentationField h.documentation)

def Completion.toJson (c : Completion) : Json :=
  .ofFields
    ([("label", .string c.label), ("kind", .string c.kind.name), ("detail", .string c.detail)]
      ++ documentationField c.documentation)

def SignatureInfo.toJson (s : SignatureInfo) : Json :=
  .ofFields
    ([("label", .string s.label), ("parameters", .ofStrings s.parameters)]
      ++ documentationField s.documentation)

def SignatureHelp.toJson (s : SignatureHelp) : Json :=
  .ofFields
    [("signatures", .array [s.signature.toJson]), ("active_signature", .ofNat 0),
      ("active_parameter", .ofNat s.activeParameter)]

def Settings.toJson (s : Settings) : Json :=
  .ofFields
    [("keywords", .bool s.completesKeywords), ("builtins", .bool s.completesBuiltins),
      ("active_parameter", .string s.argumentPolicy.name)]

end NoxAssist
