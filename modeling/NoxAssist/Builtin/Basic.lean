namespace NoxAssist

namespace Builtin

structure Signature where
  label : String
  parameters : List String
deriving DecidableEq, Repr

end Builtin

structure Builtin where
  name : String
  text : String
  brief : String
  detail : String
  signature : Builtin.Signature
deriving DecidableEq, Repr

namespace Builtin

def documentation? (b : Builtin) : Option String :=
  if !b.detail.isEmpty then some b.detail
  else if !b.brief.isEmpty then some b.brief
  else none

end Builtin

end NoxAssist
