namespace NoxAssist

structure Declaration where
  returnType : String
  name : String
  parameters : List String
deriving DecidableEq, Repr

namespace Declaration

def rendered (d : Declaration) : String :=
  d.returnType ++ " " ++ d.name ++ " (" ++ ", ".intercalate d.parameters ++ ")"

end Declaration

end NoxAssist
