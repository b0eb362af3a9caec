namespace NoxAssist.Path

def segments (path : String) : List String :=
  (path.toList.splitOn '/').map String.ofList

def isAbsolute (path : String) : Bool :=
  path.toList.head? == some '/'

inductive Component where
  | root
  | here
  | above
  | named (name : String)
deriving DecidableEq, Repr

def Component.ofSegment? (segment : String) : Option Component :=
  if segment = "" ∨ segment = "." then none
  else if segment = ".." then some .above
  else some (.named segment)

/-- The components of a path. A single dot counts only at the start of a relative path. -/
def components (path : String) : List Component :=
  if isAbsolute path then
    .root :: (segments path).filterMap Component.ofSegment?
  else
    match segments path with
    | "." :: rest => .here :: rest.filterMap Component.ofSegment?
    | rest => rest.filterMap Component.ofSegment?

def suspicious : List Char :=
  ['\x00', '\n', '\r', '\t']

/-- Whether the second byte of a path is a colon, as behind the letter of a drive. -/
def hasDrive (path : String) : Bool :=
  match path.toList with
  | first :: ':' :: _ => first.utf8Size == 1
  | _ => false

def isSafe (path : String) : Bool :=
  !path.isEmpty
    && !isAbsolute path
    && !(components path).contains .above
    && !path.toList.any suspicious.contains
    && !hasDrive path

end NoxAssist.Path
