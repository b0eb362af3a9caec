import NoxAssist.Text.Blank

/-!
# Parameter lists

A parameter is a lowercase type, white space and a name. It may be followed by white space, at most
one comma and white space again, and the next parameter may follow at once: in `int abc de` the
parameters may be `int ab` and `c de`. So a reader of the list cannot know which parameter a
character belongs to. `Reading` keeps every possibility, one flag for each part of a parameter, and
a list is accepted when one of them has no parameter left unfinished.
-/

namespace NoxAssist.Declaration

open Text

def isNameChar (c : Char) : Bool :=
  c.isAlphanum || c == '_'

def isListChar (c : Char) : Bool :=
  isNameChar c || isBlank c || c == ','

/-- The parts of a parameter that the characters read so far can end in. -/
structure Reading where
  fresh : Bool
  type : Bool
  gap : Bool
  name : Bool
  trail : Bool
deriving DecidableEq, Repr

namespace Reading

def start : Reading :=
  ⟨true, false, false, false, false⟩

def next (r : Reading) (c : Char) : Reading where
  fresh := (r.fresh && isBlank c) || ((r.name || r.trail) && c == ',')
  type := (r.fresh || r.type || r.name || r.trail) && c.isLower
  gap := (r.type || r.gap) && isBlank c
  name := (r.gap || r.name) && isNameChar c
  trail := (r.name || r.trail) && isBlank c

def isComplete (r : Reading) : Bool :=
  r.fresh || r.name || r.trail

end Reading

def isParameterList (list : List Char) : Bool :=
  (list.foldl Reading.next Reading.start).isComplete

def splitParameters (list : List Char) : List String :=
  ((list.splitOn ',').map trim).filterMap fun piece =>
    if piece.isEmpty then none else some (String.ofList piece)

end NoxAssist.Declaration
