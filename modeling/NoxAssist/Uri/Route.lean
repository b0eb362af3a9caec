import NoxAssist.Uri.Percent

namespace NoxAssist.Uri

def isDot (segment : List Char) : Bool :=
  let lower := segment.map Char.toLower
  lower == ['.'] || lower == ['%', '2', 'e']

def isDoubleDot (segment : List Char) : Bool :=
  let lower := segment.map Char.toLower
  lower == ['.', '.'] || lower == ['.', '%', '2', 'e'] || lower == ['%', '2', 'e', '.']
    || lower == ['%', '2', 'e', '%', '2', 'e']

def isDrive : List Char → Bool
  | [letter, mark] => letter.isAlpha && (mark == ':' || mark == '|')
  | _ => false

def startsWithDrive (segment : List Char) : Bool :=
  isDrive (segment.take 2) && (segment.length == 2 || segment[2]? == some '\\')

def leaveSegment : List (List Char) → List (List Char)
  | [] => []
  | last :: above => if startsWithDrive last then last :: above else above

/-- Resolves the dot segments of a path; `above` holds the segments before, last one first. -/
def resolveDots (above : List (List Char)) : List (List Char) → List (List Char)
  | [] => above.reverse
  | segment :: segments =>
    let above' :=
      if isDoubleDot segment then leaveSegment above
      else if isDot segment then above
      else segment :: above
    if segments.isEmpty && (isDot segment || isDoubleDot segment) then
      ([] :: above').reverse
    else
      resolveDots above' segments

def routeSegments (path : List Char) : List (List Char) :=
  resolveDots [] ((path.splitOn '/').map (encode reservedInPath))

def renderRoute (segments : List (List Char)) : List Char :=
  '/' :: ['/'].intercalate segments

def normalizeRoute (path : List Char) : List Char :=
  renderRoute (routeSegments path)

def fileSegments (path : List Char) : List (List Char) :=
  match routeSegments path with
  | [segment] => if isDrive segment then [segment.take 1 ++ [':']] else [segment]
  | segments => segments

def renderFileRoute (segments : List (List Char)) : List Char :=
  renderRoute (match segments.dropWhile List.isEmpty with
    | [] => [[]]
    | segments => segments)

end NoxAssist.Uri
