import NoxAssist.Uri.Host
import NoxAssist.Uri.Route

/-!
# Document addresses

A document is known by an absolute URI. `Uri.parse` refuses a text that is not one and gives every
other its parts in normal form, so that two spellings of an address name the same document: white
space at the ends is dropped, the scheme and the host are in lowercase, dot segments of a path are
resolved, and characters that may not stand in a part are percent-encoded.
-/

namespace NoxAssist

structure Uri where
  scheme : String
  authority : Option String
  path : String
  query : Option String
  fragment : Option String
deriving DecidableEq, Repr

namespace Uri

def clean (chars : List Char) : List Char :=
  let isEdge (c : Char) : Bool := c.toNat ≤ 0x20
  let inner := ((chars.dropWhile isEdge).reverse.dropWhile isEdge).reverse
  inner.filter fun c => c != '\t' && c != '\n' && c != '\r'

def isSchemeChar (c : Char) : Bool :=
  c.isAlphanum || c == '+' || c == '-' || c == '.'

def scheme? (chars : List Char) : Option (String × List Char) :=
  let scheme := chars.takeWhile isSchemeChar
  match scheme, chars.dropWhile isSchemeChar with
  | first :: _, ':' :: rest =>
    if first.isAlpha then some (String.ofList (scheme.map Char.toLower), rest) else none
  | _, _ => none

def knownSchemes : List (String × Nat) :=
  [("http", 80), ("https", 443), ("ws", 80), ("wss", 443), ("ftp", 21)]

def splitBefore (mark : Char) (chars : List Char) : List Char × List Char :=
  (chars.takeWhile (· != mark), chars.dropWhile (· != mark))

def forwardSlash (c : Char) : Char :=
  if c == '\\' then '/' else c

def userOf (chars : List Char) : List Char :=
  let (name, password) := splitBefore ':' chars
  let password := password.drop 1
  if name.isEmpty && password.isEmpty then
    []
  else
    encode reservedInUser name
      ++ (if password.isEmpty then [] else ':' :: encode reservedInUser password) ++ ['@']

def splitService (inBrackets : Bool) : List Char → List Char × List Char
  | [] => ([], [])
  | c :: chars =>
    if c == ':' && !inBrackets then
      ([], c :: chars)
    else
      let inBrackets := c == '[' || (inBrackets && c != ']')
      let (host, rest) := splitService inBrackets chars
      (c :: host, rest)

def serviceOf (standard : Option Nat) (chars : List Char) :
    Except Fault (List Char × List Char) :=
  let digits := chars.takeWhile Char.isDigit
  let rest := chars.dropWhile Char.isDigit
  let number := digits.foldl (fun n c => n * 10 + (c.toNat - '0'.toNat)) 0
  if 0x10000 ≤ number || !(rest.isEmpty || rest.head? == some '\\') then
    .error .badService
  else if digits.isEmpty || standard == some number then
    .ok ([], rest)
  else
    .ok (':' :: Nat.toDigits 10 number, rest)

/-- User, host and service of an address, and the start of its path if a backslash ends them. The
schemes that are known have a standard service, and need a host. An empty host goes neither with a
user nor with a service; `isLast` says that nothing follows. -/
def authorityOf (standard : Option Nat) (isLast : Bool) (chars : List Char) :
    Except Fault (List Char × List Char) := do
  let place := (chars.reverse.takeWhile (· != '@')).reverse
  let user := chars.take (chars.length - place.length - 1)
  let (host, service) := splitService false place
  if chars == ['@'] && !isLast then
    .error .emptyHost
  else if host.isEmpty then
    if standard.isSome || !service.isEmpty || !(userOf user).isEmpty then
      .error .emptyHost
    else
      return ([], [])
  else
    let host ← if standard.isSome then knownHost host else otherHost host
    let (service, rest) ← serviceOf standard (service.drop 1)
    return (userOf user ++ host ++ service, rest)

structure Body where
  authority : Option (List Char)
  path : List Char
deriving DecidableEq, Repr

def fileBody (chars : List Char) : Except Fault Body :=
  match chars.map forwardSlash with
  | '/' :: '/' :: rest => do
    let (host, path) := splitBefore '/' rest
    if isDrive host then
      return ⟨some [], renderFileRoute (fileSegments rest)⟩
    else
      let host ← if host.isEmpty then pure [] else knownHost host
      let segments := fileSegments (path.drop 1)
      let hasHost := host != "localhost".toList && !segments.head?.any isDrive
      return ⟨some (if hasHost then host else []), renderFileRoute segments⟩
  | '/' :: path => .ok ⟨some [], renderFileRoute (fileSegments path)⟩
  | path => .ok ⟨some [], renderFileRoute (fileSegments path)⟩

def knownBody (standard : Nat) (isLast : Bool) (chars : List Char) : Except Fault Body := do
  let (authority, path) := splitBefore '/' ((chars.map forwardSlash).dropWhile (· == '/'))
  let (authority, _) ← authorityOf (some standard) (isLast && path.isEmpty) authority
  return ⟨some authority, normalizeRoute (path.drop 1)⟩

def otherBody (isLast : Bool) (chars : List Char) : Except Fault Body :=
  match chars with
  | '/' :: '/' :: rest => do
    let (authority, path) := splitBefore '/' rest
    let (authority, start) ← authorityOf none (isLast && path.isEmpty) authority
    let path := if start.isEmpty then path else '/' :: start ++ path
    return ⟨some authority, if path.isEmpty then [] else normalizeRoute (path.drop 1)⟩
  | '/' :: path => .ok ⟨none, normalizeRoute path⟩
  | path => .ok ⟨none, encode [] path⟩

def parse (text : String) : Except Fault Uri := do
  match scheme? (clean text.toList) with
  | none => .error .noScheme
  | some (scheme, rest) =>
    let (rest, fragment) := splitBefore '#' rest
    let (rest, query) := splitBefore '?' rest
    let isLast := query.isEmpty && fragment.isEmpty
    let standard := (knownSchemes.find? fun known => known.1 == scheme).map (·.2)
    let body ←
      match standard with
      | some standard => knownBody standard isLast rest
      | none => if scheme == "file" then fileBody rest else otherBody isLast rest
    let part (reserved : List Char) : List Char → Option String
      | [] => none
      | _ :: chars => some (String.ofList (encode reserved chars))
    return {
      scheme
      authority := body.authority.map String.ofList
      path := String.ofList body.path
      query := part (reservedInQuery (standard.isSome || scheme == "file")) query
      fragment := part reservedInFragment fragment }

/-- The text of an address. A path that starts with two slashes would be taken for a host where
there is none, so it is written behind a segment that stands for nothing. -/
def render (u : Uri) : String :=
  let authority := match u.authority with
    | some authority => "//" ++ authority
    | none => if ['/', '/'].isPrefixOf u.path.toList then "/." else ""
  let query := (u.query.map ("?" ++ ·)).getD ""
  let fragment := (u.fragment.map ("#" ++ ·)).getD ""
  u.scheme ++ ":" ++ authority ++ u.path ++ query ++ fragment

def normalize (text : String) : Except Fault String :=
  render <$> parse text

end Uri

end NoxAssist
