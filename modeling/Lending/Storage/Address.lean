import Lending.Failure
import Lending.Storage.Host

/-! # Storage addresses

The address of a record: how it is shown, and the path that storage knows it by.
-/

namespace Lending

/-- The parts of an address, all of them encoded but for the scope of a host in groups, which stands
here without brackets. -/
structure Address where
  scheme : List Char
  userInfo : List Char
  host : List CodePoint
  portNumber : Option Int
  path : List Char
  query : Option (List Char)
  fragment : Option (List Char)
deriving DecidableEq, Repr

namespace Address

def greatestLength : Nat := 65536

/-- Leave every `.` out, and let every `..` take the name before it away. -/
def withoutDots [DecidableEq α] (dot : α) (names : List (List α)) : List (List α) :=
  names.foldl (fun kept name =>
    if name = [dot] then kept
    else if name = [dot, dot] then if kept = [] ∨ kept = [[]] then kept else kept.dropLast
    else kept ++ [name]) []

def normalPath [DecidableEq α] (slash dot : α) (path : List α) : List α :=
  Text.joinWith slash (withoutDots dot (Text.pieces (· == slash) path))

def isSchemeChar (c : Char) : Bool := c.isAlphanum || c == '+' || c == '.' || c == '-'

/-- The scheme of an address, which may be empty, and what follows its colon. -/
def cutScheme (xs : List CodePoint) : List Char × List CodePoint :=
  match Text.cutAt (· == .char ':') xs with
  | (name, some rest) =>
    match Text.charsOf? name with
    | some [] => ([], rest)
    | some (c :: cs) => if c.isAlpha && cs.all isSchemeChar then (c :: cs, rest) else ([], xs)
    | none => ([], xs)
  | (_, none) => ([], xs)

def cutAuthority : List CodePoint → List CodePoint × List CodePoint
  | .char '/' :: .char '/' :: xs => (xs.takeWhile (· != '/'), xs.dropWhile (· != '/'))
  | xs => ([], xs)

/-- The part before the last `@`, and the rest. -/
def cutUserInfo (xs : List CodePoint) : List CodePoint × List CodePoint :=
  if xs.contains '@' then
    let rest := (xs.reverse.takeWhile (· != .char '@')).reverse
    (xs.take (xs.length - rest.length - 1), rest)
  else ([], xs)

/-- The host, which goes on to its last bracket if it begins with one, and what follows it. -/
def cutHost (xs : List CodePoint) : List CodePoint × List CodePoint :=
  if xs.head? = some (.char '[') ∧ xs.contains ']' then
    let rest := (xs.reverse.takeWhile (· != .char ']')).reverse
    (xs.take (xs.length - rest.length), rest)
  else (xs.takeWhile (· != ':'), xs.dropWhile (· != ':'))

def impliedPortNumber? (scheme : String) : Option Int :=
  [("ftp", 21), ("http", 80), ("https", 443), ("ws", 80), ("wss", 443)].lookup scheme

/-- A number other than the one that the scheme implies. -/
def explicitPortNumber (scheme : List Char) (portNumber : Option Int) : Option Int :=
  portNumber.filter fun n => impliedPortNumber? (String.ofList scheme) != some n

/-- The number after a host; an empty one is none. -/
def portNumberOf? (xs : List CodePoint) : Option (Option Int) :=
  let xs := match xs with
    | .char ':' :: xs => xs
    | xs => xs
  if xs.isEmpty then some none
  else do return some (← Text.int? (Text.stripBy Text.isMargin (← Text.charsOf? xs)))

def pathFits (hasScheme hasAuthority : Bool) (path : List CodePoint) : Bool :=
  if hasAuthority then path.isEmpty || path.head? == some (.char '/')
  else hasScheme || !(path.head? == some (.char ':') || [.char '/', .char '/'].isPrefixOf path)

def isControl (x : CodePoint) : Bool := x.toNat < 0x20 || x.toNat == 0x7f

def encoded (safe : Char → Bool) (xs : List CodePoint) : Result (List Char) := do
  return Text.percentEncode safe (← Result.orFail .unencodable (Text.charsOf? xs))

def ofText (t : Text) : Result Address :=
  let xs := t.toList
  if greatestLength < xs.length || xs.any isControl then Result.fail .invalidAddress else do
    let (xs, fragment) := Text.cutAt (· == .char '#') xs
    let (xs, query) := Text.cutAt (· == .char '?') xs
    let (scheme, xs) := cutScheme xs
    let (authority, path) := cutAuthority xs
    let (userInfo, authority) := cutUserInfo authority
    let (host, portNumber) := cutHost authority
    let userInfo ← encoded Text.isUserSafe userInfo
    let host ← Result.orFail .invalidAddress (Host.ofText? host)
    let portNumber ← Result.orFail .invalidAddress (portNumberOf? portNumber)
    let portNumber := explicitPortNumber scheme portNumber
    let hasAuthority := !userInfo.isEmpty || !host.isEmpty || portNumber.isSome
    if !pathFits (!scheme.isEmpty) hasAuthority path then Result.fail .invalidAddress else
      let path :=
        if !scheme.isEmpty || hasAuthority then normalPath (.char '/') (.char '.') path else path
      return {
        scheme := scheme.map Char.toLower
        userInfo
        host
        portNumber
        path := ← encoded Text.isPathSafe path
        query := ← query.mapM (encoded Text.isQuerySafe)
        fragment := ← fragment.mapM (encoded Text.isFragmentSafe) }

def isAbsolute (a : Address) : Bool := !a.scheme.isEmpty && !a.host.isEmpty

/-- An address that is not absolute is a path from the root, and a query. -/
def fromRoot (a : Address) : Address :=
  if a.isAbsolute then a else
    { scheme := [], userInfo := [], host := [], portNumber := none,
      path := '/' :: a.path.dropWhile (· == '/'), query := a.query, fragment := none }

/-- The path of an address on a site that it may leave out. -/
def pathOnSite (a : Address) : List Char := normalPath '/' '.' a.fromRoot.path

def authority (a : Address) : List CodePoint :=
  let user := if a.userInfo.isEmpty then [] else a.userInfo ++ ['@']
  let number := match a.portNumber with
    | none => []
    | some n => ':' :: (toString n).toList
  user.map .char ++ Host.shown a.host ++ number.map .char

def queryOf (params : List (Text × Text)) : Result (List Char) := do
  let pairs ← params.mapM fun (name, value) => do
    let name ← Result.orFail .unencodable name.chars?
    let value ← Result.orFail .unencodable value.chars?
    return Text.queryValue name ++ '=' :: Text.queryValue value
  return Text.joinWith '&' pairs

/-- No part of the address is too long to be put together anew. -/
def partsFit (a : Address) : Bool :=
  a.authority.length ≤ greatestLength && a.path.length ≤ greatestLength &&
    (a.query.getD []).length ≤ greatestLength

/-- An address with the given query in place of its own. What the host was encoded with becomes
small letters. -/
def withParams (a : Address) (params : List (Text × Text)) : Result Address := do
  let query ← queryOf params
  let portNumber := explicitPortNumber a.scheme a.portNumber
  let a := { a with portNumber, host := a.host.map (·.mapChar Char.toLower), query := some query }
  if a.partsFit then return a else Result.fail .invalidAddress

def forRequest (a : Address) (params : Option (List (Text × Text))) : Result Address := do
  let a ← if a.isAbsolute || a.partsFit then .ok a.fromRoot else Result.fail .invalidAddress
  match params with
  | none => return a
  | some params => a.withParams params

/-- A host can be sent in ASCII alone, and one that looks encoded has to encode a name. -/
def checkHost (a : Address) : Result Unit := do
  let host ← Result.orFail .unencodable ((Text.charsOf? a.host).filter HostName.isAscii)
  if HostName.isEncoded host then
    (HostName.check host).mapError fun fault => .data (.invalidName fault)

def part (mark : Char) : Option (List Char) → List Char
  | none => []
  | some cs => mark :: cs

def text (a : Address) : Text :=
  let scheme := if a.scheme.isEmpty then [] else a.scheme ++ [':']
  let slashes := if a.authority.isEmpty then [] else ['/', '/']
  .ofChars (scheme ++ slashes) ++ .ofList a.authority ++
    .ofChars (a.path ++ part '?' a.query ++ part '#' a.fragment)

/-- The path that storage knows a record by. -/
def target (a : Address) : Text :=
  if a.path = [] then "/" else .ofChars (Text.percentDecode a.path)

end Address

end Lending
