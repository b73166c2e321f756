import RelayConsole.Url.Basic

namespace RelayConsole

/-- Controls and spaces around an address do not belong to it. -/
def Url.isMargin (c : Char) : Bool :=
  c.toNat ≤ 0x20

/-- Tabs and line ends are ignored everywhere in an address. -/
def Url.isIgnored (c : Char) : Bool :=
  c = '\t' || c = '\n' || c = '\r'

def Url.clean (text : List Char) : List Char :=
  (Text.trim isMargin text).filter (!isIgnored ·)

/-- In an address that names a host by its scheme a backslash is as good as a slash. -/
def Url.isSlash (web : Bool) (c : Char) : Bool :=
  c = '/' || (web && c = '\\')

def Url.isSchemeChar (c : Char) : Bool :=
  c.isAlphanum || c = '+' || c = '-' || c = '.'

/-- The scheme in lower case and what follows its colon. -/
def Url.cutScheme? (text : List Char) : Option (List Char × List Char) :=
  let scheme := text.takeWhile isSchemeChar
  match scheme, text.dropWhile isSchemeChar with
  | first :: _, ':' :: rest => if first.isAlpha then some (Text.lower scheme, rest) else none
  | _, _ => none

/-- Where the authority ends. -/
def Url.endsAuthority (web : Bool) (c : Char) : Bool :=
  isSlash web c || c = '?' || c = '#'

/-- User name and password: a colon stands between them. -/
def Url.readUserinfo (text : List Char) : List Char × List Char :=
  match Text.cutAtFirst? ':' text with
  | some (username, password) =>
    (Percent.encode Percent.userinfo username, Percent.encode Percent.userinfo password)
  | none => (Percent.encode Percent.userinfo text, [])

/-- The host and what follows it: a colon ends the host unless it stands in brackets. -/
def Url.cutHost : Bool → List Char → List Char × List Char
  | _, [] => ([], [])
  | bracket, c :: rest =>
    if c = ':' && !bracket then ([], c :: rest)
    else
      let (host, after) := cutHost (if c = '[' then true else if c = ']' then false else bracket) rest
      (c :: host, after)

/-- The port after a colon; none where it is missing or the scheme's own. -/
def Url.readPort (scheme : List Char) : List Char → Except Url.Error (Option Nat)
  | [] => .ok none
  | _ :: digits =>
    if digits.isEmpty then .ok none
    else
      match Digits.read? 10 digits with
      | some port =>
        if 65535 < port then .error .invalidPort
        else .ok (if defaultPort? scheme = some port then none else some port)
      | none => .error .invalidPort

/-- Who, where and which port. -/
structure Url.Authority where
  username : List Char
  password : List Char
  host : Url.Host
  port : Option Nat
  deriving DecidableEq, Repr

/-- The authority of an address whose scheme implies a host. -/
def Url.Authority.read (scheme text : List Char) : Except Url.Error Url.Authority := do
  let (userinfo, place) := (Text.cutAtLast? '@' text).getD ([], text)
  let (username, password) := readUserinfo userinfo
  let (hostText, portText) := cutHost false place
  if hostText.isEmpty then .error .emptyHost
  let host ← Url.Host.read hostText
  return { username, password, host, port := ← readPort scheme portText }

/-- The authority of any other address may be empty. `followed` tells whether a path, query or fragment
comes after it; a path may start with a backslash right after the port. -/
def Url.Authority.readOpaque (scheme : List Char) (followed : Bool) (text : List Char) :
    Except Url.Error (Url.Authority × List Char) := do
  let (userinfo, place) := (Text.cutAtLast? '@' text).getD ([], text)
  let (username, password) := readUserinfo userinfo
  let (hostText, portText) := cutHost false place
  if text.head? = some '@' && place.isEmpty && followed then .error .emptyHost
  if hostText.isEmpty && !portText.isEmpty then .error .emptyHost
  let host ← Url.Host.readOpaque hostText
  let port ← readPort scheme (portText.takeWhile (· ≠ '\\'))
  if hostText.isEmpty && !(username.isEmpty && password.isEmpty) then .error .emptyHost
  return ({ username, password, host, port }, portText.dropWhile (· ≠ '\\'))

/-- The host after two slashes of a `file` address, which need not be there. A drive letter is no host. -/
def Url.Host.readFile (text : List Char) : Except Url.Error (Option Url.Host) :=
  match text with
  | [] => .ok none
  | [drive, mark] => if drive.isAlpha && (mark = ':' || mark = '|') then .ok none else some <$> read text
  | _ => some <$> read text

/-- Segments that stand for the segment before them. -/
def Url.Path.isParent (segment : List Char) : Bool :=
  String.ofList (Text.lower segment) ∈ ["..", "%2e.", ".%2e", "%2e%2e"]

/-- Segments that stand for nothing. -/
def Url.Path.isHere (segment : List Char) : Bool :=
  String.ofList (Text.lower segment) ∈ [".", "%2e"]

/-- A letter with a colon or bar, which no later segment takes back. -/
def Url.Path.isDrive : List Char → Bool
  | [letter, mark] => letter.isAlpha && (mark = ':' || mark = '|')
  | _ => false

/-- The segments so far, last one first, without the last one unless it is a drive. -/
def Url.Path.parent : List (List Char) → List (List Char)
  | [] => []
  | last :: rest => if isDrive last then last :: rest else rest

/-- Resolves the segments that stand for another place; one at the end leaves an empty segment. -/
def Url.Path.resolve : List (List Char) → List (List Char) → List (List Char)
  | done, [] => done.reverse
  | done, segment :: rest =>
    let encoded := Percent.encode Percent.path segment
    let base := if isParent encoded then parent done else done
    if isParent encoded || isHere encoded then
      if rest.isEmpty then (([] : List Char) :: base).reverse else resolve base rest
    else resolve (encoded :: done) rest

/-- A path after an authority; the first slash goes without saying. -/
def Url.Path.read (web : Bool) (text : List Char) : Url.Path :=
  match text with
  | [] => .segments (if web then [[]] else [])
  | c :: rest =>
    .segments (resolve [] ((if isSlash web c then rest else c :: rest).splitOnP (isSlash web)))

/-- Path, query and fragment, each up to the mark of the next. -/
def Url.cutTail (text : List Char) : List Char × Option (List Char) × Option (List Char) :=
  let (front, fragment) :=
    match Text.cutAtFirst? '#' text with
    | some (front, fragment) => (front, some fragment)
    | none => (text, none)
  match Text.cutAtFirst? '?' front with
  | some (path, query) => (path, some query, fragment)
  | none => (front, none, fragment)

/-- What a query becomes in an address. -/
def Url.readQuery (web : Bool) (query : List Char) : List Char :=
  Percent.encode (if web then Percent.specialQuery else Percent.query) query

/-- The address that an authority and all that follows it make. -/
def Url.assemble (scheme : List Char) (web : Bool) (authority : Url.Authority) (tail : List Char) : Url :=
  let (path, query, fragment) := cutTail tail
  { scheme, username := authority.username, password := authority.password, host := authority.host
    port := authority.port, path := Path.read web path, query := query.map (readQuery web)
    fragment := fragment.map (Percent.encode Percent.fragment) }

/-- The rest of an address whose scheme implies a host: any number of slashes, then the authority. -/
def Url.readWeb (scheme rest : List Char) : Except Url.Error Url := do
  let text := rest.dropWhile (isSlash true)
  let authority ← Authority.read scheme (text.takeWhile (!endsAuthority true ·))
  return assemble scheme true authority (text.dropWhile (!endsAuthority true ·))

/-- An address without user and port, possibly without host. -/
def Url.withoutUser (scheme : List Char) (host : Option Url.Host) (path : List Char → Url.Path)
    (tail : List Char) : Url :=
  let (pathText, query, fragment) := cutTail tail
  { scheme, username := [], password := [], host, port := none, path := path pathText
    query := query.map (readQuery false), fragment := fragment.map (Percent.encode Percent.fragment) }

def Url.readFile (rest : List Char) : Except Url.Error Url := do
  let scheme := "file".toList
  match rest with
  | a :: b :: text =>
    if isSlash true a && isSlash true b then
      let host ← Host.readFile (text.takeWhile (!endsAuthority true ·))
      return withoutUser scheme (host.getD (.name [])) (Path.read true) (text.dropWhile (!endsAuthority true ·))
    else return withoutUser scheme (some (.name [])) (Path.read true) rest
  | _ => return withoutUser scheme (some (.name [])) (Path.read true) rest

/-- The rest of an address of any other scheme: with an authority after two slashes, else with a path. -/
def Url.readOther (scheme : List Char) : List Char → Except Url.Error Url
  | '/' :: '/' :: text => do
    let tail := text.dropWhile (!endsAuthority false ·)
    let (authority, path) ← Authority.readOpaque scheme (!tail.isEmpty) (text.takeWhile (!endsAuthority false ·))
    return assemble scheme false authority (path ++ tail)
  | '/' :: text => .ok (withoutUser scheme none (Path.read false) ('/' :: text))
  | text => .ok (withoutUser scheme none (fun path => .opaqueText (Percent.encode Percent.control path)) text)

/-- Reads an absolute address. -/
def Url.read (text : List Char) : Except Url.Error Url :=
  match cutScheme? (clean text) with
  | none => .error .relativeWithoutBase
  | some (scheme, rest) =>
    if isWeb scheme then readWeb scheme rest
    else if scheme = "file".toList then readFile rest
    else readOther scheme rest

end RelayConsole
