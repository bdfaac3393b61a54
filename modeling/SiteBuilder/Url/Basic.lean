import SiteBuilder.Url.Host

/-!
# Addresses

A `Url` holds the parts of an absolute address in their normal forms. `Url.parse` reads one,
`Url.text` writes it, and `Url.extend` and `Url.addParameter` add to its path and its query.
-/

namespace SiteBuilder

/-- The part of an address between the slashes and the path. -/
structure Url.Authority where
  /-- The name of the user, encoded. -/
  user : String
  /-- The password, encoded. -/
  password : String
  /-- The host. -/
  host : String
  /-- The port, if it is not that of the scheme. -/
  port : Option Nat
  deriving DecidableEq

/-- The path of an address. -/
inductive Url.Path where
  /-- Segments with a slash in front of each. -/
  | segments (list : List String)
  /-- A text that nothing can be added to. -/
  | opaque_ (text : String)
  deriving DecidableEq

/-- An absolute address. -/
structure Url where
  /-- The scheme, in small letters. -/
  scheme : String
  /-- The authority, if there is one. -/
  authority : Option Url.Authority
  /-- The path. -/
  path : Url.Path
  /-- The query, encoded, without its question mark. -/
  query : Option String
  /-- The fragment, encoded, without its number sign. -/
  fragment : Option String
  deriving DecidableEq

namespace Url

open SiteBuilder.Text

/-- The schemes of addresses whose structure is known. -/
def isSpecialScheme (scheme : String) : Bool :=
  ["http", "https", "ws", "wss", "ftp", "file"].contains scheme

/-- The port that a scheme uses if none is given. -/
def defaultPort? : String → Option Nat
  | "http" | "ws" => some 80
  | "https" | "wss" => some 443
  | "ftp" => some 21
  | _ => none

/-- The scheme in front of the first colon, in small letters, and what is behind it. -/
def splitScheme? (cs : List Char) : Option (String × List Char) :=
  let scheme := cs.takeWhile (· != ':')
  match scheme, cs.drop scheme.length with
  | c :: rest, ':' :: behind =>
    if c.isAlpha && rest.all fun c => c.isAlphanum || c == '+' || c == '-' || c == '.' then
      some (String.ofList (scheme.map Char.toLower), behind)
    else none
  | _, _ => none

/-- Whether a character ends the authority. -/
def endsAuthority (special : Bool) (c : Char) : Bool := c == '/' || c == '?' || c == '#' || (special && c == '\\')

/-- The parts before and after the last `@` of an authority. -/
def splitUser (authority : List Char) : Option (List Char × List Char) :=
  let host := (authority.reverse.takeWhile (· != '@')).reverse
  if host.length = authority.length then none
  else some (authority.take (authority.length - host.length - 1), host)

/-- The host and what follows its colon, if it has one. A colon inside brackets does not count. -/
def splitPort : List Char → (bracketed : Bool) → List Char × Option (List Char)
  | [], _ => ([], none)
  | c :: rest, bracketed =>
    if c = ':' ∧ ¬ bracketed then ([], some rest)
    else
      let (host, port) := splitPort rest (if c = '[' then true else if c = ']' then false else bracketed)
      (c :: host, port)

/-- The port a text denotes. Below the scheme's own it is kept. -/
def readPort (scheme : String) (digits : List Char) : Except ParseError (Option Nat) :=
  if digits.all Char.isDigit then
    let n := digits.foldl (fun n c => 10 * n + (c.toNat - 48)) 0
    if 65535 < n then .error .port
    else .ok (if digits.isEmpty ∨ defaultPort? scheme = some n then none else some n)
  else .error .port

/-- Read an authority. -/
def readAuthority (scheme : String) (special : Bool) (cs : List Char) (endsHere : Bool) :
    Except ParseError Authority := do
  let (user, hostPort) :=
    match splitUser cs with
    | some (user, host) => (user, host)
    | none => ([], cs)
  if (splitUser cs).any (fun (user, host) => user.isEmpty && host.isEmpty) && !endsHere then throw .emptyHost
  let name := user.takeWhile (· != ':')
  let password := (user.drop name.length).drop 1
  let (hostText, portText) := splitPort hostPort false
  if special && hostText.isEmpty then throw .emptyHost
  let host ← if special then specialHost hostText else opaqueHost hostText
  if host.isEmpty && portText.isSome then throw .emptyHost
  let port ← readPort scheme (portText.getD [])
  return ⟨String.ofList (percentEncode userSet name), String.ofList (percentEncode userSet password), host, port⟩

/-- A segment that stands for the folder itself. -/
def isSingleDot (segment : String) : Bool := segment == "." || asciiLower segment == "%2e"

/-- A segment that stands for the folder above. -/
def isDoubleDot (segment : String) : Bool :=
  segment == ".." || [".%2e", "%2e.", "%2e%2e"].contains (asciiLower segment)

/-- Add segments to a path. Dots are resolved; at the end of the path they leave an empty segment. -/
def addSegments : List String → List String → List String
  | path, [] => path
  | path, [last] =>
    if isDoubleDot last then path.dropLast ++ [""] else if isSingleDot last then path ++ [""] else path ++ [last]
  | path, segment :: rest =>
    if isDoubleDot segment then addSegments path.dropLast rest
    else if isSingleDot segment then addSegments path rest
    else addSegments (path ++ [segment]) rest

/-- The path of a text that starts behind the authority. -/
def readPath (special : Bool) (cs : List Char) : List String :=
  let isSlash (c : Char) : Bool := c == '/' || (special && c == '\\')
  let body :=
    match cs with
    | c :: rest => if isSlash c then rest else cs
    | [] => []
  if cs.isEmpty ∧ ¬ special then []
  else addSegments [] ((splitBy isSlash body).map fun s => String.ofList (percentEncode pathSet s))

/-- The query and the fragment of a text behind its path. -/
def readTail (special : Bool) (cs : List Char) : Option String × Option String :=
  let set := if special then '\'' :: querySet else querySet
  let readFragment (cs : List Char) : Option String :=
    match cs with
    | '#' :: rest => some (String.ofList (percentEncode fragmentSet rest))
    | _ => none
  match cs with
  | '?' :: rest =>
    let query := rest.takeWhile (· != '#')
    (some (String.ofList (percentEncode set query)), readFragment (rest.drop query.length))
  | cs => (none, readFragment cs)

/-- The text without the spaces and controls at its ends and without tabs and line ends. -/
def cleaned (s : String) : List Char :=
  (trimBy (·.toNat ≤ 0x20) s.toList).filter fun c => c != '\t' && c != '\n' && c != '\r'

/-- The address a text denotes. -/
def parse (s : String) : Except ParseError Url := do
  match splitScheme? (cleaned s) with
  | none => throw .relative
  | some (scheme, rest) =>
    let special := isSpecialScheme scheme
    let isSlash (c : Char) : Bool := c == '/' || (special && c == '\\')
    let slashes := (rest.takeWhile isSlash).length
    let behindTail (cs : List Char) : List Char × (Option String × Option String) :=
      let path := cs.takeWhile fun c => c != '?' && c != '#'
      (path, readTail special (cs.drop path.length))
    if scheme = "file" then
      let rest := if 2 ≤ slashes then rest.drop 2 else rest
      let hostText := if 2 ≤ slashes then rest.takeWhile (!endsAuthority true ·) else []
      let host ← if hostText.isEmpty then .ok "" else specialHost hostText
      let host := if host = "localhost" then "" else host
      let (path, query, fragment) := behindTail (rest.drop hostText.length)
      return ⟨scheme, some ⟨"", "", host, none⟩, .segments (readPath true path), query, fragment⟩
    else if special || rest.take 2 == ['/', '/'] then
      let rest := if special then rest.drop slashes else rest.drop 2
      let authority := rest.takeWhile (!endsAuthority special ·)
      let behind := rest.drop authority.length
      let authority ← readAuthority scheme special authority behind.isEmpty
      let (path, query, fragment) := behindTail behind
      return ⟨scheme, some authority, .segments (readPath special path), query, fragment⟩
    else
      let (path, query, fragment) := behindTail rest
      if rest.head? = some '/' then
        return ⟨scheme, none, .segments (readPath false path), query, fragment⟩
      else return ⟨scheme, none, .opaque_ (String.ofList (percentEncode [] path)), query, fragment⟩

/-- The text of a path. -/
def Path.text : Path → String
  | .segments list => String.join (list.map ("/" ++ ·))
  | .opaque_ text => text

/-- The text of an authority with the slashes in front. -/
def Authority.text (a : Authority) : String :=
  let user :=
    if a.user.isEmpty && a.password.isEmpty then ""
    else if a.password.isEmpty then a.user ++ "@"
    else a.user ++ ":" ++ a.password ++ "@"
  let port :=
    match a.port with
    | some n => ":" ++ String.ofList (Decimal.digitsOf n)
    | none => ""
  "//" ++ user ++ a.host ++ port

/-- The path and the query, which is what a server is asked for. -/
def target (u : Url) : String :=
  u.path.text ++ (u.query.elim "" ("?" ++ ·))

/-- The text of an address. -/
def text (u : Url) : String :=
  u.scheme ++ ":" ++ (u.authority.elim "" Authority.text) ++ u.target ++ (u.fragment.elim "" ("#" ++ ·))

/-- Whether a web page can be found at an address. -/
def isWeb (u : Url) : Bool := (u.scheme == "http" || u.scheme == "https") && u.authority.isSome

/-- Add segments to a path, none of which can leave its place: single and double dots are passed
over, and what would structure an address is encoded. -/
def pushSegments (special : Bool) : List String → List String → List String
  | path, [] => path
  | path, segment :: rest =>
    if segment = "." ∨ segment = ".." then pushSegments special path rest
    else
      let cs := segment.toList.filter fun c => c != '\t' && c != '\n' && c != '\r'
      let set := if special then '\\' :: segmentSet else segmentSet
      let base := if path = [""] then [] else path
      let path :=
        match String.ofList (percentEncode set cs) with
        | ".." => if base.isEmpty then [""] else base.dropLast ++ [""]
        | "." => base ++ [""]
        | s => base ++ [s]
      pushSegments special path rest

/-- An address with segments added to its path, unless the path is no list of segments. -/
def extend? (u : Url) (segments : List String) : Option Url :=
  match u.path with
  | .opaque_ _ => none
  | .segments list =>
    let list := if list.getLast? = some "" then list.dropLast else list
    some { u with path := .segments (pushSegments (isSpecialScheme u.scheme) list segments) }

/-- An address with one more pair in its query. -/
def addParameter (u : Url) (name value : String) : Url :=
  let pair := String.ofList (formEncode name ++ '=' :: formEncode value)
  match u.query with
  | some "" => { u with query := some pair }
  | some query => { u with query := some (query ++ "&" ++ pair) }
  | none => { u with query := some pair }

end Url

end SiteBuilder
