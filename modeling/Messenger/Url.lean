import Messenger.Text.Blank
import Messenger.Url.Host

set_option autoImplicit false

/-! # Web addresses

An address is read in two steps. It is first *split*, at characters that separate parts: a scheme,
an authority (credentials, a host and a port), a path, a query and a fragment. Then each part is
read on its own, and what a part cannot hold is percent-encoded. An address of a scheme that is not
one of the web is only checked: nothing but its scheme is of use. -/

namespace Messenger

/-- A web address. -/
structure Url where
  scheme : String
  username : List Char
  password : List Char
  host : Url.Host
  /-- The port, unless it is the one that the scheme implies. -/
  port : Option Nat
  /-- The segments of the path; each follows a slash. -/
  path : List (List Char)
  query : Option (List Char)
  fragment : Option (List Char)
deriving DecidableEq, Repr

namespace Url

/-! ## Splitting -/

/-- Whether a character is a blank or a control of ASCII, which may surround an address. -/
def isPadding (c : Char) : Bool := c.toNat ≤ 0x20

/-- Whether a character may stand anywhere in an address without meaning. -/
def isIgnored (c : Char) : Bool := c == '\t' || c == '\n' || c == '\r'

/-- The characters of an address that have meaning. -/
def clean (cs : List Char) : List Char :=
  (Text.trimRight isPadding (Text.trimLeft isPadding cs)).filter fun c => !isIgnored c

/-- Whether a character may stand in a scheme after its first letter. -/
def isSchemeChar (c : Char) : Bool := c.isAlphanum || c == '+' || c == '-' || c == '.'

/-- The scheme, in small letters, and what follows its colon. -/
def splitScheme? (cs : List Char) : Option (String × List Char) :=
  match cs.head?, cs.dropWhile isSchemeChar with
  | some c, ':' :: rest =>
    if c.isAlpha then some (String.ofList ((cs.takeWhile isSchemeChar).map Char.toLower), rest)
    else none
  | _, _ => none

/-- Whether a character separates the segments of a path. -/
def isSlash (c : Char) : Bool := c == '/' || c == '\\'

/-- Whether a character ends an authority. -/
def endsAuthority (c : Char) : Bool := isSlash c || c == '?' || c == '#'

/-- The parts of an address after its scheme. -/
structure Parts where
  authority : List Char
  /-- The path, with the slash before it. -/
  path : List Char
  query : Option (List Char)
  fragment : Option (List Char)
deriving DecidableEq, Repr

/-- A text before and after the first occurrence of a character, if it occurs. -/
def cutAt (c : Char) (cs : List Char) : List Char × Option (List Char) :=
  match cs.dropWhile (· != c) with
  | [] => (cs, none)
  | _ :: after => (cs.takeWhile (· != c), some after)

/-- The parts of what follows the scheme of a web address, any number of slashes aside. -/
def splitParts (cs : List Char) : Parts :=
  let (rest, fragment) := cutAt '#' (cs.dropWhile isSlash)
  let (rest, query) := cutAt '?' rest
  ⟨rest.takeWhile (!isSlash ·), rest.dropWhile (!isSlash ·), query, fragment⟩

/-- The credentials and the rest of an authority: what stands before its last at-sign, if it has
one, and what stands after it. -/
def splitCredentials (cs : List Char) : Option (List Char) × List Char :=
  match cs.reverse.dropWhile (· != '@') with
  | [] => (none, cs)
  | _ :: before => (some before.reverse, (cs.reverse.takeWhile (· != '@')).reverse)

/-- The host and the port: they are separated by the first colon that is not in brackets. -/
def splitPort (inBrackets : Bool) : List Char → List Char × Option (List Char)
  | [] => ([], none)
  | c :: cs =>
    if c = ':' && !inBrackets then ([], some cs)
    else
      let (host, port) := splitPort (c = '[' || (inBrackets && c ≠ ']')) cs
      (c :: host, port)

/-! ## Reading the parts -/

/-- The characters of ASCII that stand for themselves in a fragment. -/
def plainInFragment (c : Char) : Bool :=
  0x20 < c.toNat && c.toNat < 0x7F && ! ['"', '<', '>', '`'].contains c

/-- The characters of ASCII that stand for themselves in a query. -/
def plainInQuery (c : Char) : Bool :=
  0x20 < c.toNat && c.toNat < 0x7F && ! ['"', '#', '<', '>', '\''].contains c

/-- The characters of ASCII that stand for themselves in a path. -/
def plainInPath (c : Char) : Bool :=
  plainInFragment c && ! ['#', '?', '\x7b', '\x7d'].contains c

/-- The characters of ASCII that stand for themselves in credentials. -/
def plainInCredentials (c : Char) : Bool :=
  plainInPath c && ! ['/', ':', ';', '=', '@', '[', '\\', ']', '^', '|'].contains c

/-- The user and the password of credentials. -/
def credentials (cs : List Char) : List Char × List Char :=
  let (username, password) := cutAt ':' cs
  (Text.Percent.encodeChars plainInCredentials username,
    Text.Percent.encodeChars plainInCredentials (password.getD []))

/-- The port that a text writes; none if it is empty. -/
def readPort (cs : List Char) : Except Fault (Option Nat) :=
  if cs.isEmpty then .ok none
  else match Text.nat? cs with
    | some n => if n < UInt16.size then .ok (some n) else .error .invalidPort
    | none => .error .invalidPort

/-- The spellings of a point. -/
def pointForms : List String := [".", "%2e"]

/-- Whether a segment stands for the directory itself. -/
def isSelf (segment : List Char) : Bool :=
  pointForms.contains (String.ofList (segment.map Char.toLower))

/-- Whether a segment stands for the directory above. -/
def isAbove (segment : List Char) : Bool :=
  (pointForms.flatMap fun a => pointForms.map fun b => a ++ b).contains
    (String.ofList (segment.map Char.toLower))

/-- Whether a segment names a drive: a letter and a colon or a bar. -/
def isDrive : List Char → Bool
  | [c, d] => c.isAlpha && (d == ':' || d == '|')
  | _ => false

/-- The segments above some segments, which are given in reverse. There is nothing above the root
and above a drive. -/
def climb : List (List Char) → List (List Char)
  | [] => []
  | s :: ss => if isDrive s then s :: ss else ss

/-- Walk along segments from a place that is given in reverse. The last segment says where the walk
ends: inside a directory, unless it names something. -/
def walk (place : List (List Char)) : List (List Char) → List (List Char)
  | [] => place.reverse
  | [s] =>
    if isAbove s then ([] :: climb place).reverse
    else if isSelf s then ([] :: place).reverse
    else (s :: place).reverse
  | s :: ss =>
    if isAbove s then walk (climb place) ss
    else if isSelf s then walk place ss
    else walk (s :: place) ss

/-- The pieces between slashes. -/
def pieces : List Char → List (List Char)
  | [] => [[]]
  | c :: cs =>
    if isSlash c then [] :: pieces cs
    else match pieces cs with
      | [] => [[c]]
      | p :: ps => (c :: p) :: ps

/-- The segments of a path, which begins with a slash unless it is empty. -/
def segments (cs : List Char) : List (List Char) :=
  walk [] ((pieces (cs.drop 1)).map (Text.Percent.encodeChars plainInPath))

/-- The schemes of the web, with the ports that they imply. -/
def schemes : List (String × Nat) :=
  [("http", 80), ("https", 443), ("ws", 80), ("wss", 443), ("ftp", 21)]

/-- The web address of parts. -/
def ofParts (scheme : String) (defaultPort : Nat) (p : Parts) : Except Fault Url := do
  let (given, rest) := splitCredentials p.authority
  let (username, password) := credentials (given.getD [])
  let (hostText, portText) := splitPort false rest
  if hostText.isEmpty then .error .emptyHost
  let host ← Host.parse hostText
  let port ← readPort (portText.getD [])
  return {
    scheme, username, password, host
    port := port.filter (· ≠ defaultPort)
    path := segments p.path
    query := p.query.map (Text.Percent.encodeChars plainInQuery)
    fragment := p.fragment.map (Text.Percent.encodeChars plainInFragment) }

/-! ## Other schemes -/

/-- Check the address of a file after its scheme: it may name a host, but no port. -/
def checkFile : List Char → Except Fault Unit
  | c :: d :: cs =>
    let host := cs.takeWhile (!endsAuthority ·)
    if !isSlash c || !isSlash d || host.isEmpty || isDrive host then .ok ()
    else (Host.parse host).map fun _ => ()
  | _ => .ok ()

/-- Check the authority of an address of an unknown scheme. A host may be missing, but not if
there are credentials or a port, nor between an at-sign and what follows the authority. -/
def checkAuthority (authority : List Char) (isLast : Bool) : Except Fault Unit := do
  let (given, rest) := splitCredentials authority
  if given = some [] && rest.isEmpty && !isLast then .error .emptyHost
  let (username, password) := credentials (given.getD [])
  let (host, portText) := splitPort false rest
  Host.check host
  if host.isEmpty && (portText.isSome || !(username ++ password).isEmpty) then .error .emptyHost
  let _ ← readPort ((portText.getD []).takeWhile (· != '\\'))

/-- Check the address of an unknown scheme after its scheme. -/
def checkOther : List Char → Except Fault Unit
  | '/' :: '/' :: cs =>
    let isEnd := fun c => c == '/' || c == '?' || c == '#'
    checkAuthority (cs.takeWhile (!isEnd ·)) (cs.dropWhile (!isEnd ·)).isEmpty
  | _ => .ok ()

/-- An absolute address. -/
inductive Absolute where
  | web (url : Url)
  /-- A well-formed address of a scheme that is not one of the web. -/
  | other (scheme : String)
deriving DecidableEq, Repr

/-- The absolute address that a text is. -/
def parse (s : String) : Except Fault Absolute :=
  match splitScheme? (clean s.toList) with
  | none => .error .relative
  | some (scheme, rest) =>
    match schemes.lookup scheme with
    | some defaultPort => (ofParts scheme defaultPort (splitParts rest)).map .web
    | none =>
      (if scheme = "file" then checkFile rest else checkOther rest).map fun _ => .other scheme

/-! ## Writing -/

/-- The credentials of an address, with the at-sign. -/
def credentialChars (u : Url) : List Char :=
  if u.username.isEmpty && u.password.isEmpty then []
  else u.username ++ (if u.password.isEmpty then [] else ':' :: u.password) ++ ['@']

/-- The path of an address. -/
def pathChars (u : Url) : List Char := u.path.flatMap ('/' :: ·)

/-- A part that follows a mark, if there is one. -/
def marked (mark : Char) : Option (List Char) → List Char
  | none => []
  | some cs => mark :: cs

/-- Where a request to an address goes on its host. -/
def target (u : Url) : String := String.ofList (u.pathChars ++ marked '?' u.query)

/-- The authority of an address. -/
def authorityChars (u : Url) : List Char :=
  u.credentialChars ++ u.host.chars ++ marked ':' (u.port.map Text.decimalDigits)

/-- An address as text. -/
def text (u : Url) : String :=
  u.scheme ++ "://" ++ String.ofList
    (u.authorityChars ++ u.pathChars ++ marked '?' u.query ++ marked '#' u.fragment)

end Url
end Messenger
