import EdgeConsole.Web.Url.Host

/-!
# URLs

Absolute URLs as the URL standard reads them. Blanks and controls at the ends are dropped, and tabs
and line breaks everywhere. In a URL of a web scheme any number of slashes of either slant may
introduce the host, a backslash separates segments like a slash, and the default port is no port.
Segments `.` and `..`, also written with `%2e`, are resolved away, but `..` keeps a drive letter.

`Url.ofText` reads a URL, and `Url.target` is the path and query that a request for it asks for.
-/

namespace EdgeConsole.Web

/-- Where a URL points within its host. -/
inductive UrlPath
  /-- Segments, each after a slash. -/
  | segments (parts : List (List Char))
  /-- Text that does not start with a slash, under a scheme without hosts. -/
  | rootless (text : List Char)
deriving DecidableEq, Repr

/-- An absolute URL. -/
structure Url where
  scheme : List Char
  host : Option Url.Host
  port : Option Nat
  path : UrlPath
  query : Option (List Char)
deriving DecidableEq, Repr

namespace Url

/-! ## Cleaning -/

/-- A control or a blank, which is dropped at the ends. -/
def isEdge (c : Char) : Bool := c.toNat ≤ 0x20

/-- A tab or a line break, which is dropped everywhere. -/
def isBreak (c : Char) : Bool := c == '\t' || c == '\n' || c == '\r'

/-- The text without what a URL ignores. -/
def clean (cs : List Char) : List Char :=
  let front := cs.dropWhile isEdge
  ((front.reverse.dropWhile isEdge).reverse).filter (!isBreak ·)

/-! ## Scheme -/

/-- The kinds of schemes that are read in their own ways. -/
inductive SchemeKind
  | web
  | file
  | other
deriving DecidableEq, Repr

/-- Schemes whose URLs have a host and a path of segments. -/
def webSchemes : List (String × Nat) :=
  [("http", 80), ("https", 443), ("ws", 80), ("wss", 443), ("ftp", 21)]

/-- The port that a scheme implies. -/
def defaultPort? (scheme : List Char) : Option Nat :=
  (webSchemes.find? (·.1.toList == scheme)).map (·.2)

/-- How URLs of a scheme are read. -/
def schemeKind (scheme : List Char) : SchemeKind :=
  if (defaultPort? scheme).isSome then .web
  else if scheme = "file".toList then .file
  else .other

/-- A character of a scheme after its first. -/
def isSchemeChar (c : Char) : Bool :=
  c.isAlphanum || c == '+' || c == '-' || c == '.'

/-- Splits off the scheme in lower case, up to its colon. -/
def splitScheme? (cs : List Char) : Option (List Char × List Char) :=
  match cs with
  | [] => none
  | c :: _ =>
    if !c.isAlpha then none
    else
      match cs.dropWhile isSchemeChar with
      | ':' :: rest => some ((cs.takeWhile isSchemeChar).map Char.toLower, rest)
      | _ => none

/-! ## Host and port -/

/-- A slash, or in URLs of the web and of files a backslash. -/
def isSlash (kind : SchemeKind) (c : Char) : Bool :=
  c == '/' || (kind != .other && c == '\\')

/-- The character ends the part of a URL that names its host. -/
def endsAuthority (kind : SchemeKind) (c : Char) : Bool :=
  isSlash kind c || c == '?' || c == '#'

/-- Drops a user's name and password, which end at the last at-sign before the path, and says
whether there are any. -/
def dropUser (kind : SchemeKind) (cs : List Char) : Except Fault (Bool × List Char) :=
  let authority := cs.takeWhile (!endsAuthority kind ·)
  let rest := cs.dropWhile (!endsAuthority kind ·)
  let host := (authority.reverse.takeWhile (· != '@')).reverse
  let user := authority.take (authority.length - host.length)
  if user.isEmpty then .ok (false, cs)
  else if user = ['@'] then
    if host.isEmpty ∧ !rest.isEmpty then .error .emptyHost else .ok (false, host ++ rest)
  else .ok (user != [':', '@'], host ++ rest)

/-- Splits off the host: brackets shield the colons of an address. -/
def splitHost (kind : SchemeKind) (inBrackets : Bool) : List Char → List Char × List Char
  | [] => ([], [])
  | c :: cs =>
    if (c == ':' && !inBrackets) || endsAuthority kind c then ([], c :: cs)
    else
      let inside := if c == '[' then true else if c == ']' then false else inBrackets
      let (host, rest) := splitHost kind inside cs
      (c :: host, rest)

/-- Reads a port up to the end of the authority. -/
def readPort (scheme : List Char) (cs : List Char) : Except Fault (Option Nat × List Char) :=
  let digits := cs.takeWhile Char.isDigit
  let rest := cs.dropWhile Char.isDigit
  let port := digits.foldl (fun n c => n * 10 + (c.toNat - 48)) 0
  let ends := match rest with
    | [] => true
    | c :: _ => c == '/' || c == '\\' || c == '?' || c == '#'
  if 65535 < port ∨ !ends then .error .invalidPort
  else if digits.isEmpty ∨ some port = defaultPort? scheme then .ok (none, rest)
  else .ok (some port, rest)

/-- Reads the host and the port. -/
def readAuthority (scheme : List Char) (kind : SchemeKind) (cs : List Char) :
    Except Fault (Option Host × Option Nat × List Char) := do
  let (hasUser, cs) ← dropUser kind cs
  let (text, rest) := splitHost kind false cs
  if text.isEmpty ∧ kind = .web then .error .emptyHost
  let host ← if kind = .other then Host.ofRaw text else Host.ofName text
  match rest with
  | ':' :: digits =>
    if text.isEmpty then .error .emptyHost
    let (port, rest) ← readPort scheme digits
    return (some host, port, rest)
  | rest =>
    if text.isEmpty ∧ hasUser then .error .emptyHost
    return (if text.isEmpty then none else some host, none, rest)

/-! ## Path and query -/

/-- The segment means the one it stands in. -/
def isDot (s : List Char) : Bool :=
  s == ['.'] || s.map Char.toLower == ['%', '2', 'e']

/-- The segment means the one above. -/
def isDotDot (s : List Char) : Bool :=
  let s := s.map Char.toLower
  s == ['.', '.'] || s == ['.', '%', '2', 'e'] || s == ['%', '2', 'e', '.'] ||
    s == ['%', '2', 'e', '%', '2', 'e']

/-- A drive letter of a file path, which no host name is and no `..` leaves. -/
def isDriveLetter (cs : List Char) : Bool :=
  match cs with
  | [a, b] => a.isAlpha && (b == ':' || b == '|')
  | _ => false

/-- Characters that stand for themselves in a path. -/
def isPathChar (c : Char) : Bool :=
  0x20 < c.toNat && c.toNat < 0x7F && !"\"#<>?\x60\x7b\x7d".toList.contains c

/-- Characters that stand for themselves in a query. -/
def isQueryChar (kind : SchemeKind) (c : Char) : Bool :=
  0x20 < c.toNat && c.toNat < 0x7F && !"\"#<>".toList.contains c && !(kind != .other && c == '\'')

/-- The segments, held nearest first, without the nearest one unless it is a drive letter. -/
def leave : List (List Char) → List (List Char)
  | [] => []
  | s :: above => if isDriveLetter s then s :: above else above

/-- Resolves segments against those above, which are held nearest first. A path that ends in a
dotted segment ends in a slash. -/
def resolve (above : List (List Char)) : List (List Char) → List (List Char)
  | [] => above.reverse
  | s :: rest =>
    let last := rest.isEmpty
    if isDotDot s then
      let above := leave above
      resolve (if last then [] :: above else above) rest
    else if isDot s then resolve (if last then [] :: above else above) rest
    else resolve (percentEncode isPathChar s :: above) rest

/-- The character ends a path. -/
def endsPath (c : Char) : Bool := c == '?' || c == '#'

/-- The segments of a path. The slash in front of the first is no separator. -/
def readSegments (kind : SchemeKind) (cs : List Char) : List (List Char) :=
  match cs with
  | [] => if kind = .other then [] else [[]]
  | c :: rest =>
    resolve [] (Text.splitWhere (isSlash kind) (if isSlash kind c then rest else c :: rest))

/-- The query of what follows a path; a fragment is no part of it. -/
def readQuery (kind : SchemeKind) (cs : List Char) : Option (List Char) :=
  match cs with
  | '?' :: rest => some (percentEncode (isQueryChar kind) (rest.takeWhile (· != '#')))
  | _ => none

/-- Reads the path and the query. -/
def withPath (scheme : List Char) (kind : SchemeKind) (host : Option Host) (port : Option Nat)
    (cs : List Char) : Url :=
  let path := cs.takeWhile (!endsPath ·)
  let rest := cs.dropWhile (!endsPath ·)
  ⟨scheme, host, port, .segments (readSegments kind path), readQuery kind rest⟩

/-- Reads the URL of a file. -/
def readFile (scheme : List Char) (cs : List Char) : Except Fault Url :=
  match cs with
  | a :: b :: rest =>
    if isSlash .file a && isSlash .file b then
      let text := rest.takeWhile (!endsAuthority .file ·)
      if isDriveLetter text then .ok (withPath scheme .file none none rest)
      else if text.isEmpty then
        .ok (withPath scheme .file none none rest)
      else do
        let host ← Host.ofName text
        let host := if host = .name "localhost".toList then none else some host
        return withPath scheme .file host none (rest.drop text.length)
    else .ok (withPath scheme .file none none cs)
  | cs => .ok (withPath scheme .file none none cs)

/-- Reads an absolute URL. -/
def ofText (s : String) : Except Fault Url :=
  match splitScheme? (clean s.toList) with
  | none => .error .noScheme
  | some (scheme, rest) =>
    match schemeKind scheme with
    | .web => do
      let (host, port, rest) ← readAuthority scheme .web (rest.dropWhile (isSlash .web))
      return withPath scheme .web host port rest
    | .file => readFile scheme rest
    | .other =>
      match rest with
      | '/' :: '/' :: rest => do
        let (host, port, rest) ← readAuthority scheme .other rest
        return withPath scheme .other host port rest
      | '/' :: _ => .ok (withPath scheme .other none none rest)
      | rest =>
        let text := rest.takeWhile (!endsPath ·)
        .ok ⟨scheme, none, none,
          .rootless (percentEncode (fun c => 0x1F < c.toNat && c.toNat < 0x7F) text),
          readQuery .other (rest.dropWhile (!endsPath ·))⟩

/-! ## Use -/

/-- Paths can be appended to the URL. -/
def isBase (u : Url) : Bool :=
  match u.path with
  | .segments _ => true
  | .rootless _ => false

/-- The path as it is written. -/
def pathChars (u : Url) : List Char :=
  match u.path with
  | .segments parts => parts.flatMap ('/' :: ·)
  | .rootless text => text

/-- The path and query that a request asks for. -/
def target (u : Url) : String :=
  let path := u.pathChars
  String.ofList ((if path.isEmpty then ['/'] else path) ++
    match u.query with
    | some q => '?' :: q
    | none => [])

end Url

end EdgeConsole.Web
