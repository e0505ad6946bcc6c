import ServiceOperator.ControlPlane.Host
import ServiceOperator.Error

/-!
# Base URLs and request paths

A base URL is read by the rules of the URL standard. One that has a path made of segments can be
extended: a request goes to the base path, less one empty segment at its end, followed by one
segment for each part of the address, percent-encoded so that no part can run into the next.
-/

namespace ServiceOperator

open Text

/-- A URL, as far as requests need it. -/
structure Url where
  /-- The scheme, in lower case. -/
  scheme : String
  /-- The encoded segments of the path, none if the URL has a path that is not made of segments. -/
  segments : Option (List String)
  /-- The encoded path when it is not made of segments. -/
  plainPath : String
  /-- The encoded query. -/
  query : Option String
  /-- The encoded fragment. -/
  fragment : Option String
  deriving DecidableEq, Repr

namespace Url

/-- The rules that a scheme brings with it. -/
inductive SchemeKind where
  /-- A scheme of the web: its URLs have a host that is not empty. -/
  | web
  /-- Local files: the host may be empty. -/
  | file
  /-- Any other scheme. -/
  | other
  deriving DecidableEq

/-- The rules of a scheme. -/
def schemeKind (scheme : List Char) : SchemeKind :=
  let s := String.ofList scheme
  if s = "file" then .file
  else if s = "http" ∨ s = "https" ∨ s = "ws" ∨ s = "wss" ∨ s = "ftp" then .web
  else .other

/-- A character that may stand in a scheme after its first letter. -/
def isSchemeChar (c : Char) : Bool :=
  c.isAlphanum || c = '+' || c = '-' || c = '.'

/-- The scheme of a text in lower case, and what follows its colon. -/
def scheme? (cs : List Char) : Option (List Char × List Char) :=
  match cs with
  | c :: _ =>
    if c.isAlpha then
      match cs.dropWhile isSchemeChar with
      | ':' :: rest => some ((cs.takeWhile isSchemeChar).map Char.toLower, rest)
      | _ => none
    else none
  | [] => none

/-- What ends an authority. -/
def endsAuthority (kind : SchemeKind) (c : Char) : Bool :=
  c = '/' || c = '?' || c = '#' || (kind ≠ .other && c = '\\')

/-- The user info of an authority, if it has one, and the rest: they are separated by the last
`@`. -/
def splitUserInfo (authority : List Char) : Option (List Char) × List Char :=
  let rest := (authority.reverse.takeWhile fun c => c ≠ '@').reverse
  if rest.length < authority.length then
    (some (authority.take (authority.length - rest.length - 1)), rest)
  else (none, rest)

/-- A user info that names a user or gives a password. -/
def isNamed : Option (List Char) → Bool
  | none => false
  | some info => info ≠ [] && info ≠ [':']

/-- The host at the head of a text: it ends at a colon outside brackets. -/
def takeHost : Bool → List Char → List Char
  | _, [] => []
  | inside, c :: rest =>
    if c = ':' && !inside then []
    else c :: takeHost (if c = '[' then true else if c = ']' then false else inside) rest

/-- Checks a port with its colon, or nothing. -/
def checkPort : List Char → Except UrlError Unit
  | ':' :: digits =>
    let number := digits.takeWhile isDigit
    if digitsValue number > 65535 then .error .invalidPort
    else match digits.dropWhile isDigit with
      | [] => .ok ()
      | c :: _ => if c = '\\' then .ok () else .error .invalidPort
  | _ => .ok ()

/-- Checks what stands between the slashes and the path; `atEnd` says that nothing follows it. Only
under a scheme of its own may a URL go without a host, and then without a user and a port. -/
def checkAuthority (kind : SchemeKind) (authority : List Char) (atEnd : Bool) :
    Except UrlError Unit := do
  let (userInfo, hostAndPort) := splitUserInfo authority
  if userInfo = some [] ∧ hostAndPort.isEmpty ∧ !atEnd then throw .emptyHost
  let host := takeHost false hostAndPort
  let port := hostAndPort.drop host.length
  if kind = .web then
    if host.isEmpty then throw .emptyHost
    Host.check host
  else
    Host.checkPlain host
    if host.isEmpty ∧ (isNamed userInfo ∨ !port.isEmpty) then throw .emptyHost
  checkPort port

/-- The bytes that a path reserves. -/
def reservedInPath : UInt8 → Bool :=
  reservedByte [' ', '"', '<', '>', '\x60', '#', '?', '\x7b', '\x7d']

/-- The bytes that a query reserves. -/
def reservedInQuery (kind : SchemeKind) : UInt8 → Bool :=
  reservedByte ([' ', '"', '#', '<', '>'] ++ if kind = .other then [] else ['\''])

/-- The bytes that a fragment reserves. -/
def reservedInFragment : UInt8 → Bool :=
  reservedByte [' ', '"', '<', '>', '\x60']

/-- The bytes that a segment reserves when it is added to a path. -/
def reservedInSegment (kind : SchemeKind) : UInt8 → Bool :=
  reservedByte ([' ', '"', '<', '>', '\x60', '#', '?', '\x7b', '\x7d', '/', '%'] ++
    if kind = .other then [] else ['\\'])

/-- Characters as a text with the reserved bytes escaped. -/
def encoded (reserved : UInt8 → Bool) (cs : List Char) : String :=
  String.ofList (percentEncode reserved cs)

/-- A segment that stands for the one it is in. -/
def isSingleDot (segment : String) : Bool :=
  [".", "%2e"].contains segment.toLower

/-- A segment that stands for the one above. -/
def isDoubleDot (segment : String) : Bool :=
  ["..", "%2e.", ".%2e", "%2e%2e"].contains segment.toLower

/-- The segments with those that point to themselves or upwards carried out. The path is read from
`before`, which lists its segments latest first. -/
def resolveDots (before : List String) : List String → List String
  | [] => before.reverse
  | [s] =>
    if isDoubleDot s then ("" :: before.drop 1).reverse
    else if isSingleDot s then ("" :: before).reverse
    else (s :: before).reverse
  | s :: rest =>
    if isDoubleDot s then resolveDots (before.drop 1) rest
    else if isSingleDot s then resolveDots before rest
    else resolveDots (s :: before) rest

/-- The segments of a path text, which starts with a slash unless it is empty. -/
def pathSegments (kind : SchemeKind) (path : List Char) : List String :=
  let path := if kind = .other then path else path.map fun c => if c = '\\' then '/' else c
  match path with
  | [] => if kind = .other then [] else [""]
  | c :: rest =>
    let path := if c = '/' then rest else c :: rest
    resolveDots [] ((Host.splitAt '/' path).map (encoded reservedInPath))

/-- Splits a text before the first character that satisfies a test. -/
def splitBefore (p : Char → Bool) (cs : List Char) : List Char × List Char :=
  (cs.takeWhile fun c => !p c, cs.dropWhile fun c => !p c)

/-- The query and the fragment at the end of a URL. -/
def queryAndFragment (kind : SchemeKind) (cs : List Char) : Option String × Option String :=
  let (front, fragment) := splitBefore (· = '#') cs
  ((match front with
    | '?' :: query => some (encoded (reservedInQuery kind) query)
    | _ => none),
   match fragment with
    | '#' :: text => some (encoded reservedInFragment text)
    | _ => none)

/-- A URL of a scheme whose rest is a path with all that follows it. -/
def ofPath (scheme : List Char) (rest : List Char) : Url :=
  let kind := schemeKind scheme
  let (path, rest) := splitBefore (fun c => c = '?' || c = '#') rest
  let (query, fragment) := queryAndFragment kind rest
  ⟨String.ofList scheme, some (pathSegments kind path), "", query, fragment⟩

/-- A URL with an authority, which ends where the path, the query or the fragment begins. -/
def ofAuthority (scheme : List Char) (rest : List Char) : Except UrlError Url := do
  let kind := schemeKind scheme
  let (authority, rest) := splitBefore (endsAuthority kind) rest
  checkAuthority kind authority rest.isEmpty
  return ofPath scheme rest

/-- A letter with a colon or a bar, as names of disks are written. -/
def isDriveLetter : List Char → Bool
  | [c, d] => c.isAlpha && (d = ':' || d = '|')
  | _ => false

/-- A URL of a local file. -/
def ofFile (rest : List Char) : Except UrlError Url := do
  let scheme := "file".toList
  let isSlash := fun c : Char => c = '/' || c = '\\'
  match rest with
  | a :: b :: rest =>
    if isSlash a && isSlash b then
      let (host, path) := splitBefore (endsAuthority .file) rest
      if host.isEmpty then return ofPath scheme path
      else if isDriveLetter host then return ofPath scheme ('/' :: rest)
      else
        Host.check host
        return ofPath scheme path
    else return ofPath scheme (a :: b :: rest)
  | rest => return ofPath scheme rest

/-- A URL whose path is not made of segments. -/
def ofPlain (scheme : List Char) (rest : List Char) : Url :=
  let (path, rest) := splitBefore (fun c => c = '?' || c = '#') rest
  let (query, fragment) := queryAndFragment .other rest
  ⟨String.ofList scheme, none, encoded isControlByte path, query, fragment⟩

/-- The text without the controls and spaces around it and the line breaks and tabs inside. -/
def cleaned (s : String) : List Char :=
  let isEdge := fun c : Char => decide (c.toNat ≤ 0x20)
  let trimmed := ((s.toList.dropWhile isEdge).reverse.dropWhile isEdge).reverse
  trimmed.filter fun c => c ≠ '\t' ∧ c ≠ '\n' ∧ c ≠ '\r'

/-- The URL that a text writes. -/
def parse (s : String) : Except UrlError Url :=
  match scheme? (cleaned s) with
  | none => .error .relative
  | some (scheme, rest) =>
    match schemeKind scheme with
    | .web => ofAuthority scheme (rest.dropWhile fun c => c = '/' || c = '\\')
    | .file => ofFile rest
    | .other =>
      match rest with
      | '/' :: '/' :: rest => ofAuthority scheme rest
      | '/' :: rest => .ok (ofPath scheme ('/' :: rest))
      | rest => .ok (ofPlain scheme rest)

/-- The text of a URL whose path is not made of segments. -/
def plainText (u : Url) : String :=
  u.scheme ++ ":" ++ u.plainPath ++ (u.query.map ("?" ++ ·)).getD "" ++
    (u.fragment.map ("#" ++ ·)).getD ""

/-- A path that is only a slash has no segments. -/
def rooted (segments : List String) : List String :=
  if segments = [""] then [] else segments

/-- The segments of a base path that requests keep: one empty segment at the end is dropped. -/
def keptSegments (segments : List String) : List String :=
  rooted (if segments.getLast? = some "" then segments.dropLast else segments)

/-- The segment that a part of an address is written as. Tabs and line breaks in it are left out. -/
def segmentOf (kind : SchemeKind) (part : String) : String :=
  encoded (reservedInSegment kind) (part.toList.filter fun c => c ≠ '\t' ∧ c ≠ '\n' ∧ c ≠ '\r')

/-- The path with one more part of an address. The parts `.` and `..` address nothing and are left
out; a part that is only written like one of them points to the path itself or to the one above, and
leaves an empty segment behind. -/
def pushPart (kind : SchemeKind) (path : List String) (part : String) : List String :=
  if part = "." ∨ part = ".." then path
  else
    let segment := segmentOf kind part
    rooted <|
      if segment = "." then path ++ [""]
      else if segment = ".." then path.dropLast ++ [""]
      else path ++ [segment]

/-- Segments as a path. -/
def joined : List String → String
  | [] => "/"
  | segments => String.join (segments.map ("/" ++ ·))

/-- Where a request for an address goes: the path, and the query of the base URL if it has one. -/
def target (u : Url) (parts : List String) : String :=
  let kind := schemeKind u.scheme.toList
  joined (parts.foldl (pushPart kind) (keptSegments (u.segments.getD []))) ++
    (u.query.map ("?" ++ ·)).getD ""

/-- The base URL of a control plane, which has to have a path made of segments. -/
def parseBase (s : String) : Except OperatorError Url :=
  match parse s with
  | .error e => .error (.invalidSpec ("invalid control plane URL " ++ s ++ ": " ++ e.message))
  | .ok u =>
    if u.segments.isNone then
      .error (.invalidSpec ("control plane URL " ++ u.plainText ++ " cannot carry a path"))
    else .ok u

end Url

end ServiceOperator
