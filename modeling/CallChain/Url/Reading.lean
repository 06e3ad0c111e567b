import CallChain.Data.ValueMap
import CallChain.Url.Basic

/-!
# Reading URLs

A URL is read from left to right: the scheme, the authority if there is one, the path, the query and
the fragment.  Blanks and control characters at the two ends and tabs and line ends anywhere do not
count.  In a path a segment `.` is dropped and a segment `..` takes the one before it away.
-/

set_option autoImplicit false

namespace CallChain

namespace Url

/-- A text up to the first character of a kind, and the rest from there on. -/
def cut (stop : Char → Bool) (s : List Char) : List Char × List Char :=
  (s.takeWhile fun c => !stop c, s.dropWhile fun c => !stop c)

/-- A text without the blanks and control characters at its two ends. -/
def inner (s : String) : List Char :=
  ((s.toList.dropWhile (·.toNat ≤ 0x20)).reverse.dropWhile (·.toNat ≤ 0x20)).reverse

/-- Whether a character is a tab or a line end. -/
def isBreak (c : Char) : Bool := c == '\t' || c == '\n' || c == '\r'

/-- A text without its tabs and line ends. -/
def unbroken (s : List Char) : List Char := s.filter fun c => !isBreak c

/-- Whether a character may follow the first one of a scheme. -/
def isSchemeChar (c : Char) : Bool := c.isAlphanum || "+-.".toList.contains c

/-- The scheme a text starts with, in small letters, and what follows its colon. -/
def scheme? : List Char → Option (String × List Char)
  | [] => none
  | c :: r =>
    match cut (fun x => !isSchemeChar x) (c :: r) with
    | (scheme, ':' :: rest) =>
      if c.isAlpha then some (Text.lower (String.ofList scheme), rest) else none
    | _ => none

def endsAuthority (k : SchemeKind) (c : Char) : Bool :=
  c == '/' || c == '?' || c == '#' || (k.isSpecial && c == '\\')

/-- What stands before and after the last occurrence of a character, if it occurs. -/
def splitLast (sep : Char) (s : List Char) : Option (List Char × List Char) :=
  (Text.splitFirst sep s.reverse).map fun p => (p.2.reverse, p.1.reverse)

/-- Name and password as they are written. -/
def userinfoOf (s : List Char) : String :=
  match Text.splitFirst ':' s with
  | none => Percent.encode Percent.userinfo s
  | some (user, []) => Percent.encode Percent.userinfo user
  | some (user, password) =>
    Percent.encode Percent.userinfo user ++ ":" ++ Percent.encode Percent.userinfo password

/-- The text of a host up to the colon of a port outside of brackets, and the rest. -/
def cutHost (bracketed : Bool) : List Char → List Char × List Char
  | [] => ([], [])
  | c :: r =>
    if c = ':' ∧ !bracketed then ([], c :: r)
    else
      let bracketed := if c = '[' then true else if c = ']' then false else bracketed
      let (host, rest) := cutHost bracketed r
      (c :: host, rest)

/-- The port after its colon, and the rest. -/
def readPort (scheme : String) (s : List Char) : Except UrlError (Option Nat × List Char) :=
  let digits := s.takeWhile Char.isDigit
  let rest := s.dropWhile Char.isDigit
  match Ipv4.digits? 10 0 digits with
  | none => .error .badPort
  | some n =>
    if 65535 < n then .error .badPort
    else if rest.head?.any fun c => !"/\\?#".toList.contains c then .error .badPort
    else .ok (if digits.isEmpty || usualPort? scheme = some n then none else some n, rest)

/-- The authority after its two slashes, and the rest. -/
def readAuthority (scheme : String) (k : SchemeKind) (s : List Char) :
    Except UrlError (Authority × List Char) := do
  let (all, after) := cut (endsAuthority k) s
  let (user, place) := (splitLast '@' all).getD ([], all)
  if user.isEmpty ∧ (splitLast '@' all).isSome ∧ place.isEmpty ∧ !after.isEmpty then
    throw .emptyHost
  let userinfo := userinfoOf user
  let (hostText, portText) := cutHost false place
  if k = .web ∧ hostText.isEmpty then throw .emptyHost
  let host ← if k.isSpecial then Host.ofWebText hostText else Host.ofText hostText
  if host = .name "" ∧ (!portText.isEmpty ∨ userinfo ≠ "") then throw .emptyHost
  match portText with
  | [] => return (⟨userinfo, host, none⟩, after)
  | _ :: portText =>
    let (port, rest) ← readPort scheme (portText ++ after)
    return (⟨userinfo, host, port⟩, rest)

/-- Whether a segment is written as one point. -/
def isOnePoint (s : String) : Bool := [".", "%2e"].contains (Text.lower s)

/-- Whether a segment is written as two points. -/
def isTwoPoints (s : String) : Bool := ["..", "%2e%2e", "%2e.", ".%2e"].contains (Text.lower s)

/-- Whether a segment names a drive: a letter and a colon or bar. -/
def isDrive : List Char → Bool
  | [c, m] => c.isAlpha && (m == ':' || m == '|')
  | _ => false

/-- The segments without the last one, which stays when it names a drive. -/
def dropSegment (done : List String) : List String :=
  match done.getLast? with
  | some last => if isDrive last.toList then done else done.dropLast
  | none => []

/-- The segments of a path from their texts, the ones before them given. -/
def resolveSegments (done : List String) : List String → List String
  | [] => done
  | [s] =>
    if isTwoPoints s then dropSegment done ++ [""]
    else if isOnePoint s then done ++ [""]
    else done ++ [s]
  | s :: r =>
    if isTwoPoints s then resolveSegments (dropSegment done) r
    else if isOnePoint s then resolveSegments done r
    else resolveSegments (done ++ [s]) r

/-- The texts of the segments of a path, as they are written. -/
def segmentTexts (k : SchemeKind) (s : List Char) : List String :=
  let s := if k.isSpecial then s.map fun c => if c = '\\' then '/' else c else s
  (Text.splitAll '/' s).map (Percent.encode Percent.path)

/-- The path of a URL with an authority. -/
def pathAfterAuthority (k : SchemeKind) (s : List Char) : UrlPath :=
  match s with
  | [] => .segments (if k.isSpecial then [""] else [])
  | c :: r =>
    let inner := if c = '/' ∨ (k.isSpecial ∧ c = '\\') then r else c :: r
    .segments (resolveSegments [] (segmentTexts k inner))

/-- Query and fragment from the character that starts them. -/
def readEnd (k : SchemeKind) (s : List Char) : Option String × Option String :=
  let fragmentOf (s : List Char) : Option String :=
    match s with
    | '#' :: f => some (Percent.encode Percent.fragment f)
    | _ => none
  match s with
  | '?' :: r =>
    let (q, rest) := cut (· == '#') r
    (some (Percent.encode (if k.isSpecial then Percent.webQuery else Percent.query) q),
      fragmentOf rest)
  | _ => (none, fragmentOf s)

def endsPath (c : Char) : Bool := c == '?' || c == '#'

/-- The rest of a URL after scheme and colon, for a scheme that is not of the web. -/
def readOther (scheme : String) (s : List Char) : Except UrlError Url := do
  match s with
  | '/' :: '/' :: r =>
    let (authority, rest) ← readAuthority scheme .other r
    let (path, rest) := cut endsPath rest
    let (query, fragment) := readEnd .other rest
    return ⟨scheme, some authority, pathAfterAuthority .other path, query, fragment⟩
  | '/' :: r =>
    let (path, rest) := cut endsPath r
    let (query, fragment) := readEnd .other rest
    return ⟨scheme, none, .segments (resolveSegments [] (segmentTexts .other path)), query,
      fragment⟩
  | s =>
    let (path, rest) := cut endsPath s
    let (query, fragment) := readEnd .other rest
    return ⟨scheme, none, .plain (Percent.encode Percent.control path), query, fragment⟩

/-- The rest of a URL after scheme and colon, for a scheme of the web.  Slashes before the authority
are passed over, however many there are. -/
def readWeb (scheme : String) (s : List Char) : Except UrlError Url := do
  let (authority, rest) ← readAuthority scheme .web (s.dropWhile fun c => c == '/' || c == '\\')
  let (path, rest) := cut endsPath rest
  let (query, fragment) := readEnd .web rest
  return ⟨scheme, some authority, pathAfterAuthority .web path, query, fragment⟩

/-! ## Files

A file's path may start with a drive, and its tabs and line ends are not all alike, so the text of such
a URL is read with them. -/

/-- A drive that a tab or line end cuts off from the rest of a segment. -/
def driveCutOff? (segment : List Char) : Option (String × List Char) :=
  match segment.dropWhile isBreak with
  | [] => none
  | c :: r =>
    match r.dropWhile isBreak with
    | ':' :: rest =>
      if c.isAlpha ∧ rest.head?.any isBreak ∧ unbroken rest ≠ [] then
        some (String.ofList [c, ':'], rest)
      else none
    | _ => none

/-- How far the path of a file is read. -/
structure FilePath where
  /-- The segments so far. -/
  segments : List String
  /-- Whether the path started with a drive, which leaves no room for a host. -/
  hasDrive : Bool

/-- The path with one more segment.  A drive in front is written with a colon, and what a break cuts off
from it is a segment of its own, whatever it is. -/
def FilePath.push (p : FilePath) (last : Bool) (segment : List Char) : FilePath :=
  let written := Percent.encode Percent.path (unbroken segment)
  let ending := if last then [""] else []
  match if p.segments = [] then driveCutOff? segment else none with
  | some (drive, rest) => ⟨[drive, Percent.encode Percent.path (unbroken rest)], p.hasDrive⟩
  | none =>
    if isTwoPoints written then { p with segments := dropSegment p.segments ++ ending }
    else if isOnePoint written then { p with segments := p.segments ++ ending }
    else if p.segments = [] ∧ isDrive written.toList then
      ⟨[String.ofList (written.toList.take 1 ++ [':'])], true⟩
    else { p with segments := p.segments ++ [written] }

/-- The path with more segments, the last of which ends it. -/
def FilePath.pushAll (p : FilePath) : List (List Char) → FilePath
  | [] => p
  | [s] => p.push true s
  | s :: r => (p.push false s).pushAll r

/-- The path after its first slash.  Empty segments in front are left out at the end. -/
def FilePath.read (s : List Char) : FilePath :=
  let pieces := Text.splitAll '/' (s.map fun c => if c = '\\' then '/' else c)
  let p := FilePath.pushAll ⟨[], false⟩ pieces
  match p.segments.dropWhile (· = "") with
  | [] => { p with segments := [""] }
  | l => { p with segments := l }

/-- Whether a character is a slash of either kind. -/
def isSlash (c : Char) : Bool := c == '/' || c == '\\'

/-- What follows a slash, if a text starts with one. -/
def afterSlash? (s : List Char) : Option (List Char) :=
  match s.dropWhile isBreak with
  | c :: r => if isSlash c then some r else none
  | [] => none

/-- The URL of a file from its host and what follows the host and a slash. -/
def fileUrl (host : Host) (s : List Char) : Url :=
  let (path, rest) := cut endsPath s
  let p := FilePath.read path
  let (query, fragment) := readEnd .file (unbroken rest)
  ⟨"file", some ⟨"", if p.hasDrive then .name "" else host, none⟩, .segments p.segments, query,
    fragment⟩

/-- The rest of a URL after scheme and colon, for files.  A drive leaves no room for a host, and the
local host is no host; only after a host is the slash of the path passed over. -/
def readFile (s : List Char) : Except UrlError Url := do
  match afterSlash? s with
  | none => return fileUrl (.name "") s
  | some r =>
    match afterSlash? r with
    | none => return fileUrl (.name "") r
    | some r =>
      let (hostText, rest) := cut (fun c => isSlash c || endsPath c) r
      let hostText := unbroken hostText
      if isDrive hostText then return fileUrl (.name "") r
      if hostText.isEmpty then return fileUrl (.name "") rest
      let host ← Host.ofWebText hostText
      if host = .name "localhost" then return fileUrl (.name "") rest
      return fileUrl host ((afterSlash? rest).getD rest)

def parse (s : String) : Except UrlError Url :=
  match scheme? (unbroken (inner s)) with
  | none => .error .relative
  | some (scheme, rest) =>
    match SchemeKind.ofScheme scheme with
    | .web => readWeb scheme rest
    | .file => readFile (((inner s).dropWhile (· != ':')).drop 1)
    | .other => readOther scheme rest

end Url

/-- A URL with query parameters added; a URL stays as it is written when there are none. -/
def Query.addTo (q : Query) (url : String) : Except String String :=
  if q.isEmpty then .ok url
  else
    match Url.parse url with
    | .ok u => .ok (u.appendPairs q.pairs).render
    | .error e => .error (url ++ ": " ++ e.message)

end CallChain
