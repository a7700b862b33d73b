import AccountWire.Url.Basic
import AccountWire.Url.Domain

/-!
# Reading URLs

`Url.parse` reads an absolute URL.  Blanks and controls around the text and tabs and line ends
inside it do not count.  Six *special* schemes have rules of their own: their URLs have an
authority however many slashes follow the scheme, a backslash is a slash, the host is a domain or
an address, and a port that the scheme implies is left out.

Dot segments are resolved while the path is read: `.` names the directory itself and `..` the one
above it, also when the dots are percent-encoded.
-/

namespace AccountWire.Url

/-- How a scheme reads the rest of its URLs. -/
inductive SchemeKind where
  | file
  | special
  | other
deriving DecidableEq

/-- The kind of a scheme. -/
def schemeKind (scheme : String) : SchemeKind :=
  if scheme = "file" then .file
  else if ["http", "https", "ws", "wss", "ftp"].contains scheme then .special
  else .other

/-- Whether a scheme is one of the six. -/
def SchemeKind.isSpecial : SchemeKind → Bool
  | .file | .special => true
  | .other => false

/-- The port that a scheme implies. -/
def defaultPort? (scheme : String) : Option Nat :=
  if scheme = "http" ∨ scheme = "ws" then some 80
  else if scheme = "https" ∨ scheme = "wss" then some 443
  else if scheme = "ftp" then some 21
  else none

/-- Whether a character separates the segments of a path. -/
def SchemeKind.isSlash (k : SchemeKind) (c : Char) : Bool :=
  c = '/' || (c = '\\' && k.isSpecial)

/-- Whether a character ends the authority. -/
def SchemeKind.endsAuthority (k : SchemeKind) (c : Char) : Bool :=
  k.isSlash c || c = '?' || c = '#'

/-! ### Cleaning and the scheme -/

/-- A control or the space. -/
def isBlank (c : Char) : Bool := c.toNat ≤ 0x20

/-- The text without the characters that do not count. -/
def clean (cs : List Char) : List Char :=
  let trimmed := ((cs.dropWhile isBlank).reverse.dropWhile isBlank).reverse
  trimmed.filter fun c => !(c = '\t' || c = '\n' || c = '\r')

/-- An ASCII letter. -/
def isLetter (c : Char) : Bool := ('a' ≤ c && c ≤ 'z') || ('A' ≤ c && c ≤ 'Z')

/-- An ASCII digit. -/
def isDigit (c : Char) : Bool := '0' ≤ c && c ≤ '9'

/-- The scheme in lower case and what follows its colon. -/
def takeScheme? (cs : List Char) : Option (String × List Char) := do
  let (scheme, rest) ← Split.atFirst? (· == ':') cs
  match scheme with
  | [] => none
  | c :: r =>
    if isLetter c ∧ r.all (fun d => isLetter d || isDigit d || d = '+' || d = '-' || d = '.') then
      some (String.ofList (scheme.map Char.toLower), rest)
    else none

/-! ### The authority -/

/-- The host of a special scheme. -/
def parseHost (cs : List Char) : Except ParseError Host :=
  match cs with
  | '[' :: r =>
    match r.getLast? with
    | some ']' =>
      match ipv6? r.dropLast with
      | some pieces => .ok (.ipv6 pieces)
      | none => .error .invalidIpv6
    | _ => .error .invalidIpv6
  | _ =>
    match domainToAscii? (Utf8.decodeLossy (Percent.decode (Utf8.encode cs))) with
    | none => .error .invalidInternationalDomain
    | some [] => .error .emptyHost
    | some domain =>
      if endsInNumber domain then
        match ipv4? domain with
        | some address => .ok (.ipv4 address)
        | none => .error .invalidIpv4
      else .ok (.domain (String.ofList domain))

/-- Characters that an opaque host must not have. -/
def forbiddenInHost (c : Char) : Bool :=
  ['\x00', '\t', '\n', '\r', ' ', '#', '/', ':', '<', '>', '?', '@', '[', '\\', ']', '^',
    '|'].contains c

/-- The host of a scheme that does not know domains. -/
def parseOpaqueHost (cs : List Char) : Except ParseError Host :=
  match cs with
  | '[' :: r =>
    match r.getLast? with
    | some ']' =>
      match ipv6? r.dropLast with
      | some pieces => .ok (.ipv6 pieces)
      | none => .error .invalidIpv6
    | _ => .error .invalidIpv6
  | _ =>
    if cs.any forbiddenInHost then .error .invalidDomainCharacter
    else .ok (.domain (String.ofList (Percent.encode Percent.controls cs)))

/-- The user name and the password before the last `@`.  An empty password does not count. -/
def parseUserinfo (cs : List Char) : String × Option String :=
  let encode := fun cs => String.ofList (Percent.encode Percent.userinfoSet cs)
  match Split.atFirst? (· == ':') cs with
  | none => (encode cs, none)
  | some (name, []) => (encode name, none)
  | some (name, password) => (encode name, some (encode password))

/-- What stands before the colon of the port; colons between square brackets belong to the
host. -/
def takeHost : Bool → List Char → List Char × List Char
  | _, [] => ([], [])
  | inside, c :: r =>
    if c = ':' ∧ !inside then ([], c :: r)
    else
      let inside := if c = '[' then true else if c = ']' then false else inside
      let (host, rest) := takeHost inside r
      (c :: host, rest)

/-- The number of a port, at most 65535. -/
def portNumber? (cs : List Char) : Option Nat :=
  cs.foldlM (fun n c =>
    if isDigit c then
      let n := 10 * n + (c.toNat - '0'.toNat)
      if n ≤ 65535 then some n else none
    else none) 0

/-- The port after the host, without one that the scheme implies. -/
def parsePort (scheme : String) (cs : List Char) : Except ParseError (Option Nat) :=
  match cs with
  | [] => .ok none
  | _ =>
    match portNumber? cs with
    | some n => .ok (if defaultPort? scheme = some n then none else some n)
    | none => .error .invalidPort

/-- The authority that `cs` writes, without its slashes, and what is left of `cs`: a backslash
after the port always begins the path.  `more` tells whether the URL goes on after `cs`. -/
def parseAuthority (scheme : String) (cs : List Char) (more : Bool) :
    Except ParseError (Authority × List Char) := do
  let kind := schemeKind scheme
  let split := Split.atLast? (· == '@') cs
  let (info, hostport) := split.getD ([], cs)
  -- an `@` with nothing around it cannot be followed by a path
  if split = some ([], []) ∧ more then throw .emptyHost
  let (username, password) := parseUserinfo info
  let (hostText, rest) := takeHost false hostport
  if kind.isSpecial ∧ hostText = [] then throw .emptyHost
  let host ← if kind.isSpecial then parseHost hostText else parseOpaqueHost hostText
  let anonymous := username = "" ∧ password = none
  if hostText = [] ∧ (rest ≠ [] ∨ ¬ anonymous) then throw .emptyHost
  let port ← parsePort scheme ((rest.drop 1).takeWhile (· ≠ '\\'))
  return (⟨username, password, if hostText = [] then none else some host, port⟩,
    rest.dropWhile (· ≠ '\\'))

/-! ### The path -/

/-- The character and its escape, when the character is a dot. -/
def dotForms : List (List Char) := [['.'], ['%', '2', 'e'], ['%', '2', 'E']]

/-- Whether a segment names its own directory. -/
def isSingleDot (s : List Char) : Bool := dotForms.contains s

/-- Whether a segment names the directory above. -/
def isDoubleDot (s : List Char) : Bool :=
  dotForms.any fun a => dotForms.any fun b => s == a ++ b

/-- A letter and a colon or a bar. -/
def isDriveLetter : List Char → Bool
  | [c, d] => isLetter c && (d = ':' || d = '|')
  | _ => false

/-- Drops the last segment, but not the drive letter of a file. -/
def shorten (kind : SchemeKind) (rev : List String) : List String :=
  match rev with
  | [] => []
  | [s] =>
    match s.toList with
    | [c, ':'] => if kind = .file ∧ isLetter c then [s] else []
    | _ => []
  | _ :: r => r

/-- Takes one segment as written into the path, whose segments are kept last first.  A dot segment
that ends the path leaves an empty one. -/
def addSegment (kind : SchemeKind) (rev : List String) (s : List Char) (last : Bool) :
    List String :=
  if isDoubleDot s then
    let rev := shorten kind rev
    if last then "" :: rev else rev
  else if isSingleDot s then if last then "" :: rev else rev
  else
    let s := if kind = .file ∧ rev = [] ∧ isDriveLetter s then s.take 1 ++ [':'] else s
    String.ofList (Percent.encode Percent.pathSet s) :: rev

/-- Takes the segments of a path into it, one after the other. -/
def addSegments (kind : SchemeKind) (rev : List String) : List (List Char) → List String
  | [] => rev
  | [s] => addSegment kind rev s true
  | s :: t :: r => addSegments kind (addSegment kind rev s false) (t :: r)

/-- The segments of a path.  A slash at the beginning opens the first segment. -/
def parsePath (kind : SchemeKind) (cs : List Char) : Path :=
  let body :=
    match cs with
    | c :: r => if kind.isSlash c then r else c :: r
    | [] => []
  if cs = [] ∧ !kind.isSpecial then .segments []
  else
    let ss := (addSegments kind [] (Split.pieces kind.isSlash body)).reverse
    if kind = .file then
      -- leading empty segments of a file's path do not count
      match ss.dropWhile (· = "") with
      | [] => .segments [""]
      | ss => .segments ss
    else .segments ss

/-! ### The whole -/

/-- Path, query and fragment as written. -/
structure Tail where
  path : List Char
  query : Option (List Char)
  fragment : Option (List Char)

/-- Cuts off the fragment and then the query. -/
def Tail.ofChars (cs : List Char) : Tail :=
  let (cs, fragment) :=
    match Split.atFirst? (· == '#') cs with
    | some (before, after) => (before, some after)
    | none => (cs, none)
  match Split.atFirst? (· == '?') cs with
  | some (before, after) => ⟨before, some after, fragment⟩
  | none => ⟨cs, none, fragment⟩

/-- The query as it is written in the end. -/
def encodeQuery (kind : SchemeKind) (cs : List Char) : String :=
  String.ofList
    (Percent.encode (if kind.isSpecial then Percent.specialQuerySet else Percent.querySet) cs)

/-- The fragment as it is written in the end. -/
def encodeFragment (cs : List Char) : String :=
  String.ofList (Percent.encode Percent.fragmentSet cs)

/-- A URL of its parts, path, query and fragment as written. -/
def assemble (scheme : String) (authority : Option Authority) (path : List Char → Path)
    (tail : Tail) : Url :=
  let kind := schemeKind scheme
  ⟨scheme, authority, path tail.path, tail.query.map (encodeQuery kind),
    tail.fragment.map encodeFragment⟩

/-- Reads a URL after the slashes that open its authority. -/
def parseAfterSlashes (scheme : String) (cs : List Char) : Except ParseError Url := do
  let kind := schemeKind scheme
  let rest := cs.dropWhile (!kind.endsAuthority ·)
  let (authority, left) ←
    parseAuthority scheme (cs.takeWhile (!kind.endsAuthority ·)) (rest ≠ [])
  return assemble scheme (some authority) (parsePath kind) (Tail.ofChars (left ++ rest))

/-- The host of a file: none when it is empty, the local one, or a drive letter. -/
def parseFileHost (cs : List Char) : Except ParseError (Option Host) :=
  if cs = [] then .ok none
  else do
    match ← parseHost cs with
    | .domain "localhost" => return none
    | host => return some host

/-- The authority of a file, which has nothing but perhaps a host. -/
def fileAuthority (host : Option Host) : Authority := ⟨"", none, host, none⟩

/-- Reads the URL of a file on this host. -/
def parseLocalFile (cs : List Char) : Url :=
  assemble "file" (some (fileAuthority none)) (parsePath .file) (Tail.ofChars cs)

/-- Whether a path begins with a drive letter. -/
def Path.startsWithDrive : Path → Bool
  | .segments (s :: _) => isDriveLetter s.toList
  | _ => false

/-- Reads the URL of a file.  A path that begins with a drive letter has no host. -/
def parseFile (cs : List Char) : Except ParseError Url :=
  match cs with
  | a :: b :: r =>
    if SchemeKind.file.isSlash a ∧ SchemeKind.file.isSlash b then
      let hostText := r.takeWhile (!SchemeKind.file.endsAuthority ·)
      if isDriveLetter hostText then .ok (parseLocalFile ('/' :: r))
      else do
        let host ← parseFileHost hostText
        let url := parseLocalFile (r.dropWhile (!SchemeKind.file.endsAuthority ·))
        return if url.path.startsWithDrive then url
          else { url with authority := some (fileAuthority host) }
    else .ok (parseLocalFile cs)
  | _ => .ok (parseLocalFile cs)

/-- Reads a URL of a scheme that is not special. -/
def parseOther (scheme : String) (cs : List Char) : Except ParseError Url :=
  match cs with
  | '/' :: '/' :: r => parseAfterSlashes scheme r
  | '/' :: _ => .ok (assemble scheme none (parsePath .other) (Tail.ofChars cs))
  | _ =>
    .ok (assemble scheme none
      (fun path => .opaqueText (String.ofList (Percent.encode Percent.controls path)))
      (Tail.ofChars cs))

/-- Reads an absolute URL. -/
def parse (s : String) : Except ParseError Url :=
  match takeScheme? (clean s.toList) with
  | none => .error .relativeWithoutBase
  | some (scheme, rest) =>
    match schemeKind scheme with
    | .file => parseFile rest
    | .special => parseAfterSlashes scheme (rest.dropWhile SchemeKind.special.isSlash)
    | .other => parseOther scheme rest

/-- Whether a text is an absolute URL with a host. -/
def namesHost (s : String) : Bool :=
  match parse s with
  | .ok url => url.hasHost
  | .error _ => false

end AccountWire.Url
