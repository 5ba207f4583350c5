import AssetGraph.Url.Basic
import AssetGraph.Url.Domain
import AssetGraph.Url.Ipv6
/-!
# Reading URLs

`Url.parse` reads an absolute URL.  Blanks and controls around it, and tabs and line ends within, are
left out.  With a special scheme a backslash is a slash, an authority is there whatever the number of
slashes, and the host is a name or an address; with any other the authority follows two slashes and
the host is left as it is.  A URL whose path has no segments is refused, since nothing can lie below
it.
-/
namespace AssetGraph.Url

/-- **Why a text is not a URL that others can lie below.** -/
inductive Fault where
  | relative
  | emptyHost
  | badPort
  | badIpv4
  | badIpv6
  | badName
  | badHostCharacter
  | noSegments
deriving DecidableEq, Repr

def Fault.message : Fault → String
  | relative => "relative URL without a base"
  | emptyHost => "empty host"
  | badPort => "invalid port number"
  | badIpv4 => "invalid IPv4 address"
  | badIpv6 => "invalid IPv6 address"
  | badName => "invalid international domain name"
  | badHostCharacter => "invalid domain character"
  | noSegments => "cannot be a base URL"

/-- A text without what a URL does not hold. -/
def cleaned (cs : List Char) : List Char :=
  let trimmed := cs.dropWhile (·.toNat ≤ 32)
  ((trimmed.reverse.dropWhile (·.toNat ≤ 32)).reverse).filter (!isIgnored ·)

/-! ## Scheme -/

def isSchemeChar (c : Char) : Bool := c.isAlphanum || c == '+' || c == '-' || c == '.'

/-- The scheme, in small letters, and what follows its colon. -/
def scheme? (cs : List Char) : Option (List Char × List Char) :=
  match cs.span isSchemeChar with
  | (c :: name, ':' :: rest) =>
    if c.isAlpha then some ((c :: name).map Char.toLower, rest) else none
  | _ => none

/-! ## Hosts -/

/-- The host between brackets. -/
def bracketHost (cs : List Char) : Except Fault (List Char) :=
  match cs.getLast? with
  | some ']' =>
    match Ipv6.parse? cs.dropLast with
    | some groups => .ok ('[' :: Ipv6.render groups ++ [']'])
    | none => .error .badIpv6
  | _ => .error .badIpv6

/-- **The host of a special URL**: an address, or a name in ASCII. -/
def specialHost : List Char → Except Fault (List Char)
  | '[' :: cs => bracketHost cs
  | cs =>
    match (Utf8.decode? (Percent.decode cs)).bind fun s => Domain.toAscii? s.toList with
    | none => .error .badName
    | some name =>
      if name.isEmpty then .error .emptyHost
      else if Ipv4.endsInNumber name then
        match Ipv4.parse? name with
        | some address => .ok (Ipv4.render address)
        | none => .error .badIpv4
      else .ok name

def isForbiddenInOpaque (c : Char) : Bool :=
  ['\x00', '\t', '\n', '\r', ' ', '#', '/', ':', '<', '>', '?', '@', '[', '\\', ']', '^',
    '|'].contains c

/-- **The host of another URL**: what is given, with controls encoded. -/
def opaqueHost : List Char → Except Fault (List Char)
  | '[' :: cs => bracketHost cs
  | cs =>
    if cs.any isForbiddenInOpaque then .error .badHostCharacter
    else .ok (Percent.encode Percent.isControl cs)

/-- The characters of a host, and what follows; a colon between brackets does not end it. -/
def spanHost : (inBrackets : Bool) → List Char → List Char × List Char
  | _, [] => ([], [])
  | inBrackets, c :: cs =>
    if c == ':' && !inBrackets then ([], c :: cs)
    else
      let inBrackets := if c == '[' then true else if c == ']' then false else inBrackets
      let (host, rest) := spanHost inBrackets cs
      (c :: host, rest)

/-! ## Authority -/

/-- What is in front of the last at sign, and what is behind it. -/
def splitUserinfo? (cs : List Char) : Option (List Char × List Char) :=
  if cs.contains '@' then
    let host := (cs.reverse.takeWhile (· != '@')).reverse
    some (cs.take (cs.length - host.length - 1), host)
  else none

/-- A user and a password, encoded; a colon that no password follows is left out. -/
def encodeUserinfo (cs : List Char) : List Char :=
  let user := Percent.encode Percent.userinfoSet (cs.takeWhile (· != ':'))
  let password := Percent.encode Percent.userinfoSet ((cs.dropWhile (· != ':')).drop 1)
  if password.isEmpty then user else user ++ ':' :: password

/-- A port, unless it is the scheme's own. -/
def port? (scheme : List Char) (cs : List Char) : Except Fault (Option Nat) :=
  if cs.isEmpty then .ok none
  else
    match Decimal.digits? cs with
    | none => .error .badPort
    | some n =>
      if 65535 < n then .error .badPort
      else .ok (if defaultPort? scheme = some n then none else some n)

/-- **The authority that the characters before the path stand for**, and what the path takes from their
end: a backslash ends the port.  `isLast` says that nothing follows them, which alone excuses a lone at
sign. -/
def authorityOf (scheme : List Char) (isLast : Bool) (cs : List Char) :
    Except Fault (Authority × List Char) := do
  let (userinfo, rest) ← match splitUserinfo? cs with
    | none => pure ([], cs)
    | some ([], []) => if isLast then pure ([], []) else throw .emptyHost
    | some (u, rest) => pure (encodeUserinfo u, rest)
  let (hostChars, tail) := spanHost false rest
  let isSpecial := isSpecialScheme scheme
  if isSpecial && hostChars.isEmpty then throw .emptyHost
  let host ← if isSpecial then specialHost hostChars else opaqueHost hostChars
  if host.isEmpty && (tail.head? == some ':' || !userinfo.isEmpty) then throw .emptyHost
  let (portChars, left) := (tail.drop 1).span (· != '\\')
  let port ← port? scheme portChars
  pure ({ userinfo, host, port }, left)

/-! ## Path -/

/-- Takes a segment into a path; `isLast` says that no slash follows it. -/
def takeSegment (isFile : Bool) (path : List (List Char)) (segment : List Char) (isLast : Bool) :
    List (List Char) :=
  let encoded := Percent.encode Percent.pathSet segment
  if isDoubleDot encoded then parentPath path ++ (if isLast then [[]] else [])
  else if isSingleDot encoded then path ++ (if isLast then [[]] else [])
  else if isFile && path.isEmpty && isDrive segment then path ++ [segment.take 1 ++ [':']]
  else path ++ [encoded]

def takeSegments (isFile : Bool) : (path segments : List (List Char)) → List (List Char)
  | path, [] => path
  | path, [last] => takeSegment isFile path last true
  | path, s :: t :: ss => takeSegments isFile (takeSegment isFile path s false) (t :: ss)

/-- The segments of a path whose leading slash is read. -/
def segmentsOf (isFile : Bool) (cs : List Char) : List (List Char) :=
  takeSegments isFile [] (Text.parts '/' cs)

/-- One leading slash less. -/
def withoutSlash : List Char → List Char
  | '/' :: cs => cs
  | cs => cs

/-- The path of a file: empty segments in front are left out. -/
def filePath (segments : List (List Char)) : List (List Char) :=
  match segments.dropWhile (·.isEmpty) with
  | [] => [[]]
  | path => path

/-! ## The whole -/

/-- The fragment, encoded. -/
def fragmentOf (cs : List Char) : Option (List Char) :=
  match cs with
  | '#' :: f => some (Percent.encode Percent.fragmentSet f)
  | _ => none

/-- Everything in front of query and fragment, the query, and the fragment. -/
def divide (cs : List Char) : List Char × Option (List Char) × Option (List Char) :=
  let (front, rest) := cs.span (fun c => c != '?' && c != '#')
  match rest with
  | '?' :: r => (front, some (r.takeWhile (· != '#')), fragmentOf (r.dropWhile (· != '#')))
  | _ => (front, none, fragmentOf rest)

def toSlash (c : Char) : Char := if c == '\\' then '/' else c

/-- What a file URL has in front of its path, and the path.  A drive needs no host, and this one none. -/
def fileParts (cs : List Char) : Except Fault (Authority × List (List Char)) :=
  match cs with
  | '/' :: '/' :: rest =>
    let hostChars := rest.takeWhile (· != '/')
    if isDrive hostChars then .ok ({ host := [] }, filePath (segmentsOf true rest))
    else
      let segments := segmentsOf true (withoutSlash (rest.dropWhile (· != '/')))
      if hostChars.isEmpty then .ok ({ host := [] }, filePath segments)
      else do
        let host ← specialHost hostChars
        let isLocal := host == "localhost".toList || segments.head?.any isDrive
        pure ({ host := if isLocal then [] else host }, filePath segments)
  | _ => .ok ({ host := [] }, filePath (segmentsOf true (withoutSlash cs)))

/-- The path behind an authority: a slash is put in front where one is missing. -/
def pathBehind (isSpecial : Bool) (cs : List Char) : List (List Char) :=
  if cs.isEmpty && !isSpecial then [] else segmentsOf false (withoutSlash cs)

/-- What is in front of the first slash, a backslash counting as none, and the rest. -/
def spanAuthority (cs : List Char) : List Char × List Char := cs.span (· != '/')

/-- **What a URL has in front of its path, and the path**; `isLast` says that neither query nor fragment
follows. -/
def hierarchy (scheme : List Char) (isLast : Bool) (front : List Char) :
    Except Fault (Option Authority × List (List Char)) :=
  if scheme == "file".toList then do
    let (a, path) ← fileParts (front.map toSlash)
    pure (some a, path)
  else if isSpecialScheme scheme then do
    let (before, behind) := spanAuthority ((front.map toSlash).dropWhile (· == '/'))
    let (a, left) ← authorityOf scheme (isLast && behind.isEmpty) before
    pure (some a, pathBehind true (left ++ behind))
  else
    match front with
    | '/' :: '/' :: rest => do
      let (before, behind) := spanAuthority rest
      let (a, left) ← authorityOf scheme (isLast && behind.isEmpty) before
      pure (some a, pathBehind false (left ++ behind))
    | '/' :: rest => .ok (none, segmentsOf false rest)
    | _ => .error .noSegments

/-- **The URL of a text.**  The query is kept as it is given. -/
def parse (s : String) : Except Fault Url :=
  match scheme? (cleaned s.toList) with
  | none => .error .relative
  | some (scheme, rest) => do
    let (front, query, fragment) := divide rest
    let (authority, path) ← hierarchy scheme (query.isNone && fragment.isNone) front
    pure { scheme, authority, path, query, fragment }

end AssetGraph.Url
