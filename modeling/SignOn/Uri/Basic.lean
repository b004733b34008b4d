import SignOn.Text.Cut
import SignOn.Text.Printable
import SignOn.Uri.Host

/-!
# Uniform resource identifiers

`split` takes a text apart into scheme, authority, path, query and fragment, and `join` puts the
parts together. Splitting drops leading controls and spaces and every tabulator and line break,
lower-cases the scheme and refuses authorities whose host could be misread.
-/

namespace SignOn

structure Uri where
  scheme : List Char := []
  authority : List Char := []
  path : List Char := []
  query : List Char := []
  fragment : List Char := []
  deriving DecidableEq, Repr

namespace Uri

inductive Fault where
  /-- Brackets that do not pair, or text beside a bracketed host. -/
  | brackets
  /-- A host in brackets that begins like a later address form and is none. -/
  | futureAddress
  /-- A host in brackets that is no address. -/
  | noAddress (host : String)
  /-- An IPv4 address in brackets. -/
  | bracketedIPv4
  /-- An authority with a character that compatibility forms turn into a delimiter. -/
  | compatibility (authority : String)
  deriving DecidableEq, Repr

def Fault.message : Fault → String
  | .brackets => "Invalid IPv6 URL"
  | .futureAddress => "IPvFuture address is invalid"
  | .noAddress host => Text.quoted host ++ " does not appear to be an IPv4 or IPv6 address"
  | .bracketedIPv4 => "An IPv4 address cannot be in brackets"
  | .compatibility authority =>
    "netloc '" ++ authority ++ "' contains invalid characters under NFKC normalization"

def isAsciiLetter (c : Char) : Bool :=
  ('a' ≤ c && c ≤ 'z') || ('A' ≤ c && c ≤ 'Z')

def isSchemeChar (c : Char) : Bool :=
  isAsciiLetter c || c.isDigit || c == '+' || c == '-' || c == '.'

def isScheme : List Char → Bool
  | [] => false
  | c :: rest => isAsciiLetter c && rest.all isSchemeChar

def isLineBreak (c : Char) : Bool :=
  c == '\t' || c == '\n' || c == '\r'

def clean (s : List Char) : List Char :=
  (s.dropWhile fun c => decide (c.toNat ≤ 0x20)).filter (!isLineBreak ·)

def splitScheme (s : List Char) : List Char × List Char :=
  match Text.cut ':' s with
  | (before, some after) => if isScheme before then (before.map Char.toLower, after) else ([], s)
  | (_, none) => ([], s)

def endsAuthority (c : Char) : Bool :=
  c == '/' || c == '?' || c == '#'

def splitAuthority : List Char → List Char × List Char
  | '/' :: '/' :: rest => (rest.takeWhile (!endsAuthority ·), rest.dropWhile (!endsAuthority ·))
  | s => ([], s)

def checkHost (host : List Char) : Except Fault Unit :=
  if host.head? = some 'v' then
    if isFutureAddress host then .ok () else .error .futureAddress
  else if isIPv4 host then .error .bracketedIPv4
  else if isIPv6 host then .ok ()
  else .error (.noAddress (String.ofList host))

/-- Judges an authority that holds both brackets. What stands before the last `@` plays no part;
a port may follow the brackets. -/
def checkBracketed (authority : List Char) : Except Fault Unit :=
  let hostAndPort := Text.afterLast '@' authority
  match Text.cut '[' hostAndPort with
  | (_, none) => checkHost (Text.cut ':' hostAndPort).1
  | (before, some bracketed) =>
    if !before.isEmpty then .error .brackets
    else match Text.cut ']' bracketed with
      | (host, none) => checkHost host
      | (host, some []) => checkHost host
      | (host, some (c :: _)) => if c = ':' then checkHost host else .error .brackets

def checkBrackets (authority : List Char) : Except Fault Unit :=
  if '[' ∈ authority ∧ ']' ∈ authority then checkBracketed authority
  else if '[' ∈ authority ∨ ']' ∈ authority then .error .brackets
  else .ok ()

/-- Characters that decompose, by compatibility, into a text with a delimiter of addresses. -/
def hidesDelimiter (c : Char) : Bool :=
  [0x2047, 0x2048, 0x2049, 0x2100, 0x2101, 0x2105, 0x2106, 0x2a74, 0xfe13, 0xfe16, 0xfe55, 0xfe56,
    0xfe5f, 0xfe6b, 0xff03, 0xff0f, 0xff1a, 0xff1f, 0xff20].contains c.toNat

def checkCompatibility (authority : List Char) : Except Fault Unit :=
  if authority.any hidesDelimiter then .error (.compatibility (String.ofList authority)) else .ok ()

/-- Path, query and fragment: the fragment begins at the first `#`, the query at the first `?`
before it. -/
def splitPath (s : List Char) : List Char × List Char × List Char :=
  let (s, fragment) := Text.cut '#' s
  let (path, query) := Text.cut '?' s
  (path, query.getD [], fragment.getD [])

def split (s : List Char) : Except Fault Uri :=
  let (scheme, rest) := splitScheme (clean s)
  let (authority, rest) := splitAuthority rest
  let (path, query, fragment) := splitPath rest
  match checkBrackets authority, checkCompatibility authority with
  | .error e, _ => .error e
  | .ok (), .error e => .error e
  | .ok (), .ok () => .ok { scheme, authority, path, query, fragment }

/-- Schemes whose addresses have an authority, even an empty one. -/
def hierarchicalSchemes : List String :=
  ["ftp", "http", "gopher", "nntp", "telnet", "imap", "wais", "file", "mms", "https", "shttp",
    "snews", "prospero", "rtsp", "rtspu", "rsync", "svn", "svn+ssh", "sftp", "nfs", "git",
    "git+ssh", "ws", "wss"]

def writesAuthority (uri : Uri) : Bool :=
  !uri.authority.isEmpty ||
    hierarchicalSchemes.contains (String.ofList uri.scheme) && uri.path.take 2 != ['/', '/']

/-- An empty query or fragment leaves no delimiter behind. -/
def join (uri : Uri) : List Char :=
  let path :=
    if uri.writesAuthority then
      '/' :: '/' :: uri.authority ++
        (if uri.path.isEmpty || uri.path.head? == some '/' then uri.path else '/' :: uri.path)
    else uri.path
  (if uri.scheme.isEmpty then path else uri.scheme ++ ':' :: path) ++
    (if uri.query.isEmpty then [] else '?' :: uri.query) ++
    (if uri.fragment.isEmpty then [] else '#' :: uri.fragment)

def isAbsolute (uri : Uri) : Bool :=
  !uri.scheme.isEmpty && !uri.authority.isEmpty

end Uri

end SignOn
