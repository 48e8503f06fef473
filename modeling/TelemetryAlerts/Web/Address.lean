import TelemetryAlerts.Web.Host
import TelemetryAlerts.Number.Numeral

/-!
# Web addresses

Addresses in parts, reading them from texts, their normal form, and the address that a
path stands for under a base address.
-/

namespace TelemetryAlerts
namespace Web

/-- An address in normal form. `path` is escaped, and so are the query and fragment. -/
structure Address where
  scheme : List Char
  userinfo : List Char
  host : List Char
  port? : Option Int
  path : List Char
  query? : Option (List Char)
  fragment? : Option (List Char)
deriving DecidableEq

namespace Address

/-- The address without any part. -/
def empty : Address := ⟨[], [], [], none, [], none, none⟩

/-- The longest text that is read as an address. -/
def maxLength : Nat := 65536

/-- The printable ASCII characters except those given. -/
def isSafeBut (escaped : String) (c : Char) : Bool :=
  0x20 ≤ c.toNat && c.toNat < 0x7F && !escaped.toList.contains c

/-- What stands unescaped in a fragment. -/
def isFragmentSafe (c : Char) : Bool := isSafeBut " \"<>`" c

/-- What stands unescaped in a query. -/
def isQuerySafe (c : Char) : Bool := isSafeBut " \"#<>" c

/-- What stands unescaped in a path. -/
def isPathSafe (c : Char) : Bool := isSafeBut " \"#<>?`\x7b\x7d" c

/-- What stands unescaped in front of the host. -/
def isUserinfoSafe (c : Char) : Bool := isSafeBut " \"#<>?`\x7b\x7d/;=@[\\]^|" c

/-- Splits off what comes before a separator; the second part lacks the separator. -/
def breakAt (sep : Char) (cs : List Char) : List Char × Option (List Char) :=
  let first := cs.takeWhile (· != sep)
  match cs.drop first.length with
  | _ :: rest => (first, some rest)
  | [] => (first, none)

/-- Whether a character may stand in a scheme. -/
def isSchemeChar (c : Char) : Bool :=
  c.isAlphanum || c == '+' || c == '.' || c == '-'

/-- Splits off a scheme and its colon. -/
def splitScheme (cs : List Char) : List Char × List Char :=
  let run := cs.takeWhile isSchemeChar
  match cs.drop run.length with
  | ':' :: rest => if run.isEmpty || run.head?.any Char.isAlpha then (run, rest) else ([], cs)
  | _ => ([], cs)

/-- Splits off an authority after two slashes. -/
def splitAuthority (cs : List Char) : List Char × List Char :=
  match cs with
  | '/' :: '/' :: rest =>
    let run := rest.takeWhile fun c => c != '/' && c != '?' && c != '#'
    (run, rest.drop run.length)
  | _ => ([], cs)

/-- Splits at the last occurrence of a character. -/
def splitLast (sep : Char) (cs : List Char) : Option (List Char × List Char) :=
  if cs.contains sep then
    let after := (cs.reverse.takeWhile (· != sep)).reverse
    some (cs.take (cs.length - after.length - 1), after)
  else none

/-- Splits a host and what follows it: a bracketed host reaches to the last bracket. -/
def splitHost (cs : List Char) : List Char × List Char :=
  let plain := cs.takeWhile fun c => c != ':' && c != '@'
  match cs with
  | '[' :: _ =>
    match splitLast ']' cs with
    | some (lead, rest) => (lead ++ [']'], rest)
    | none => (plain, cs.drop plain.length)
  | _ => (plain, cs.drop plain.length)

/-- A port as a number: a numeral with an optional sign and blanks around it. -/
def portNumber? (cs : List Char) : Option Int :=
  let (negative, body) := Number.spanSign (Text.dropEnds Text.isBlank cs)
  match Number.spanDigits Text.decimalValue? body with
  | (d :: ds, []) =>
    let n : Int := Text.ofDigits 10 (d :: ds)
    some (if negative then -n else n)
  | _ => none

/-- The port that a scheme implies. -/
def defaultPort? (scheme : String) : Option Int :=
  match scheme with
  | "ftp" => some 21
  | "http" => some 80
  | "https" => some 443
  | "ws" => some 80
  | "wss" => some 443
  | _ => none

/-- The port to show: none if it is not given or implied; the outer `none` is no port. -/
def shownPort? (cs : List Char) (scheme : List Char) : Option (Option Int) :=
  if cs.isEmpty then some none
  else (portNumber? cs).map fun n =>
    if defaultPort? (String.ofList scheme) = some n then none else some n

/-- One segment more; two points take one away. -/
def pushSegment (out : List (List Char)) (segment : List Char) : List (List Char) :=
  if segment = ['.'] then out
  else if segment = ['.', '.'] then
    if out = [] ∨ out = [[]] then out else out.dropLast
  else out ++ [segment]

/-- A path without segments of one or two points. -/
def withoutDots (path : List Char) : List Char :=
  let segments := splitAt '/' path
  if segments.any fun s => s = ['.'] || s = ['.', '.'] then
    "/".toList.intercalate (segments.foldl pushSegment [])
  else path

/-- The parts of an address before they are brought into normal form. -/
structure Raw where
  scheme : List Char
  authority : List Char
  path : List Char
  query? : Option (List Char)
  fragment? : Option (List Char)

/-- The parts of a text. -/
def Raw.ofChars (cs : List Char) : Raw :=
  let (scheme, rest) := splitScheme cs
  let (authority, rest) := splitAuthority rest
  let (beforeFragment, fragment?) := breakAt '#' rest
  let (path, query?) := breakAt '?' beforeFragment
  ⟨scheme, authority, path, query?, fragment?⟩

/-- Whether a text is short enough and free of control characters. -/
def isAcceptable (cs : List Char) : Bool :=
  cs.length ≤ maxLength && cs.all fun c => 0x20 ≤ c.toNat && c.toNat != 0x7F

/-- Whether a path may follow the parts before it. -/
def pathFits (path : List Char) (hasScheme hasAuthority : Bool) : Bool :=
  (!hasAuthority || path.isEmpty || path.head? == some '/') &&
    (hasScheme || hasAuthority || (path.take 2 != ['/', '/'] && path.head? != some ':'))

/-- The normal form of an address in parts; `none` if the parts make no address. -/
def Raw.normal? (r : Raw) : Option Address := do
  let (userinfo, rest) := (splitLast '@' r.authority).getD ([], r.authority)
  let (hostText, afterHost) := splitHost rest
  let portText :=
    match afterHost with
    | ':' :: p => p
    | p => p
  let host ← host? hostText
  let port ← shownPort? portText r.scheme
  let hasScheme := !r.scheme.isEmpty
  let hasAuthority := !userinfo.isEmpty || !host.isEmpty || port.isSome
  if pathFits r.path hasScheme hasAuthority then
    let path := if hasScheme || hasAuthority then withoutDots r.path else r.path
    pure {
      scheme := r.scheme.map Char.toLower
      userinfo := percentEncode isUserinfoSafe userinfo
      host := host
      port? := port
      path := percentEncode isPathSafe path
      query? := r.query?.map (percentEncode isQuerySafe)
      fragment? := r.fragment?.map (percentEncode isFragmentSafe) }
  else none

/-- The address that a text gives. -/
def ofText? (s : String) : Option Address :=
  let cs := s.toList
  if isAcceptable cs then (Raw.ofChars cs).normal? else none

/-- The part of an address that names the server. -/
def authority (a : Address) : List Char :=
  let user := if a.userinfo.isEmpty then [] else a.userinfo ++ ['@']
  let host := if a.host.contains ':' then '[' :: a.host ++ [']'] else a.host
  let port := (a.port?.map fun n => ':' :: (toString n).toList).getD []
  user ++ host ++ port

/-- The path and query with which a server is asked. -/
def target (a : Address) : List Char :=
  (if a.path.isEmpty then ['/'] else a.path) ++ (a.query?.map ('?' :: ·)).getD []

/-- An address as text. -/
def text (a : Address) : String :=
  let scheme := if a.scheme.isEmpty then [] else a.scheme ++ [':']
  let server := if a.authority.isEmpty then [] else '/' :: '/' :: a.authority
  String.ofList (scheme ++ server ++ a.path ++ (a.query?.map ('?' :: ·)).getD [] ++
    (a.fragment?.map ('#' :: ·)).getD [])

/-- An address names a server on its own if it has a scheme and a host. -/
def isAbsolute (a : Address) : Bool :=
  !a.scheme.isEmpty && !a.host.isEmpty

/-- The same server with another path and query. -/
def withTarget? (a : Address) (target : List Char) : Option Address :=
  if isAcceptable target then
    let (path, query?) := breakAt '?' target
    Raw.normal? ⟨a.scheme, a.authority, path, query?, a.fragment?⟩
  else none

/-- A base address ends in a slash. -/
def asBase? (a : Address) : Option Address :=
  if a.target.getLast? = some '/' then some a else a.withTarget? (a.target ++ ['/'])

/-- The address of a reference under a base: an absolute reference stands for itself, any
other is appended to the base's path. -/
def resolve? (base reference : Address) : Option Address :=
  if reference.isAbsolute then some reference
  else base.withTarget? (base.target ++ reference.target.dropWhile (· == '/'))

/-- Whether the text of an address begins with a name and a colon, as a reply to it must. -/
def namesProtocol (a : Address) : Bool :=
  let cs := a.text.toList
  let run := cs.takeWhile fun c => c != '/' && c != ':'
  !run.isEmpty && (cs.drop run.length).head? == some ':'

end Address
end Web
end TelemetryAlerts
