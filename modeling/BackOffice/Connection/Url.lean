import BackOffice.Connection.Host

/-!
# The address of a database

The address of a database is a URL: a scheme, then mostly a user with a password, a host, a port, a
path and a query. `Url.ofText?` takes one apart as browsers do: blanks around it and line ends
within it do not count (`compact`), and under the schemes of the web (`Scheme.web`) a backslash
counts as a slash and there is always a host.
-/

namespace BackOffice

open BackOffice.Text

/-- Why a text is no URL. -/
inductive UrlFault where
  | noScheme
  /-- Its host cannot be one. -/
  | host (cause : HostFault)
  /-- Its port is no number below 65536. -/
  | port
deriving DecidableEq, Repr

def UrlFault.message : UrlFault → String
  | .noScheme => "relative URL without a base"
  | .host cause => cause.message
  | .port => "invalid port number"

/-- The kinds of schemes that are read differently. -/
inductive Scheme where
  /-- A scheme of the web, with a host. -/
  | web
  /-- The scheme of files, with a host or none. -/
  | file
  | other
deriving DecidableEq, Repr

namespace Scheme

/-- The kind of a scheme's name. -/
def ofName (name : String) : Scheme :=
  if ["http", "https", "ws", "wss", "ftp"].contains name then .web
  else if name == "file" then .file
  else .other

/-- Whether a character counts as a slash. -/
def isSlash (s : Scheme) (c : Char) : Bool :=
  c == '/' || (c == '\\' && s != .other)

/-- Whether a character ends the part of a URL that names its host. -/
def isEnd (s : Scheme) (c : Char) : Bool :=
  s.isSlash c || c == '?' || c == '#'

end Scheme

/-- The parts of a URL that a connection is made from, still percent-encoded. -/
structure Url where
  user : List Char := []
  password : List Char := []
  host : List Char := []
  /-- The path without the slashes at its front. -/
  path : List Char := []
  query : List Char := []
deriving DecidableEq, Repr

namespace Url

/-- Whether a character does not count within a URL: a tab, or the end of a line. -/
def isSkipped (c : Char) : Bool :=
  c == '\t' || c == '\n' || c == '\r'

/-- The characters of a text that count. -/
def compact (cs : List Char) : List Char :=
  cs.filter fun c => !isSkipped c

/-- The text without blanks and controls around it. -/
def tidy (cs : List Char) : List Char :=
  let strip (cs : List Char) := cs.dropWhile fun c => c.toNat ≤ 32
  (strip (strip cs).reverse).reverse

/-- The scheme and what follows its colon. A scheme's name is a letter and then letters, digits,
plus signs, minus signs and points, in any case. -/
def splitScheme (cs : List Char) : Option (Scheme × List Char) :=
  let inName (c : Char) : Bool :=
    c.isAlphanum || c == '+' || c == '-' || c == '.' || isSkipped c
  let name := compact (cs.takeWhile inName)
  match cs.dropWhile inName with
  | ':' :: rest =>
    if name.head?.any Char.isAlpha then
      some (.ofName (String.ofList (name.map Char.toLower)), rest)
    else none
  | _ => none

/-- Whether a text is the letter of a drive. -/
def isDrive : List Char → Bool
  | [c, d] => c.isAlpha && (d == ':' || d == '|')
  | _ => false

/-- How many segments of a path a text of dots means: this one, or the one before it. The dots may
be percent-encoded. -/
def dots? (segment : List Char) : Option Nat :=
  match (String.ofList (segment.map Char.toLower)).replace "%2e" "." with
  | "." => some 0
  | ".." => some 1
  | _ => none

/-- The letter of a drive at the front of a segment, and what follows it: a character that does not
count parts the two as a slash would. -/
def driveBreak? (segment : List Char) : Option (List Char × List Char) :=
  let (front, back) := splitFirst (· == ':') segment
  let drive := compact front ++ [':']
  if isDrive drive && back.head?.any isSkipped && !(compact back).isEmpty then
    some (drive, compact back)
  else none

/-- The segments of a path, the last one first, with one more. A double dot takes the segment before
it away, unless that is the letter of a drive. At the front of a file's path such a letter may run
into the segment behind it (`driveBreak?`), whose dots are then no longer looked at. -/
def pushSegment (s : Scheme) (kept : List (List Char)) (segment : List Char) : List (List Char) :=
  match if s == .file && kept.isEmpty then driveBreak? segment else none with
  | some (drive, rest) => [rest, drive]
  | none =>
    match dots? (compact segment) with
    | none => compact segment :: kept
    | some up => if kept.head?.any isDrive then kept else kept.drop up

/-- A path without dots for segments. Behind dots at its end a path still ends in a slash. -/
def resolveDots (s : Scheme) (segments : List (List Char)) : List (List Char) :=
  (segments.foldl (pushSegment s) []).reverse ++
    (if segments.getLast?.any fun segment => (dots? (compact segment)).isSome then [[]] else [])

/-- The segments of a path, put together with slashes. -/
def joinPath (segments : List (List Char)) : List Char :=
  (segments.intersperse ['/']).flatten

/-- What follows the slash at the front of a text. -/
def afterSlash? (s : Scheme) (cs : List Char) : Option (List Char) :=
  match cs.dropWhile isSkipped with
  | c :: rest => if s.isSlash c then some rest else none
  | [] => none

/-- The path and the query of what follows the host. -/
def withPath (u : Url) (s : Scheme) (cs : List Char) : Url :=
  let (path, query) := splitFirst (· == '?') (cs.takeWhile (· != '#'))
  let segments := resolveDots s (splitAll s.isSlash ((afterSlash? s path).getD path))
  { u with path := (joinPath segments).dropWhile (· == '/'), query := compact query }

/-- The path and the query of a URL without a host whose path starts with no slash. -/
def withOpaquePath (u : Url) (cs : List Char) : Url :=
  let (path, query) := splitFirst (· == '?') (cs.takeWhile (· != '#'))
  { u with path, query }

/-- The part of a text before the last `@`, if there is one, and the part behind it. -/
def splitUser (cs : List Char) : Option (List Char × List Char) :=
  let back := cs.reverse
  if cs.contains '@' then
    some ((back.dropWhile (· != '@')).tail.reverse, (back.takeWhile (· != '@')).reverse)
  else none

/-- The host at the front and what follows it: a colon ends it, except within brackets. -/
def splitHost (inside : Bool) : List Char → List Char × List Char
  | [] => ([], [])
  | c :: cs =>
    if c == ':' && !inside then ([], c :: cs)
    else
      let (host, rest) := splitHost (c == '[' || (inside && c != ']')) cs
      (c :: host, rest)

/-- The host and the port of a URL in which `named` says that a user is named. A port needs a host
in front of it, and so does a user. -/
def checkHost (s : Scheme) (named : Bool) (host port : List Char) : Except UrlFault Unit := do
  let fault := if s == .other then Host.plainFault? host else Host.webFault? host
  if let some cause := fault then throw (.host cause)
  if host.isEmpty && !port.isEmpty then throw (.host .empty)
  if (port.drop 1).any (!·.isDigit) || 65536 ≤ (natural? (port.drop 1)).getD 0 then throw .port
  if host.isEmpty && named then throw (.host .empty)

/-- A URL from behind its two slashes on. -/
def ofAuthority (s : Scheme) (cs : List Char) : Except UrlFault Url := do
  let front := cs.takeWhile fun c => !s.isEnd c
  let rest := cs.dropWhile fun c => !s.isEnd c
  let (account, place) := (splitUser front).getD ([], front)
  if front.contains '@' && account.isEmpty && place.isEmpty && !rest.isEmpty then
    throw (.host .empty)
  let (user, password) := splitFirst (· == ':') account
  let (host, port) := splitHost false place
  let (digits, behind) := (port.takeWhile (· != '\\'), port.dropWhile (· != '\\'))
  checkHost s (!user.isEmpty || !password.isEmpty) host digits
  return withPath { user, password, host } s (behind ++ rest)

/-- The URL of a file, from behind its colon on. -/
def ofFile (cs : List Char) : Except UrlFault Url := do
  match (afterSlash? .file cs).bind (afterSlash? .file) with
  | none => return withPath {} .file cs
  | some rest =>
    let place := rest.takeWhile fun c => !Scheme.file.isEnd c
    let host := compact place
    if host.isEmpty || isDrive host then return withPath {} .file rest
    if let some cause := Host.webFault? host then throw (.host cause)
    return withPath { host } .file (rest.drop place.length)

/-- Takes a URL apart. -/
def ofText? (text : String) : Except UrlFault Url :=
  match splitScheme (tidy text.toList) with
  | none => .error .noScheme
  | some (.file, cs) => ofFile cs
  | some (.web, cs) => ofAuthority .web ((compact cs).dropWhile Scheme.web.isSlash)
  | some (.other, cs) =>
    match compact cs with
    | '/' :: '/' :: rest => ofAuthority .other rest
    | '/' :: rest => .ok (withPath {} .other rest)
    | rest => .ok (withOpaquePath {} rest)

end Url

end BackOffice
