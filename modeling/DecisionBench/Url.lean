import DecisionBench.Url.Host
import DecisionBench.Url.Path

/-!
# URLs

A URL is a scheme and, behind two slashes, credentials, a host and a port, and then a path; a query
and a fragment may follow and are of no interest here.  `Url.parse` reads one by the rules of the
web's URL standard.
-/

namespace DecisionBench

/-- The parts of a URL.  User name, password and path are percent coded. -/
structure Url where
  scheme : List Char
  username : List Char
  password : Option (List Char)
  host : Option (List Char)
  port : Option Nat
  path : List Char
  deriving DecidableEq, Repr

namespace Url

/-- The schemes of the web with their ports. -/
def webSchemes : List (String × Nat) :=
  [("http", 80), ("https", 443), ("ws", 80), ("wss", 443), ("ftp", 21)]

/-- The port of a scheme of the web, or nothing for any other scheme. -/
def webPort? (scheme : List Char) : Option Nat :=
  (webSchemes.find? fun entry => entry.1.toList == scheme).map (·.2)

/-- A text without the controls and spaces at its ends, and without line ends and tabs anywhere. -/
def cleaned (text : List Char) : List Char :=
  let isEdge (c : Char) : Bool := c.toNat ≤ 0x20
  let inner := ((text.dropWhile isEdge).reverse.dropWhile isEdge).reverse
  inner.filter fun c => c != '\t' && c != '\n' && c != '\r'

/-- A character of a scheme, in lower case. -/
def schemeChar? (c : Char) : Option Char :=
  if c.isAlphanum || c == '+' || c == '-' || c == '.' then some c.toLower else none

/-- The characters of a scheme up to its colon, and what follows the colon. -/
def schemeRest? : List Char → Option (List Char × List Char)
  | [] => none
  | ':' :: rest => some ([], rest)
  | c :: rest =>
    match schemeChar? c, schemeRest? rest with
    | some lower, some (scheme, after) => some (lower :: scheme, after)
    | _, _ => none

def scheme? (text : List Char) : Option (List Char × List Char) :=
  match text with
  | c :: _ => if c.isAlpha then schemeRest? text else none
  | [] => none

/-- Cuts a text at its last character that is `mark`, which belongs to neither part. -/
def cutAtLast? (mark : Char) : List Char → Option (List Char × List Char)
  | [] => none
  | c :: rest =>
    match cutAtLast? mark rest with
    | some (before, after) => some (c :: before, after)
    | none => if c = mark then some ([], rest) else none

/-- Cuts a text at its first character that is `mark`, which belongs to neither part. -/
def cutAtFirst? (mark : Char) : List Char → Option (List Char × List Char)
  | [] => none
  | c :: rest =>
    if c = mark then some ([], rest)
    else (cutAtFirst? mark rest).map fun (before, after) => (c :: before, after)

/-- User name and password, percent coded.  A password that is empty counts as none. -/
def credentials (text : List Char) : List Char × Option (List Char) :=
  let encode := Percent.encode Percent.isCredentialCoded
  match cutAtFirst? ':' text with
  | some (user, []) => (encode user, none)
  | some (user, password) => (encode user, some (encode password))
  | none => (encode text, none)

/-- The host at the front of a text, up to a colon outside brackets, and what follows it. -/
def hostSpan (inBrackets : Bool) : List Char → List Char × List Char
  | [] => ([], [])
  | c :: rest =>
    if c = ':' ∧ !inBrackets then ([], c :: rest)
    else
      let (host, after) :=
        hostSpan (if c = '[' then true else if c = ']' then false else inBrackets) rest
      (c :: host, after)

/-- The digits of a port, up to a backslash or the end of the text; with what follows. -/
def portDigits : Nat → Bool → List Char → Except Malformed (Option Nat × List Char)
  | value, any, [] => .ok (if any then some value else none, [])
  | value, any, c :: rest =>
    match Numeral.digit? c with
    | some d =>
      if 65535 < 10 * value + d then .error .invalidPort
      else portDigits (10 * value + d) true rest
    | none =>
      if c = '\\' then .ok (if any then some value else none, c :: rest)
      else .error .invalidPort

/-- What may follow a host: a port, and a rest that belongs to the path. -/
def portAfterHost (standard : Option Nat) : List Char → Except Malformed (Option Nat × List Char)
  | ':' :: rest =>
    match portDigits 0 false rest with
    | .ok (number, after) => .ok (if number = standard then none else number, after)
    | .error cause => .error cause
  | rest => .ok (none, rest)

def endsAuthority (isWeb : Bool) (c : Char) : Bool :=
  c == '/' || c == '?' || c == '#' || (isWeb && c == '\\')

/-- The path behind an authority.  It starts with a slash if it is there at all; a URL of the web
always has one. -/
def pathAfter (isWeb : Bool) (text : List Char) : List Char :=
  let isSlash (c : Char) : Bool := c == '/' || (isWeb && c == '\\')
  match text with
  | [] => if isWeb then ['/'] else []
  | c :: rest =>
    if isWeb then (addPath isSlash ['/'] [] (if isSlash c then rest else c :: rest)).reverse
    else if endsPath c then []
    else if isSlash c then (addPath isSlash [] [] (c :: rest)).reverse
    else (addPath isSlash ['/'] [] (c :: rest)).reverse

/-- A URL from behind its two slashes on. -/
def parseAuthority (scheme : List Char) (text : List Char) : Except Malformed Url := do
  let standard := webPort? scheme
  let isWeb := standard.isSome
  let authority := text.takeWhile (!endsAuthority isWeb ·)
  let afterAuthority := text.dropWhile (!endsAuthority isWeb ·)
  let (login, hostText) ← match cutAtLast? '@' authority with
    | none => pure ([], authority)
    | some ([], rest) =>
      if rest.isEmpty ∧ !afterAuthority.isEmpty then throw Malformed.emptyHost
      else pure ([], rest)
    | some (login, rest) => pure (login, rest)
  let (username, password) := credentials login
  let (hostWritten, afterHost) := hostSpan false hostText
  if isWeb && hostWritten.isEmpty then throw Malformed.emptyHost
  let host ← if isWeb then webHost hostWritten else opaqueHost hostWritten
  if host.isEmpty && !afterHost.isEmpty then throw Malformed.emptyHost
  let (number, rest) ← portAfterHost standard afterHost
  if host.isEmpty && (!username.isEmpty || password.isSome) then throw Malformed.emptyHost
  return { scheme, username, password,
           host := if host.isEmpty then none else some host
           port := number
           path := pathAfter isWeb (rest ++ afterAuthority) }

/-- A URL without an authority. -/
def parsePlain (scheme : List Char) (text : List Char) : Url :=
  let path := match text with
    | '/' :: rest => (addPath (· == '/') ['/'] [] rest).reverse
    | _ => Percent.encode Percent.isControl (text.takeWhile (!endsPath ·))
  { scheme, username := [], password := none, host := none, port := none, path }

/-- A URL of a file: a host may stand behind two slashes. -/
def parseFile (text : List Char) : Except Malformed Url :=
  let isSlash (c : Char) : Bool := c == '/' || c == '\\'
  let path (rest : List Char) : List Char :=
    (addPath isSlash ['/'] [] (match rest with
      | c :: more => if isSlash c then more else c :: more
      | [] => [])).reverse
  let plain (rest : List Char) : Url :=
    ⟨"file".toList, [], none, none, none, path rest⟩
  match text with
  | a :: b :: rest =>
    if isSlash a && isSlash b then
      let host := rest.takeWhile (!endsAuthority true ·)
      if host.isEmpty || startsWithDrive ('/' :: host) then .ok (plain rest)
      else
        match webHost host with
        | .ok name =>
          .ok { plain (rest.dropWhile (!endsAuthority true ·)) with
                host := if name = "localhost".toList then none else some name }
        | .error cause => .error cause
    else .ok (plain text)
  | _ => .ok (plain text)

def parse (text : String) : Except Malformed Url :=
  match scheme? (cleaned text.toList) with
  | none => .error .noBase
  | some (scheme, rest) =>
    if scheme = "file".toList then parseFile rest
    else if (webPort? scheme).isSome then
      parseAuthority scheme (rest.dropWhile fun c => c == '/' || c == '\\')
    else
      match rest with
      | '/' :: '/' :: rest => parseAuthority scheme rest
      | _ => .ok (parsePlain scheme rest)

end Url

end DecisionBench
