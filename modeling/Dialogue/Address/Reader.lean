import Dialogue.Address.Basic
import Dialogue.Text.Blank
import Dialogue.Text.Decimal

/-!
# Reading addresses

`Address.read` takes a text for an address as browsers do. It passes over blanks at
the ends and over line ends and tabs anywhere, takes letters in the scheme and in
domain names as they are in lower case, leaves out a port that goes without saying,
resolves the dots of paths, and escapes what an address cannot hold.
-/

namespace Dialogue.Address

/-! ## Cleaning -/

/-- The text without control characters and spaces at the ends, and without line ends
and tabs. -/
def clean (s : Text) : Text :=
  (Text.dropEndWhile (· ≤ ' ') (s.dropWhile (· ≤ ' '))).filter
    fun c => c ≠ '\t' ∧ c ≠ '\n' ∧ c ≠ '\r'

/-! ## Schemes -/

/-- The characters of a scheme after its first letter. -/
def isSchemeChar (c : Char) : Bool :=
  c.isAlphanum || c == '+' || c == '-' || c == '.'

/-- The scheme of an address, in lower case, and what follows its colon. -/
def splitScheme? (s : Text) : Option (Text × Text) :=
  if s.head?.any Char.isAlpha then
    match s.dropWhile isSchemeChar with
    | ':' :: rest => some ((s.takeWhile isSchemeChar).map Char.toLower, rest)
    | _ => none
  else none

/-! ## Authorities -/

/-- Before and behind the last at sign, if there is one. -/
def splitLastAt? (s : Text) : Option (Text × Text) :=
  match s.reverse.dropWhile (· != '@') with
  | [] => none
  | _ :: before => some (before.reverse, (s.reverse.takeWhile (· != '@')).reverse)

/-- The user name and the password of a text, a colon between them. -/
def readCredentials (s : Text) : Text × Text :=
  let encode := Percent.encode Percent.inUserInfo
  (encode (s.takeWhile (· != ':')), encode ((s.dropWhile (· != ':')).drop 1))

/-- The text of a host, and what follows it: a colon ends a host where no bracket is
open. -/
def spanHost (kind : SchemeKind) (bracketed : Bool) : Text → Text × Text
  | [] => ([], [])
  | c :: rest =>
    if kind.isEnd c || (c == ':' && !bracketed) then ([], c :: rest)
    else
      let (host, behind) := spanHost kind (c == '[' || (bracketed && c != ']')) rest
      (c :: host, behind)

/-- The port of a text that begins with it, and what follows. -/
def readPort (scheme : Text) (s : Text) : Except AddressFault (Option Nat × Text) :=
  let (digits, rest) := Text.spanDigits s
  let port := Text.toNat digits
  if 65535 < port then .error .port
  else if rest.head?.any (fun c => !("/\\?#".toList.contains c)) then .error .port
  else if digits = [] ∨ standardPort? scheme = some port then .ok (none, rest)
  else .ok (some port, rest)

/-- The port of a text that may begin with a colon and a port. -/
def readOptionalPort (scheme : Text) : Text → Except AddressFault (Option Nat × Text)
  | ':' :: rest => readPort scheme rest
  | rest => .ok (none, rest)

/-- The host of a scheme that has one. -/
def readHost (kind : SchemeKind) (text : Text) : Except AddressFault Host :=
  match kind with
  | .other => Host.readOpaque text
  | _ => if text = [] then .error .emptyHost else Host.readDomain text

/-- The authority of a text that begins with it, and what follows. -/
def readAuthority (scheme : Text) (kind : SchemeKind) (s : Text) :
    Except AddressFault (Authority × Text) := do
  let text := s.takeWhile (!kind.isEnd ·)
  let after := s.dropWhile (!kind.isEnd ·)
  let (written, rest) := (splitLastAt? text).getD ([], text)
  if splitLastAt? text = some ([], []) ∧ after ≠ [] then throw .emptyHost
  let (username, password) := readCredentials written
  let (hostText, rest) := spanHost kind false (rest ++ after)
  let host ← readHost kind hostText
  if host = .name [] ∧ rest.head? = some ':' then throw .emptyHost
  let (port, rest) ← readOptionalPort scheme rest
  if host = .name [] ∧ (username ≠ [] ∨ password ≠ []) then throw .emptyHost
  return (⟨username, password, host, port⟩, rest)

/-! ## Queries and fragments -/

/-- The query and the fragment of a text that begins with them. -/
def readTail (kind : SchemeKind) (s : Text) : Option Text × Option Text :=
  let query := s.takeWhile (· != '#')
  (match query with
    | '?' :: query => some (Percent.encode kind.inQuery query)
    | _ => none,
   match s.dropWhile (· != '#') with
    | '#' :: fragment => some (Percent.encode Percent.inFragment fragment)
    | _ => none)

/-- Whether a character ends a path. -/
def endsPath (c : Char) : Bool :=
  c == '?' || c == '#'

/-- The address with a path and the query and fragment of the text behind it. -/
def withPath (scheme : Text) (kind : SchemeKind) (authority : Option Authority)
    (read : Text → AddressPath) (s : Text) : Address :=
  let tail := readTail kind (s.dropWhile (!endsPath ·))
  ⟨scheme, authority, read (s.takeWhile (!endsPath ·)), tail.1, tail.2⟩

/-! ## Paths by the kind of scheme -/

/-- The path behind an authority. It may be empty only where the scheme does not ask
for a host. -/
def pathBehindAuthority (kind : SchemeKind) : Text → AddressPath
  | [] => .segments (if kind = .other then [] else [[]])
  | c :: rest =>
    .segments <|
      AddressPath.readSegments kind.isSlash (if kind.isSlash c then rest else c :: rest)

/-- A path where there is no authority. -/
def pathAlone : Text → AddressPath
  | '/' :: rest => .segments (AddressPath.readSegments (· == '/') rest)
  | text => .plain (Percent.encode Percent.isControl text)

/-- The address behind the two slashes of a scheme. -/
def readHosted (scheme : Text) (kind : SchemeKind) (s : Text) :
    Except AddressFault Address := do
  let (authority, rest) ← readAuthority scheme kind s
  return withPath scheme kind (some authority) (pathBehindAuthority kind) rest

/-! ## Files -/

/-- The host that holds files, with no name for this one. -/
def readFileHost (text : Text) : Except AddressFault Host := do
  if text = [] then return .name []
  let host ← Host.readDomain text
  return if host = .name "localhost".toList then .name [] else host

/-- The address of a file on a host. A path that names a drive is on no other host. -/
def fileAddress (host : Host) (s : Text) : Address :=
  let read := fun text => AddressPath.readSegments SchemeKind.file.isSlash text
  let onDrive := (read (s.takeWhile (!endsPath ·))).any AddressPath.isDrive
  let authority : Authority := ⟨[], [], if onDrive then .name [] else host, none⟩
  withPath "file".toList .file (some authority)
    (fun text => .segments (AddressPath.fileSegments (read text))) s

/-- The address of a file, from behind the colon of its scheme. -/
def readFile (s : Text) : Except AddressFault Address := do
  let isSlash := SchemeKind.file.isSlash
  match s with
  | a :: b :: rest =>
    if isSlash a && isSlash b then
      let text := rest.takeWhile (!SchemeKind.file.isEnd ·)
      if AddressPath.isDrive text then return fileAddress (.name []) rest
      let host ← readFileHost text
      return fileAddress host (rest.dropWhile (!SchemeKind.file.isEnd ·))
    else return fileAddress (.name []) s
  | _ => return fileAddress (.name []) s

/-! ## Addresses -/

/-- Reads an address. -/
def read (written : Text) : Except AddressFault Address :=
  match splitScheme? (clean written) with
  | none => .error .noScheme
  | some (scheme, rest) =>
    match SchemeKind.ofScheme scheme with
    | .hosted => readHosted scheme .hosted (rest.dropWhile SchemeKind.hosted.isSlash)
    | .file => readFile rest
    | .other =>
      match Text.after? "//".toList rest with
      | some rest => readHosted scheme .other rest
      | none => .ok (withPath scheme .other none pathAlone rest)

end Dialogue.Address
