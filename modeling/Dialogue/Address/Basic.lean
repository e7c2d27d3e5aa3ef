import Dialogue.Address.Host
import Dialogue.Address.Path

/-!
# Addresses

An address names something on a network: a scheme, then, behind two slashes, who has
it, then the way to it there, and at the end, if they are needed, a query and a
fragment. `Address.print` gives the text of an address whose parts are already escaped.
-/

namespace Dialogue

/-! ## Schemes -/

/-- What a scheme lets an address be. -/
inductive SchemeKind where
  /-- There always is a host, and a backslash is a slash. -/
  | hosted
  /-- As for `hosted`, but the host may be missing. -/
  | file
  | other
  deriving DecidableEq, Repr

/-- The port that goes without saying. -/
def standardPort? (scheme : Text) : Option Nat :=
  if scheme = "http".toList ∨ scheme = "ws".toList then some 80
  else if scheme = "https".toList ∨ scheme = "wss".toList then some 443
  else if scheme = "ftp".toList then some 21
  else none

/-- The kind of a scheme. -/
def SchemeKind.ofScheme (scheme : Text) : SchemeKind :=
  if scheme = "file".toList then .file
  else if (standardPort? scheme).isSome then .hosted
  else .other

namespace SchemeKind

/-- Whether a character is a slash. -/
def isSlash : SchemeKind → Char → Bool
  | other, c => c == '/'
  | _, c => c == '/' || c == '\\'

/-- Whether a character ends what stands behind the two slashes. -/
def isEnd (kind : SchemeKind) (c : Char) : Bool :=
  kind.isSlash c || c == '?' || c == '#'

/-- The characters that a query escapes. -/
def inQuery : SchemeKind → Char → Bool
  | other => Percent.inQuery
  | _ => Percent.inHostedQuery

end SchemeKind

/-! ## Addresses -/

/-- Who has what an address names. Empty user names and passwords are none. -/
structure Authority where
  username : Text
  password : Text
  host : Host
  port : Option Nat
  deriving DecidableEq, Repr

/-- Behind the two slashes. -/
def Authority.print (a : Authority) : Text :=
  (if a.username = [] ∧ a.password = [] then []
    else a.username ++ (if a.password = [] then [] else ':' :: a.password) ++ ['@']) ++
  a.host.print ++
  (match a.port with
    | some port => ':' :: Nat.toDigits 10 port
    | none => [])

/-- The name of something on a network. -/
structure Address where
  scheme : Text
  authority : Option Authority
  path : AddressPath
  query : Option Text
  fragment : Option Text
  deriving DecidableEq, Repr

namespace Address

/-- The path with what is before it. A path that begins with two slashes would be
taken for an authority, so a dot is put before it where there is none. -/
def printWay (authority : Option Authority) (path : AddressPath) : Text :=
  match authority, path.print with
  | some a, way => "//".toList ++ a.print ++ way
  | none, '/' :: '/' :: rest => "/.//".toList ++ rest
  | none, way => way

/-- A part that is only there if it is given. -/
def printOptional (mark : Char) : Option Text → Text
  | some part => mark :: part
  | none => []

/-- The text of an address. -/
def print (a : Address) : Text :=
  a.scheme ++ ':' :: printWay a.authority a.path ++ printOptional '?' a.query ++
    printOptional '#' a.fragment

/-- The address without user name and password. Both stay if the user name is no text
once its escapes are undone, or if there is only a password and that is none. -/
def withoutCredentials (a : Address) : Address :=
  match a.authority with
  | none => a
  | some authority =>
    let isText := fun s => (Utf8.decode (Percent.decode s)).toOption.isSome
    if isText authority.username &&
        (authority.username ≠ [] || isText authority.password) then
      { a with authority := some { authority with username := [], password := [] } }
    else a

end Address

end Dialogue
