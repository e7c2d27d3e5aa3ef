import Dialogue.Address.Percent
import Dialogue.Domain.Ascii

/-!
# Hosts

The host of an address is a name or a number. `Host.readDomain` takes it as most
schemes of the web do: a domain name in any script, an address of the old Internet in
one to four numbers, or one of the new in brackets. `Host.readOpaque` leaves names as
they are. `Host.print` writes numbers in their only short form.
-/

namespace Dialogue

/-- Why a text is no address. -/
inductive AddressFault where
  | noScheme
  | emptyHost
  | domainName
  | hostCharacter
  | ipv4
  | ipv6
  | port
  deriving DecidableEq, Repr

/-- The sentence for a fault. -/
def AddressFault.message : AddressFault → Text
  | .noScheme => "relative URL without a base".toList
  | .emptyHost => "empty host".toList
  | .domainName => "invalid international domain name".toList
  | .hostCharacter => "invalid domain character".toList
  | .ipv4 => "invalid IPv4 address".toList
  | .ipv6 => "invalid IPv6 address".toList
  | .port => "invalid port number".toList

/-- The host of an address. -/
inductive Host where
  /-- A name; the empty one stands for no host. -/
  | name (text : Text)
  | ipv4 (value : Nat)
  /-- Eight groups of sixteen bits. -/
  | ipv6 (groups : List Nat)
  deriving DecidableEq, Repr

namespace Host

/-! ## Numbers of 32 bits -/

/-- The value of digits in a base, if they all are digits of it. -/
def valueIn? (base : Nat) (digits : Text) : Option Nat :=
  digits.foldlM (fun sum c =>
    (Percent.digitValue? c).bind fun d =>
      if d < base then some (sum * base + d) else none) 0

/-- A number that may be octal, by a zero in front, or hexadecimal, by a zero and an
x. A bare sign of the base counts as zero. -/
def number? : Text → Option Nat
  | [] => none
  | '0' :: 'x' :: digits => valueIn? 16 digits
  | '0' :: 'X' :: digits => valueIn? 16 digits
  | ['0'] => some 0
  | '0' :: digits => valueIn? 8 digits
  | digits => valueIn? 10 digits

/-- The parts of a name between its dots, without the empty one behind a last dot. -/
def parts (name : Text) : List Text :=
  let all := Text.fields (· == '.') name
  if all.getLast? = some [] then all.dropLast else all

/-- Whether the last part of a name is a number, or would be if all digits were
allowed. -/
def endsInNumber (name : Text) : Bool :=
  match (parts name).getLast? with
  | none => false
  | some [] => false
  | some part => part.all Char.isDigit || (number? part).isSome

/-- The number of 256 digits in base 256 that are given, the greatest first, and a
last one that fills the places left. -/
def joinNumbers (leading : List Nat) (last : Nat) : Option Nat :=
  let places := 4 - leading.length
  if leading.length ≤ 3 ∧ leading.all (· < 256) ∧ last < Nat.pow 256 places then
    some ((leading.foldl (fun sum n => sum * 256 + n) 0) * Nat.pow 256 places + last)
  else none

/-- The number that a name in one to four parts is. -/
def ipv4? (name : Text) : Option Nat := do
  let numbers ← (parts name).mapM number?
  joinNumbers numbers.dropLast (← numbers.getLast?)

/-- Four decimal numbers and the dots between them. -/
def printIpv4 (value : Nat) : Text :=
  List.intercalate ['.'] <|
    [value / 0x1000000, value / 0x10000 % 256, value / 256 % 256, value % 256].map
      (Nat.toDigits 10)

/-! ## Numbers of 128 bits -/

/-- A group: one to four hexadecimal digits. -/
def group? (digits : Text) : Option Nat :=
  if digits = [] ∨ 4 < digits.length then none else valueIn? 16 digits

/-- A decimal number below 256 without leading zeros. -/
def octet? (digits : Text) : Option Nat :=
  if digits = [] ∨ 3 < digits.length ∨ (1 < digits.length ∧ digits.head? = some '0')
  then none
  else (valueIn? 10 digits).bind fun n => if n < 256 then some n else none

/-- The two groups of four octets. -/
def dottedGroups? (text : Text) : Option (List Nat) :=
  match (Text.fields (· == '.') text).mapM octet? with
  | some [a, b, c, d] => some [a * 256 + b, c * 256 + d]
  | _ => none

/-- The groups between colons; the last two may be written as octets where that is
allowed. -/
def groupsFrom? (dotted : Bool) : List Text → Option (List Nat)
  | [] => some []
  | [text] =>
    if dotted && text.contains '.' then dottedGroups? text
    else (group? text).map ([·])
  | text :: rest => do return (← group? text) :: (← groupsFrom? dotted rest)

/-- The groups of a text, which has none if it is empty. -/
def groups? (dotted : Bool) (text : Text) : Option (List Nat) :=
  if text = [] then some [] else groupsFrom? dotted (Text.fields (· == ':') text)

/-- What stands before and behind the first two colons side by side. -/
def splitGap? : Text → Option (Text × Text)
  | ':' :: ':' :: rest => some ([], rest)
  | c :: rest => (splitGap? rest).map fun (before, behind) => (c :: before, behind)
  | [] => none

/-- The eight groups of a text. Two colons side by side stand for one zero group or
more. -/
def ipv6? (text : Text) : Option (List Nat) :=
  match splitGap? text with
  | none => do
    let groups ← groups? true text
    if groups.length = 8 then return groups else none
  | some (before, behind) => do
    let first ← groups? false before
    let last ← groups? true behind
    let given := first.length + last.length
    if given ≤ 7 then return first ++ List.replicate (8 - given) 0 ++ last else none

/-- Where the longest run of two or more zeros begins, and its length; of equal runs
the first. -/
def longestGap (groups : List Nat) : Nat × Nat :=
  let runs := (List.range groups.length).map fun i =>
    (i, ((groups.drop i).takeWhile (· == 0)).length)
  runs.foldl (fun best run => if best.2 < run.2 then run else best) (0, 1)

/-- Groups in hexadecimal digits and the colons between them. -/
def printGroups (groups : List Nat) : Text :=
  List.intercalate [':'] (groups.map (Nat.toDigits 16))

/-- Eight groups, two colons in the place of the longest run of zeros. -/
def printIpv6 (groups : List Nat) : Text :=
  let (start, length) := longestGap groups
  if length < 2 then printGroups groups
  else
    printGroups (groups.take start) ++ "::".toList ++
      printGroups (groups.drop (start + length))

/-! ## Reading and writing -/

/-- A number in brackets. -/
def readBracketed (text : Text) : Except AddressFault Host :=
  if text.getLast? = some ']' then
    match ipv6? text.dropLast with
    | some groups => .ok (.ipv6 groups)
    | none => .error .ipv6
  else .error .ipv6

/-- A domain name in ASCII, or the number that it is. -/
def ofDomain (domain : Text) : Except AddressFault Host :=
  if domain = [] then .error .emptyHost
  else if endsInNumber domain then
    match ipv4? domain with
    | some value => .ok (.ipv4 value)
    | none => .error .ipv4
  else .ok (.name domain)

/-- A host that is a domain name, its escapes undone, or a number. -/
def readDomain : Text → Except AddressFault Host
  | '[' :: rest => readBracketed rest
  | text =>
    match Utf8.decode (Percent.decode text) with
    | .error _ => .error .domainName
    | .ok written =>
      match Domain.ascii? written with
      | none => .error .domainName
      | some domain => ofDomain domain

/-- The characters that no host holds. -/
def isForbidden (c : Char) : Bool :=
  "\x00\t\n\r #/:<>?@[\\]^|".toList.contains c

/-- A host that is a name of any kind, or a number in brackets. -/
def readOpaque : Text → Except AddressFault Host
  | '[' :: rest => readBracketed rest
  | text =>
    if text.any isForbidden then .error .hostCharacter
    else .ok (.name (Percent.encode Percent.isControl text))

/-- The text of a host. -/
def print : Host → Text
  | name text => text
  | ipv4 value => printIpv4 value
  | ipv6 groups => '[' :: printIpv6 groups ++ [']']

end Host

end Dialogue
