import Dialogue.Address.Percent

/-!
# Paths of addresses

A path is a list of segments with a slash before each, or a text of any other kind.
Reading one goes through the segments from left to right: a dot stays where it is, two
dots take the last segment back, and dots at the end leave an empty segment. `resolve`
does that; two dots do not take back the name of a drive, a letter with a colon or a
bar.
-/

namespace Dialogue

/-- The path of an address. -/
inductive AddressPath where
  | segments (list : List Text)
  | plain (text : Text)
  deriving DecidableEq, Repr

namespace AddressPath

/-! ## Segments -/

/-- A segment that stays where it is; its dot may be escaped. -/
def isDot (segment : Text) : Bool :=
  [".", "%2e"].any (·.toList = segment.map Char.toLower)

/-- A segment that takes the last one back; its dots may be escaped. -/
def isDoubleDot (segment : Text) : Bool :=
  ["..", ".%2e", "%2e.", "%2e%2e"].any (·.toList = segment.map Char.toLower)

/-- The name of a drive. -/
def isDrive : Text → Bool
  | [letter, mark] => letter.isAlpha && (mark == ':' || mark == '|')
  | _ => false

/-- The one way to write the name of a drive. -/
def colonDrive (segment : Text) : Text :=
  if isDrive segment then segment.take 1 ++ [':'] else segment

/-! ## Resolution -/

/-- The segments, the nearest first, without the last unless it names a drive. -/
def takeBack : List Text → List Text
  | [] => []
  | last :: before => if isDrive last then last :: before else before

/-- Goes through segments after those that are done, the nearest first. -/
def resolveFrom (done : List Text) : List Text → List Text
  | [] => done.reverse
  | segment :: rest =>
    let stop := fun (done : List Text) => if rest = [] then [] :: done else done
    if isDoubleDot segment then resolveFrom (stop (takeBack done)) rest
    else if isDot segment then resolveFrom (stop done) rest
    else resolveFrom (segment :: done) rest

/-- The segments without dots. -/
def resolve (segments : List Text) : List Text :=
  resolveFrom [] segments

/-! ## Reading and writing -/

/-- The segments of a text behind its first slash, escaped and without dots. -/
def readSegments (isSlash : Char → Bool) (s : Text) : List Text :=
  resolve ((Text.fields isSlash s).map (Percent.encode Percent.inPath))

/-- The segments of the path of a file: drives are written in one way, and the first
segment, if it is not the only one, is not empty. -/
def fileSegments (segments : List Text) : List Text :=
  match (segments.map colonDrive).dropWhile (· = []) with
  | [] => [[]]
  | rest => rest

/-- The text of a path. -/
def print : AddressPath → Text
  | segments list => list.flatMap ('/' :: ·)
  | plain text => text

end AddressPath

end Dialogue
