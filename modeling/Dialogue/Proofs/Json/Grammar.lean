import Dialogue.Json.Token
import Mathlib.Data.List.Forall2

/-!
# How JSON is written

A value can be written in many ways. This file says which texts write one, without a word about
how they are read: blanks may stand around every value and key (`Padded`), a character of a text
may be escaped (`SpellsChar`), and an object lists its members in any order. `IsValue` are all
texts of the JSON grammar, whatever they stand for.
-/

namespace Dialogue.Json

variable {α : Type}

/-! ## Blanks and commas -/

/-- Nothing but blanks. -/
def Blanks (s : Text) : Prop :=
  ∀ c ∈ s, isBlank c = true

/-- A value or a key, with blanks around it. -/
def Padded (core s : Text) : Prop :=
  ∃ front back, Blanks front ∧ Blanks back ∧ s = front ++ (core ++ back)

/-- A member of an object: its key, a colon and its value. -/
def Labelled (entry : Text × Text) (s : Text) : Prop :=
  ∃ key value, Padded entry.1 key ∧ Padded entry.2 value ∧ s = key ++ ':' :: value

/-- Parts with commas between them. -/
inductive Commas (part : α → Text → Prop) : List α → Text → Prop where
  | last {a : α} {s : Text} (h : part a s) : Commas part [a] s
  | cons {a : α} {s : Text} {as : List α} {t : Text} (h : part a s) (hrest : Commas part as t) :
      Commas part (a :: as) (s ++ ',' :: t)

/-- What stands between two brackets: parts with commas between them, or blanks. -/
inductive Inside (part : α → Text → Prop) : List α → Text → Prop where
  | empty {gap : Text} (hgap : Blanks gap) : Inside part [] gap
  | parts {as : List α} {s : Text} (h : Commas part as s) : Inside part as s

/-- A list whose items are written so. -/
def IsList (items : List Text) (t : Text) : Prop :=
  ∃ s, Inside Padded items s ∧ t = '[' :: (s ++ [']'])

/-- An object whose keys and values are written so. -/
def IsObject (entries : List (Text × Text)) (t : Text) : Prop :=
  ∃ s, Inside Labelled entries s ∧ t = '{' :: (s ++ ['}'])

/-! ## Texts -/

/-- The letters of the short escapes, with what they stand for. -/
def shortEscapes : List (Char × Char) :=
  [('"', '"'), ('\\', '\\'), ('/', '/'), ('b', '\x08'), ('f', '\x0c'), ('n', '\n'), ('r', '\r'),
    ('t', '\t')]

/-- A hexadecimal digit, of either case. -/
def SpellsDigit (n : Nat) (c : Char) : Prop :=
  n < 16 ∧ (c = n.digitChar ∨ c = n.digitChar.toUpper)

/-- Four hexadecimal digits. -/
def SpellsHex (n : Nat) (s : Text) : Prop :=
  ∃ a b c d a' b' c' d', SpellsDigit a a' ∧ SpellsDigit b b' ∧ SpellsDigit c c' ∧
    SpellsDigit d d' ∧ n = ((a * 16 + b) * 16 + c) * 16 + d ∧ s = [a', b', c', d']

/-- A character inside quotes: as itself, behind a backslash, by its number, or as a pair of
surrogates. -/
inductive SpellsChar : Char → Text → Prop where
  | plain {c : Char} (hquote : c ≠ '"') (hslash : c ≠ '\\') (hcontrol : 0x20 ≤ c.toNat) :
      SpellsChar c [c]
  | short {letter c : Char} (h : (letter, c) ∈ shortEscapes) : SpellsChar c ['\\', letter]
  | hex {c : Char} {digits : Text} (h : SpellsHex c.toNat digits) :
      SpellsChar c ('\\' :: 'u' :: digits)
  | pair {c : Char} {leading trailing : Nat} {digits digits' : Text}
      (hdigits : SpellsHex leading digits) (hdigits' : SpellsHex trailing digits')
      (hleading : 0xD800 ≤ leading ∧ leading ≤ 0xDBFF)
      (htrailing : 0xDC00 ≤ trailing ∧ trailing ≤ 0xDFFF)
      (hc : c.toNat = 0x10000 + (leading - 0xD800) * 0x400 + (trailing - 0xDC00)) :
      SpellsChar c ('\\' :: 'u' :: (digits ++ '\\' :: 'u' :: digits'))

/-- A text between quotes. -/
def SpellsText (a t : Text) : Prop :=
  ∃ pieces, List.Forall₂ SpellsChar a pieces ∧ t = '"' :: (pieces.flatten ++ ['"'])

/-- What may stand for a character inside quotes, halves of surrogate pairs included. -/
inductive IsPiece : Text → Prop where
  | plain {c : Char} (hquote : c ≠ '"') (hslash : c ≠ '\\') (hcontrol : 0x20 ≤ c.toNat) :
      IsPiece [c]
  | short {letter c : Char} (h : (letter, c) ∈ shortEscapes) : IsPiece ['\\', letter]
  | hex {n : Nat} {digits : Text} (h : SpellsHex n digits) : IsPiece ('\\' :: 'u' :: digits)

/-- Something between quotes, also if no text is written so. -/
def IsQuoted (t : Text) : Prop :=
  ∃ pieces : List Text, (∀ p ∈ pieces, IsPiece p) ∧ t = '"' :: (pieces.flatten ++ ['"'])

/-! ## Numbers -/

/-- Digits, of which there is one at least. -/
def IsDigits (s : Text) : Prop :=
  s ≠ [] ∧ ∀ c ∈ s, c.isDigit = true

/-- The digits before the point, without a leading zero. -/
def IsWhole (s : Text) : Prop :=
  s = ['0'] ∨ IsDigits s ∧ s.head? ≠ some '0'

/-- The point and the digits behind it, or nothing. -/
def IsPlaces (s : Text) : Prop :=
  s = [] ∨ ∃ digits, IsDigits digits ∧ s = '.' :: digits

/-- An exponent, or nothing. -/
def IsExponent (s : Text) : Prop :=
  s = [] ∨ ∃ letter sign digits, letter ∈ ['e', 'E'] ∧ sign ∈ [[], ['+'], ['-']] ∧
    IsDigits digits ∧ s = letter :: (sign ++ digits)

/-- A number, of any size. -/
def IsNumeral (t : Text) : Prop :=
  ∃ sign whole places exponent, sign ∈ [[], ['-']] ∧ IsWhole whole ∧ IsPlaces places ∧
    IsExponent exponent ∧ t = sign ++ (whole ++ (places ++ exponent))

/-- A whole number that fits 64 bits, with a sign or without one. -/
def FitsWord (i : Int) : Prop :=
  -Int.pow 2 63 ≤ i ∧ i < Int.pow 2 64

/-! ## Values -/

/-- A value of any kind. -/
inductive IsValue : Text → Prop where
  | word {t : Text} (h : t ∈ ["null".toList, "true".toList, "false".toList]) : IsValue t
  | number {t : Text} (h : IsNumeral t) : IsValue t
  | text {t : Text} (h : IsQuoted t) : IsValue t
  | list {items : List Text} {t : Text} (h : IsList items t) (hitems : ∀ v ∈ items, IsValue v) :
      IsValue t
  | object {entries : List (Text × Text)} {t : Text} (h : IsObject entries t)
      (hkeys : ∀ e ∈ entries, IsQuoted e.1) (hvalues : ∀ e ∈ entries, IsValue e.2) : IsValue t

/-- A list of values. -/
structure IsValueList (items : List Text) (t : Text) : Prop where
  list : IsList items t
  values : ∀ v ∈ items, IsValue v

/-- An object of values, whatever its keys. -/
structure IsValueObject (entries : List (Text × Text)) (t : Text) : Prop where
  object : IsObject entries t
  keys : ∀ e ∈ entries, IsQuoted e.1
  values : ∀ e ∈ entries, IsValue e.2

/-! ## Records -/

/-- A field of a record: its names, how its value may be written, and whether it may be left
out. -/
structure FieldSpelling where
  names : List String
  spelled : Text → Prop
  omittable : Prop

/-- A field with a name, given as a text. -/
def FieldSpelling.Named (f : FieldSpelling) (name : Text) : Prop :=
  name ∈ f.names.map String.toList

/-- A member of an object: its name, and its key and its value as they are written. -/
structure Member where
  name : Text
  key : Text
  value : Text

/-- The key and the value of a member. -/
def Member.entry (m : Member) : Text × Text :=
  (m.key, m.value)

/-- The members of an object that holds a record: one for each field, under any of its names, but
perhaps none for those that may be left out, and any others, all in any order. -/
structure Holds (fields : List FieldSpelling) (members : List Member) : Prop where
  keys : ∀ m ∈ members, SpellsText m.name m.key
  values : ∀ m ∈ members, ∀ f ∈ fields, f.Named m.name → f.spelled m.value
  others : ∀ m ∈ members, (∀ f ∈ fields, ¬ f.Named m.name) → IsValue m.value
  once : ∀ f ∈ fields, members.Pairwise fun m m' => ¬ (f.Named m.name ∧ f.Named m'.name)
  complete : ∀ f ∈ fields, (∃ m ∈ members, f.Named m.name) ∨ f.omittable

/-- A record, written as an object. -/
def SpellsRecord (fields : List FieldSpelling) (t : Text) : Prop :=
  ∃ members, Holds fields members ∧ IsObject (members.map Member.entry) t

/-- A list of things that are written one by one. -/
def SpellsList (spelled : α → Text → Prop) (as : List α) (t : Text) : Prop :=
  ∃ items, List.Forall₂ spelled as items ∧ IsList items t

/-- Something that may be null. -/
def SpellsNullable (spelled : α → Text → Prop) (o : Option α) (t : Text) : Prop :=
  match o with
  | none => t = "null".toList
  | some a => spelled a t

end Dialogue.Json
