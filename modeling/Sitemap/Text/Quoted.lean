import Sitemap.Text.Printable

/-!
# Quoted texts

* `quoted` : a text between quotes, with what could not be read back escaped; it is the written
  form of a text wherever one is shown or emitted;
* `quotedBytes` : the same for bytes, after the letter `b`;
* `quoteFor` : single quotes, unless the text holds one and no double quote;
* `escaped` : one character between such quotes;
* `TextUnit`, `UnpairedText` : what a literal may spell beside characters, the halves of pairs, and a
  text with such a half, which has a quoted form (`quotedUnits`) but no encoded one.
-/

namespace Sitemap

/-- The last `width` hexadecimal digits of a number, in lower case. -/
def hexDigits : (width n : Nat) → List Char
  | 0, _ => []
  | width + 1, n => hexDigits width (n / 16) ++ [Nat.digitChar (n % 16)]

def quoteFor (cs : List Char) : Char :=
  if cs.contains '\'' && !cs.contains '"' then '"' else '\''

/-- One character between quotes: the backslash, the quote and what is not printable are escaped,
by name if they have one and else by number in the least of three widths. -/
def escaped (quote c : Char) : List Char :=
  if c == quote || c == '\\' then ['\\', c]
  else if c == '\t' then ['\\', 't']
  else if c == '\n' then ['\\', 'n']
  else if c == '\r' then ['\\', 'r']
  else if isPrintable c then [c]
  else if c.toNat < 0x100 then '\\' :: 'x' :: hexDigits 2 c.toNat
  else if c.toNat < 0x10000 then '\\' :: 'u' :: hexDigits 4 c.toNat
  else '\\' :: 'U' :: hexDigits 8 c.toNat

def quotedList (cs : List Char) : List Char :=
  let quote := quoteFor cs
  quote :: cs.flatMap (escaped quote) ++ [quote]

def quoted (s : String) : String := String.ofList (quotedList s.toList)

/-- A unit of a text: a character, or half of a pair, which is no character alone. -/
inductive TextUnit where
  | char (c : Char)
  | half (n : Nat)
  deriving DecidableEq, Repr

namespace TextUnit

def char? : TextUnit → Option Char
  | char c => some c
  | half _ => none

def isHalf : TextUnit → Bool
  | char _ => false
  | half _ => true

/-- The character in place of a unit. The replacement character stands for half of a pair. -/
def standIn : TextUnit → Char
  | char c => c
  | half _ => '\ufffd'

end TextUnit

/-- A text with half of a pair. -/
structure UnpairedText where
  units : List TextUnit
  isUnpaired : units.any TextUnit.isHalf = true
  deriving DecidableEq

def UnpairedText.standIn (t : UnpairedText) : String := String.ofList (t.units.map TextUnit.standIn)

/-- One unit between quotes; half of a pair is escaped by its number. -/
def escapedUnit (quote : Char) : TextUnit → List Char
  | .char c => escaped quote c
  | .half n => '\\' :: 'u' :: hexDigits 4 n

def quotedUnits (us : List TextUnit) : String :=
  let quote := quoteFor (us.filterMap TextUnit.char?)
  String.ofList (quote :: us.flatMap (escapedUnit quote) ++ [quote])

/-- One byte between quotes: as a character if ASCII can print it. -/
def escapedByte (quote : Char) (b : UInt8) : List Char :=
  if b < 0x80 then escaped quote (Char.ofNat b.toNat) else '\\' :: 'x' :: hexDigits 2 b.toNat

def quotedBytes (bs : List UInt8) : String :=
  let quote := quoteFor (bs.map fun b => Char.ofNat b.toNat)
  String.ofList ('b' :: quote :: bs.flatMap (escapedByte quote) ++ [quote])

end Sitemap
