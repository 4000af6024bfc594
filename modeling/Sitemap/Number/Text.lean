import Sitemap.Number.Decimal
import Sitemap.Text.Blank
import Sitemap.Text.Digit

/-!
# Numbers as text

Writing:
* `Decimal.text` : the shortest digits, positional from `0.0001` up to sixteen digits before the
  point and with an exponent beyond;
* `Binary64.text` : a number with at least one place after the point;
* `Binary64.bareText` : the same without a point if the number is whole;
* `complexText` : real and imaginary part;
* `groupedText` : an integer with a comma between groups of three digits.

Reading:
* `Binary64.parse?` : a decimal numeral between blanks, with digits of any script, or the name of
  an infinity or of not-a-number.
-/

namespace Sitemap

attribute [local instance (2000)] instPowNat

/-! ## Writing -/

def digitsOf (n : Nat) : List Char := Nat.toDigits 10 n

namespace Decimal

/-- The same number without zeros at the end of its digits. -/
def trimZeros (d : Decimal) : Decimal :=
  go (digitCount d.digits) d
where
  go : Nat → Decimal → Decimal
    | 0, d => d
    | fuel + 1, d =>
      if d.digits % 10 = 0 ∧ d.digits ≠ 0 then go fuel ⟨d.digits / 10, d.exponent + 1⟩ else d

/-- The text of a positive decimal: `whole` is what follows the digits of a whole number. -/
def text (whole : String) (d : Decimal) : String :=
  let d := d.trimZeros
  let ds := digitsOf d.digits
  let point : Int := d.exponent + ds.length
  if point < -3 ∨ 16 < point then
    let power := point - 1
    let mark := if power < 0 then "e-" else "e+"
    let size := power.natAbs
    let fraction := if ds.length = 1 then [] else '.' :: ds.drop 1
    String.ofList (ds.take 1 ++ fraction) ++ mark ++ (if size < 10 then "0" else "") ++
      String.ofList (digitsOf size)
  else if point ≤ 0 then
    "0." ++ String.ofList (List.replicate (-point).toNat '0' ++ ds)
  else if ds.length ≤ point.toNat then
    String.ofList (ds ++ List.replicate (point.toNat - ds.length) '0') ++ whole
  else String.ofList (ds.take point.toNat ++ '.' :: ds.drop point.toNat)

end Decimal

namespace Binary64

/-- The text of a number, `whole` following the digits of a whole one. -/
def textWith (whole : String) : Binary64 → String
  | .nan => "nan"
  | .infinite s => if s then "-inf" else "inf"
  | .finite s m q _ =>
    let digits := if m = 0 then "0" ++ whole else (shortest m q).text whole
    if s then "-" ++ digits else digits

/-- The shortest text that reads back as the number, with a point or an exponent. -/
def text : Binary64 → String := textWith ".0"

/-- The shortest text that reads back as the number, without a point if the number is whole. -/
def bareText : Binary64 → String := textWith ""

end Binary64

/-- The text of a complex number: a real part of positive zero is left out. -/
def complexText (re im : Binary64) : String :=
  if re = .zero false then im.bareText ++ "j"
  else
    let sign := if im.isNegative then "" else "+"
    "(" ++ re.bareText ++ sign ++ im.bareText ++ "j)"

/-- Puts a comma before every third digit from the end. -/
def groupDigits (ds : List Char) : List Char :=
  (ds.foldr (fun d (acc : Nat × List Char) =>
    (acc.1 + 1, if acc.1 ≠ 0 ∧ acc.1 % 3 = 0 then d :: ',' :: acc.2 else d :: acc.2)) (0, [])).2

def groupedText (n : Int) : String :=
  (if n < 0 then "-" else "") ++ String.ofList (groupDigits (digitsOf n.natAbs))

/-! ## Reading -/

def natOfDigits (ds : List Nat) : Nat := ds.foldl (fun n d => n * 10 + d) 0

/-- Drops underscores that stand between two digits; any other underscore is a fault. -/
def dropUnderscores? : (afterDigit : Bool) → List Char → Option (List Char)
  | _, [] => some []
  | true, '_' :: c :: rest =>
    if c.isDigit then (dropUnderscores? true rest).map (c :: ·) else none
  | _, c :: rest => if c = '_' then none else (dropUnderscores? c.isDigit rest).map (c :: ·)

def spanDigits (cs : List Char) : List Nat × List Char :=
  ((cs.takeWhile Char.isDigit).map fun c => c.toNat - 48, cs.dropWhile Char.isDigit)

/-- A number written by decimal digits, cut off far beyond every exponent that matters. -/
def clampedNat (ds : List Nat) : Nat :=
  let significant := ds.dropWhile (· = 0)
  if 20 < significant.length then 10 ^ (20 : Nat) else natOfDigits significant

/-- The exponent of a numeral: absent, or a letter with an optional sign and digits. -/
def exponent? : List Char → Option Int
  | [] => some 0
  | e :: rest =>
    if e = 'e' ∨ e = 'E' then
      let (negative, rest) : Bool × List Char := match rest with
        | '-' :: r => (true, r)
        | '+' :: r => (false, r)
        | r => (false, r)
      match spanDigits rest with
      | ([], _) => none
      | (ds, []) => some (if negative then -(clampedNat ds : Int) else clampedNat ds)
      | _ => none
    else none

/-- A decimal numeral without sign: digits, a point, an exponent. -/
def Decimal.ofChars? (cs : List Char) : Option Decimal :=
  let (whole, rest) := spanDigits cs
  let (fraction, rest) := match rest with
    | '.' :: r => spanDigits r
    | r => ([], r)
  if whole.isEmpty && fraction.isEmpty then none
  else (exponent? rest).map fun e => ⟨natOfDigits (whole ++ fraction), e - fraction.length⟩

/-- A numeral without sign, or a name in any case. -/
def Binary64.unsigned? (negative : Bool) (cs : List Char) : Option Binary64 :=
  let name := String.ofList (cs.map Char.toLower)
  if name == "inf" || name == "infinity" then some (.infinite negative)
  else if name == "nan" then some .nan
  else (Decimal.ofChars? cs).map (ofDecimal negative)

/-- Blanks of ASCII that may surround a numeral; the information separators may not. -/
def isAsciiPad (c : Char) : Bool := c == ' ' || (9 ≤ c.toNat && c.toNat ≤ 13)

/-- A character of a numeral in ASCII, if it has such a form: a digit of another script becomes
the digit of that value, a blank beyond ASCII a space. -/
def plainNumeralChar (c : Char) : Char :=
  if c.toNat < 0x80 then c
  else if isBlank c then ' '
  else match decimalDigit? c with
    | some d => Nat.digitChar d
    | none => '?'

/-- Reads a number from characters. -/
def Binary64.ofChars? (cs : List Char) : Option Binary64 := do
  let cs := trimList isAsciiPad (cs.map plainNumeralChar)
  let cs ← dropUnderscores? false cs
  match cs with
  | '-' :: rest => unsigned? true rest
  | '+' :: rest => unsigned? false rest
  | rest => unsigned? false rest

def Binary64.parse? (s : String) : Option Binary64 := Binary64.ofChars? s.toList

end Sitemap
