import Sitemap.Number.Text
import Sitemap.Source.Tree

/-!
# Number literals

* `Source.readNumeral?` : a number at the start of a text, and what follows it;
* `Source.digitRun?` : digits with single underscores between them;
* `Source.endsNumeral` : what may follow a number directly: nothing that continues a name, except
  a keyword that can stand after an operand.

A decimal integer has at most 4300 digits and no leading zero.
-/

namespace Sitemap.Source

def isWordChar (c : Char) : Bool := c.isAlphanum || c == '_' || 0x80 ≤ c.val

def isWordStart (c : Char) : Bool := c.isAlpha || c == '_' || 0x80 ≤ c.val

/-- Digits of a class at the start of a text, without the single underscores before them. -/
def digitRun? (isDigit : Char → Bool) : List Char → Option (List Char × List Char)
  | [] => some ([], [])
  | c :: rest =>
    if isDigit c then (digitRun? isDigit rest).map fun (ds, rest) => (c :: ds, rest)
    else if c = '_' then
      match rest with
      | d :: rest' =>
        if isDigit d then (digitRun? isDigit rest').map fun (ds, rest) => (d :: ds, rest) else none
      | [] => none
    else some ([], c :: rest)

/-- What may follow a number directly. -/
def endsNumeral : List Char → Bool
  | [] => true
  | c :: rest =>
    match c, rest with
    | 'a', 'n' :: 'd' :: _ => true
    | 'e', 'l' :: 's' :: 'e' :: _ => true
    | 'f', 'o' :: 'r' :: _ => true
    | 'i', d :: _ => d == 'f' || d == 'n' || d == 's'
    | 'o', 'r' :: _ => true
    | 'n', 'o' :: 't' :: _ => true
    | c, _ => !isWordChar c

/-- An integer in a base that is a power of two, after its mark. -/
def readBased? (base : Nat) (isDigit : Char → Bool) (cs : List Char) :
    Option (Constant × List Char) := do
  let (ds, rest) ← digitRun? isDigit cs
  if ds.isEmpty || !endsNumeral rest || rest.head?.any Char.isDigit then none
  let value := ds.foldl (fun n d => n * base + (hexDigit? d).getD 0) 0
  return (.int value, rest)

/-- The exponent of a number, if there is one, and what follows. A letter without digits after it
is left to be the start of a keyword. -/
def readExponent? (cs : List Char) : Option (Option Int × List Char) :=
  match cs with
  | e :: rest =>
    if e = 'e' ∨ e = 'E' then
      match rest with
      | s :: d :: rest' =>
        if (s = '+' ∨ s = '-') then
          if d.isDigit then
            (digitRun? Char.isDigit (d :: rest')).map fun (ds, rest) =>
              let size : Int := clampedNat (ds.map fun d => d.toNat - 48)
              (some (if s = '-' then -size else size), rest)
          else none
        else if s.isDigit then
          (digitRun? Char.isDigit rest).map fun (ds, rest) =>
            (some (clampedNat (ds.map fun d => d.toNat - 48) : Int), rest)
        else some (none, cs)
      | [d] => if d.isDigit then some (some (d.toNat - 48 : Nat), []) else
          if d = '+' ∨ d = '-' then none else some (none, cs)
      | [] => some (none, cs)
    else some (none, cs)
  | [] => some (none, cs)

/-- The digits of a fraction, if there is a point, and what follows. -/
def readFraction? (cs : List Char) : Option (Option (List Char) × List Char) :=
  match cs with
  | '.' :: rest =>
    if rest.head?.any Char.isDigit then
      (digitRun? Char.isDigit rest).map fun (ds, rest) => (some ds, rest)
    else some (some [], rest)
  | cs => some (none, cs)

/-- A decimal number: an integer, or with a point, an exponent or the imaginary unit a floating
number. -/
def readDecimal? (cs : List Char) : Option (Constant × List Char) := do
  let (whole, rest) ← digitRun? Char.isDigit cs
  let (fraction?, rest) ← readFraction? rest
  let (exponent?, rest) ← readExponent? rest
  let fraction := fraction?.getD []
  let digits := (whole ++ fraction).map fun d => d.toNat - 48
  let real := Binary64.ofDecimal false ⟨natOfDigits digits, exponent?.getD 0 - fraction.length⟩
  let (imaginary, rest) := match rest with
    | c :: after => if c = 'j' ∨ c = 'J' then (true, after) else (false, rest)
    | [] => (false, rest)
  if !endsNumeral rest then none
  if imaginary then return (.imaginary real, rest)
  else if fraction?.isSome || exponent?.isSome then return (.float real, rest)
  else if whole.head? = some '0' then
    if whole.all (· = '0') then return (.int 0, rest) else none
  else if 4300 < whole.length then none
  else return (.int (natOfDigits digits), rest)

/-- A number at the start of a text. -/
def readNumeral? (cs : List Char) : Option (Constant × List Char) :=
  match cs with
  | '0' :: c :: rest =>
    if c = 'x' ∨ c = 'X' then readBased? 16 (fun d => (hexDigit? d).isSome) rest
    else if c = 'o' ∨ c = 'O' then readBased? 8 (fun d => '0' ≤ d && d ≤ '7') rest
    else if c = 'b' ∨ c = 'B' then readBased? 2 (fun d => d == '0' || d == '1') rest
    else readDecimal? cs
  | cs => readDecimal? cs

end Sitemap.Source
