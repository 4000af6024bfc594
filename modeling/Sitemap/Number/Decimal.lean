import Sitemap.Number.Binary64

/-!
# Decimal numbers and the shortest that reads back

* `Decimal` : `digits · 10^exponent`;
* `Binary64.ofDecimal` : the binary number nearest to a decimal one;
* `Binary64.shortest` : of the decimals that read back as a given number, one with the fewest
  digits and, among those, the nearest;
* `Binary64.exact` : the decimal that equals a number.

A candidate is tested by reading it back, so `shortest` always reads back.
-/

namespace Sitemap

attribute [local instance (2000)] instPowNat

/-- The number of decimal digits of a natural number; zero has one. -/
def digitCount (n : Nat) : Nat := (Nat.toDigits 10 n).length

/-- The decimal number `digits · 10^exponent`. -/
structure Decimal where
  digits : Nat
  exponent : Int
  deriving DecidableEq, Repr

namespace Binary64

/-- The binary number nearest to a decimal one. Beyond the 400th place on either side the answer
is settled without the power of ten. -/
def ofDecimal (negative : Bool) (d : Decimal) : Binary64 :=
  let places : Int := d.exponent + digitCount d.digits
  if d.digits = 0 then zero negative
  else if places > 400 then .infinite negative
  else if places < -400 then zero negative
  else if d.exponent < 0 then ofRatio negative d.digits (10 ^ (-d.exponent).toNat)
  else ofRatio negative (d.digits * 10 ^ d.exponent.toNat) 1

/-- The place of the leading decimal digit of `num / den`: the least `p` with `num / den < 10^p`. -/
def leadingPlace (num den : Nat) : Int :=
  if den ≤ num then digitCount (num / den)
  else 1 - (digitCount ((den - 1) / num) : Int)

/-- The decimal equal to `m · 2^(q - 1074)`. -/
def exact (m q : Nat) : Decimal := ⟨m * 2 ^ q * 5 ^ (1074 : Nat), -1074⟩

/-- `num / den` divided by `10^e`, as a fraction. -/
def scaled (num den : Nat) (e : Int) : Nat × Nat :=
  if e < 0 then (num * 10 ^ (-e).toNat, den) else (num, den * 10 ^ e.toNat)

/-- A number is finite and has a given mantissa and exponent, whatever its sign. -/
def hasParts (m q : Nat) : Binary64 → Bool
  | .finite _ m' q' _ => m' == m && q' == q
  | _ => false

/-- The decimal of `count` digits that reads back as `m · 2^(q - 1074)`, if one does: of the two
neighbours on that grid the nearer, and of two equally near the even one. -/
def onGrid? (m q count : Nat) : Option Decimal :=
  let num := m * 2 ^ q
  let den : Nat := 2 ^ (1074 : Nat)
  let e : Int := leadingPlace num den - count
  let (n, d) := scaled num den e
  let low := n / d
  let twice := 2 * (n % d)
  let lowFirst := twice < d || (twice == d && low % 2 == 0)
  let candidates := if lowFirst then [low, low + 1] else [low + 1, low]
  (candidates.map fun k => Decimal.mk k e).find? fun d => (ofDecimal false d).hasParts m q

/-- A decimal with the fewest digits that reads back as `m · 2^(q - 1074)`, the nearest of those;
seventeen digits always suffice, so the exact decimal is never needed. -/
def shortest (m q : Nat) : Decimal :=
  ((List.range 17).findSome? fun i => onGrid? m q (i + 1)).getD (exact m q)

end Binary64

end Sitemap
