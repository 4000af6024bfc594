/-!
# Binary floating-point numbers of 64 bits

* `Binary64` : not-a-number, the two infinities and the finite numbers, each finite number in its
  one written form `± m · 2^(q - 1074)`;
* `Binary64.Canonical` : the condition on `m` and `q` that makes the form unique;
* `Binary64.ofUnits` : the number nearest to a quotient, a tie going to the even significand;
* `Binary64.units` : a finite number as a whole multiple of the least positive one;
* `Binary64.lt`, `Binary64.le`, `Binary64.eq` : the order, in which not-a-number is unrelated to
  everything and the two zeros are equal;
* `Binary64.integral?` : the integer that a number equals, if it equals one.
-/

namespace Sitemap

-- a power is that of natural numbers and integers, also where a general one is in scope
attribute [local instance (2000)] instPowNat

/-- A pair `(m, q)` is canonical if `m` has 53 bits, or fewer at the least exponent, and `q` is in
range. -/
def Binary64.Canonical (m q : Nat) : Prop :=
  m < 2 ^ (53 : Nat) ∧ (q = 0 ∨ 2 ^ (52 : Nat) ≤ m) ∧ q ≤ 2045

instance (m q : Nat) : Decidable (Binary64.Canonical m q) := by
  unfold Binary64.Canonical; infer_instance

/-- A binary floating-point number of 64 bits; `finite s m q` stands for `± m · 2^(q - 1074)`. -/
inductive Binary64 where
  | nan
  | infinite (negative : Bool)
  | finite (negative : Bool) (significand exponent : Nat)
      (canonical : Binary64.Canonical significand exponent)
  deriving DecidableEq

/-- The natural number nearest to `num / den`, a tie going to the even one. -/
def roundHalfEven (num den : Nat) : Nat :=
  let quotient := num / den
  let twice := 2 * (num % den)
  if twice < den ∨ (twice = den ∧ quotient % 2 = 0) then quotient else quotient + 1

namespace Binary64

def zero (negative : Bool) : Binary64 := .finite negative 0 0 (by decide)

def one : Binary64 := .finite false (2 ^ (52 : Nat)) 1022 (by decide)

instance : Inhabited Binary64 := ⟨zero false⟩

/-- The number nearest to `num / den` units of `2^-1074`: the exponent is the least that leaves 53
bits, and a significand that rounding carries to 54 bits is halved. -/
def ofUnits (negative : Bool) (num den : Nat) : Binary64 :=
  let q := (num / den).log2 - 52
  let m := roundHalfEven num (den * 2 ^ q)
  if h : Canonical m q then .finite negative m q h
  else if h : Canonical (m / 2) (q + 1) then .finite negative (m / 2) (q + 1) h
  else .infinite negative

/-- The number nearest to `num / den`. -/
def ofRatio (negative : Bool) (num den : Nat) : Binary64 :=
  ofUnits negative (num * 2 ^ (1074 : Nat)) den

/-- The number nearest to an integer. -/
def ofInt (n : Int) : Binary64 := ofRatio (n < 0) n.natAbs 1

def isNegative : Binary64 → Bool
  | .nan => false
  | .infinite s => s
  | .finite s _ _ _ => s

def neg : Binary64 → Binary64
  | .nan => .nan
  | .infinite s => .infinite !s
  | .finite s m q h => .finite (!s) m q h

/-- A finite number in units of `2^-1074`. -/
def units : Binary64 → Int
  | .finite s m q _ => if s then -(m * 2 ^ q : Nat) else (m * 2 ^ q : Nat)
  | _ => 0

/-- An exact point of the extended number line, in units of `2^-1074`. -/
inductive Point where
  | least
  | at (units : Int)
  | greatest

/-- The point that a number stands for; not-a-number has none. -/
def point? : Binary64 → Option Point
  | .nan => none
  | .infinite s => some (if s then .least else .greatest)
  | x => some (.at x.units)

def pointOfInt (n : Int) : Point := .at (n * 2 ^ (1074 : Nat))

/-- The order of the extended number line. -/
def Point.lt : Point → Point → Bool
  | .least, .least => false
  | .least, _ => true
  | .at _, .least => false
  | .at a, .at b => a < b
  | .at _, .greatest => true
  | .greatest, _ => false

def Point.eq : Point → Point → Bool
  | .least, .least => true
  | .at a, .at b => a == b
  | .greatest, .greatest => true
  | _, _ => false

/-- A number is less than another; false if one of them is not-a-number. -/
def lt (x y : Binary64) : Bool :=
  match x.point?, y.point? with
  | some a, some b => a.lt b
  | _, _ => false

/-- Two numbers are equal; false if one of them is not-a-number. -/
def eq (x y : Binary64) : Bool :=
  match x.point?, y.point? with
  | some a, some b => a.eq b
  | _, _ => false

/-- A number is at most another; false if one of them is not-a-number. -/
def le (x y : Binary64) : Bool := x.lt y || x.eq y

def integral? : Binary64 → Option Int
  | .finite s m q h =>
    let u := (Binary64.finite s m q h).units
    if u % 2 ^ (1074 : Nat) = 0 then some (u / 2 ^ (1074 : Nat)) else none
  | _ => none

/-- The sum of two finite numbers of units, rounded once; a zero sum keeps the sign that both
terms share. -/
def addUnits (a b : Int) (zeroNegative : Bool) : Binary64 :=
  let sum := a + b
  if sum = 0 then zero zeroNegative else ofUnits (sum < 0) sum.natAbs 1

/-- The sum of two numbers, rounded to the nearest. -/
def add (x y : Binary64) : Binary64 :=
  match x, y with
  | .nan, _ => .nan
  | _, .nan => .nan
  | .infinite s, .infinite t => if s = t then .infinite s else .nan
  | .infinite s, _ => .infinite s
  | _, .infinite t => .infinite t
  | x, y => addUnits x.units y.units (x.isNegative && y.isNegative)

/-- The difference of two numbers, rounded to the nearest. -/
def sub (x y : Binary64) : Binary64 := x.add y.neg

end Binary64

end Sitemap
