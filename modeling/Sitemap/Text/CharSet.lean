/-!
# Sets of characters given by ranges

* `splitChars`, `wordsOf` : the pieces of a list of characters;
* `hexNumber`, `isHexDigit` : hexadecimal digits;
* `CharSet` : ranges of code points in increasing order;
* `CharSet.ofText` : reads ranges written as hexadecimal numbers, `first-last` or `only`;
* `CharSet.contains` : binary search.
-/

namespace Sitemap

/-- The pieces between separators, at least one. -/
def splitChars (separator : Char) : List Char → List (List Char)
  | [] => [[]]
  | c :: rest =>
    if c = separator then [] :: splitChars separator rest
    else match splitChars separator rest with
      | [] => [[c]]
      | piece :: pieces => (c :: piece) :: pieces

/-- The pieces between spaces and line ends, without the empty ones. -/
def wordsOf (cs : List Char) : List (List Char) :=
  (splitChars ' ' (cs.map fun c => if c = '\n' then ' ' else c)).filter fun w => !w.isEmpty

def hexNumber (cs : List Char) : Nat :=
  cs.foldl (fun n c => n * 16 + (if c.isDigit then c.toNat - 48 else c.toNat - 87)) 0

def isHexDigit (c : Char) : Bool :=
  c.isDigit || ('a' ≤ c && c ≤ 'f') || ('A' ≤ c && c ≤ 'F')

/-- A set of characters as ranges of code points, in increasing order. -/
structure CharSet where
  ranges : Array (Nat × Nat)

namespace CharSet

def ofText (s : String) : CharSet :=
  ⟨((wordsOf s.toList).map fun item =>
    match splitChars '-' item with
    | [first, last] => (hexNumber first, hexNumber last)
    | _ => (hexNumber item, hexNumber item)).toArray⟩

/-- Looks for a code point between two positions of the ranges. -/
def search (set : CharSet) (n : Nat) : Nat → Nat → Nat → Bool
  | 0, _, _ => false
  | fuel + 1, low, high =>
    if low < high then
      let middle := (low + high) / 2
      match set.ranges[middle]? with
      | none => false
      | some (first, last) =>
        if n < first then search set n fuel low middle
        else if last < n then search set n fuel (middle + 1) high
        else true
    else false

def containsNat (set : CharSet) (n : Nat) : Bool :=
  set.search n set.ranges.size 0 set.ranges.size

def contains (set : CharSet) (c : Char) : Bool := set.containsNat c.toNat

end CharSet

end Sitemap
