import Sitemap.Value

/-!
# Priorities

* `Priority.text` : the shortest text that reads back as a number, a whole number without a point;
* `Priority.clamp` : a number moved into the range from 0 to 1; not-a-number becomes 1;
* `Priority.ofValue` : the clamped priority of a value that can be compared with numbers.
-/

namespace Sitemap.Priority

/-- The shortest text that reads back as the number; a whole number is written exactly, without a
point or an exponent. -/
def text (x : Binary64) : String :=
  match x.integral? with
  | some n => toString n
  | none => x.text

def textOfValue (v : Value) : Except Value.Fault String := v.toFloat.map text

/-- The number itself inside the range, else its nearer end; not-a-number counts as above. -/
def clamp (x : Binary64) : Binary64 :=
  let atMostOne := if x.lt .one then x else .one
  if (Binary64.zero false).lt atMostOne then atMostOne else .zero false

/-- An integer is a priority of 1 if it is positive and of 0 if not. -/
def clampInt (n : Int) : Binary64 := if 0 < n then .one else .zero false

/-- The clamped priority of a value; what is no real number has no order. -/
def ofValue (v : Value) : Except Value.Fault Binary64 :=
  match v with
  | .float x => .ok (clamp x)
  | v => match v.asInt? with
    | some n => .ok (clampInt n)
    | none => .error (.unordered v.kindOf)

end Sitemap.Priority
