import Sitemap.Frequency
import Sitemap.Number.Text
import Sitemap.Text.Quoted

/-!
# Values of literals

* `Value` : what a decorator argument or a field of an entry may be;
* `Value.Kind` : its kind, with the name that messages use;
* `Value.Fault` : why an operation does not apply to a value, with its wording;
* `Value.written`, `Value.shown` : the text that reads back as the value, and the text that shows
  it (a text shows as itself, a frequency as its number);
* `Value.text?` : the characters of a text;
* `Value.same` : equality across the kinds of numbers;
* `Value.unhashable?` : the first part that cannot be a member of a set or a key.
-/

namespace Sitemap

attribute [local instance (2000)] instPowNat

/-- The kind of a value. -/
inductive Value.Kind where
  | none
  | ellipsis
  | bool
  | int
  | float
  | complex
  | str
  | bytes
  | tuple
  | list
  | set
  | dict
  | frequency
  | kind
  deriving DecidableEq, Repr

/-- A value. A text with half of a pair is a case of its own. The entries of a dictionary stand in
order of first insertion; `kind k` is the class of the values of kind `k`. -/
inductive Value where
  | none
  | ellipsis
  | bool (b : Bool)
  | int (n : Int)
  | float (x : Binary64)
  | complex (re im : Binary64)
  | str (s : String)
  | unpaired (t : UnpairedText)
  | bytes (bs : List UInt8)
  | tuple (items : List Value)
  | list (items : List Value)
  | set (items : List Value)
  | dict (entries : List (Value × Value))
  | frequency (f : Frequency)
  | kind (k : Value.Kind)

namespace Value

instance : Inhabited Value := ⟨.none⟩

/-- The name of a kind. -/
def Kind.name : Kind → String
  | .none => "NoneType"
  | .ellipsis => "ellipsis"
  | .bool => "bool"
  | .int => "int"
  | .float => "float"
  | .complex => "complex"
  | .str => "str"
  | .bytes => "bytes"
  | .tuple => "tuple"
  | .list => "list"
  | .set => "set"
  | .dict => "dict"
  | .frequency => "ChangeFreq"
  | .kind => "type"

/-- The kind of a value. -/
def kindOf : Value → Kind
  | .none => .none
  | .ellipsis => .ellipsis
  | .bool _ => .bool
  | .int _ => .int
  | .float _ => .float
  | .complex _ _ => .complex
  | .str _ => .str
  | .unpaired _ => .str
  | .bytes _ => .bytes
  | .tuple _ => .tuple
  | .list _ => .list
  | .set _ => .set
  | .dict _ => .dict
  | .frequency _ => .frequency
  | .kind _ => .kind

/-! ## Faults -/

/-- Why an operation does not apply to a value. -/
inductive Fault where
  | notReal (k : Kind)
  | notNumeral (written : String)
  | tooLarge
  | unordered (k : Kind)
  | unhashable (k : Kind)
  | digitLimit
  deriving DecidableEq

/-- The wording of a fault. -/
def Fault.message : Fault → String
  | notReal k => "float() argument must be a string or a real number, not '" ++ k.name ++ "'"
  | notNumeral w => "could not convert string to float: " ++ w
  | tooLarge => "int too large to convert to float"
  | unordered k => "'<' not supported between instances of '" ++ k.name ++ "' and 'float'"
  | unhashable k => "unhashable type: '" ++ k.name ++ "'"
  | digitLimit => "Exceeds the limit (4300 digits) for integer string conversion; " ++
      "use sys.set_int_max_str_digits() to increase the limit"

/-! ## Text -/

/-- An integer is written only up to 4300 digits. -/
def intText (n : Int) : Except Fault String :=
  if 10 ^ (4300 : Nat) ≤ n.natAbs then .error .digitLimit else .ok (toString n)

/-- The constant's own form, which does not read back. -/
def frequencyText (f : Frequency) : String :=
  "<ChangeFreq." ++ f.memberName ++ ": " ++ toString f.ordinal ++ ">"

def commaSeparated (items : List String) : String := ", ".intercalate items

mutual

/-- The text that reads back as the value. -/
def written : Value → Except Fault String
  | .none => .ok "None"
  | .ellipsis => .ok "Ellipsis"
  | .bool b => .ok (if b then "True" else "False")
  | .int n => intText n
  | .float x => .ok x.text
  | .complex re im => .ok (complexText re im)
  | .str s => .ok (quoted s)
  | .unpaired t => .ok (quotedUnits t.units)
  | .bytes bs => .ok (quotedBytes bs)
  | .tuple items => do
    match ← writtenList items with
    | [only] => .ok ("(" ++ only ++ ",)")
    | texts => .ok ("(" ++ commaSeparated texts ++ ")")
  | .list items => do
    let texts ← writtenList items
    .ok ("[" ++ commaSeparated texts ++ "]")
  | .set items => do
    match ← writtenList items with
    | [] => .ok "set()"
    | texts => .ok ("\x7b" ++ commaSeparated texts ++ "\x7d")
  | .dict entries => do
    let texts ← writtenEntries entries
    .ok ("\x7b" ++ commaSeparated texts ++ "\x7d")
  | .frequency f => .ok (frequencyText f)
  | .kind k => .ok ("<class '" ++ k.name ++ "'>")

def writtenList : List Value → Except Fault (List String)
  | [] => .ok []
  | v :: rest => do
    let text ← written v
    let texts ← writtenList rest
    .ok (text :: texts)

/-- The written entries of a dictionary. -/
def writtenEntries : List (Value × Value) → Except Fault (List String)
  | [] => .ok []
  | (k, v) :: rest => do
    let key ← written k
    let value ← written v
    let texts ← writtenEntries rest
    .ok ((key ++ ": " ++ value) :: texts)

end

/-- The characters of a text, with stand-ins for halves of pairs. -/
def text? : Value → Option String
  | .str s => some s
  | .unpaired t => some t.standIn
  | _ => Option.none

def shown : Value → Except Fault String
  | .str s => .ok s
  | .unpaired t => .ok t.standIn
  | .frequency f => .ok (toString f.ordinal)
  | v => v.written

/-- A text with half of a pair, which cannot be encoded once it is shown. -/
def isUnpaired : Value → Bool
  | .unpaired _ => true
  | _ => false

/-! ## Numbers -/

/-- The integer that an integer-like value counts as: the truth values are 0 and 1. -/
def asInt? : Value → Option Int
  | .bool b => some (if b then 1 else 0)
  | .int n => some n
  | .frequency f => some f.ordinal
  | _ => Option.none

/-- The exact point of a real number on the extended line; inner `none` is not-a-number. -/
def asPoint? : Value → Option (Option Binary64.Point)
  | .float x => some x.point?
  | v => v.asInt?.map fun n => some (Binary64.pointOfInt n)

def asComplex? : Value → Option (Option Binary64.Point × Option Binary64.Point)
  | .complex re im => some (re.point?, im.point?)
  | v => v.asPoint?.map fun p => (p, some (Binary64.pointOfInt 0))

/-- Two parts of numbers are equal; not-a-number equals nothing. -/
def samePart : Option Binary64.Point → Option Binary64.Point → Bool
  | some a, some b => a.eq b
  | _, _ => false

mutual

/-- Equality of values: numbers of different kinds are equal if they stand for the same point. -/
def same : Value → Value → Bool
  | .none, .none => true
  | .ellipsis, .ellipsis => true
  | .str s, .str t => s == t
  | .unpaired s, .unpaired t => s == t
  | .bytes s, .bytes t => s == t
  | .kind k, .kind l => k == l
  | .tuple xs, .tuple ys => sameList xs ys
  | x, y =>
    match x.asComplex?, y.asComplex? with
    | some (a, b), some (c, d) => samePart a c && samePart b d
    | _, _ => false

def sameList : List Value → List Value → Bool
  | [], [] => true
  | x :: xs, y :: ys => same x y && sameList xs ys
  | _, _ => false

end

mutual

/-- The kind of the first part that cannot be a member of a set. -/
def unhashable? : Value → Option Kind
  | .list _ => some .list
  | .set _ => some .set
  | .dict _ => some .dict
  | .tuple items => unhashableIn? items
  | _ => Option.none

/-- The kind of the first part of a sequence that cannot be a member of a set. -/
def unhashableIn? : List Value → Option Kind
  | [] => Option.none
  | v :: rest => (unhashable? v).or (unhashableIn? rest)

end

/-- Adds a member to a set, unless an equal one is there. -/
def insertMember (v : Value) (items : List Value) : List Value :=
  if items.any (same v) then items else items ++ [v]

/-- Sets a key of a dictionary: a key that is there keeps its place and its own form. -/
def insertEntry (k v : Value) : List (Value × Value) → List (Value × Value)
  | [] => [(k, v)]
  | (k', v') :: rest => if same k k' then (k', v) :: rest else (k', v') :: insertEntry k v rest

/-! ## Conversion to a real number -/

/-- What an integer is rounded to, unless that is infinite. -/
def ofRounded : Binary64 → Except Fault Binary64
  | .infinite _ => .error .tooLarge
  | x => .ok x

/-- The nearest number to an integer, unless that is infinite. -/
def floatOfInt (n : Int) : Except Fault Binary64 := ofRounded (Binary64.ofInt n)

/-- The number that a value stands for: texts and bytes are read as numerals. -/
def toFloat : Value → Except Fault Binary64
  | .float x => .ok x
  | .str s => match Binary64.parse? s with
    | some x => .ok x
    | Option.none => .error (.notNumeral (quoted s))
  | .unpaired t => .error (.notNumeral (quotedUnits t.units))
  | .bytes bs =>
    match if bs.all (· < 0x80) then Binary64.ofChars? (bs.map fun b => Char.ofNat b.toNat)
      else Option.none with
    | some x => .ok x
    | Option.none => .error (.notNumeral (quotedBytes bs))
  | v => match v.asInt? with
    | some n => floatOfInt n
    | Option.none => .error (.notReal v.kindOf)

end Value

end Sitemap
