import Sitemap.Source.Tree
import Sitemap.Value

/-!
# Values of literal expressions

* `Source.LiteralFault` : why an expression has no value as a literal;
* `Expr.literal` : the value of an expression made of literals only: constants, displays, numbers
  with a sign, and a real number plus or minus an imaginary one.

Operands are evaluated from the left, and members of sets and keys are checked as they come, so the
first fault is the one that counts.
-/

namespace Sitemap.Source

/-- Why an expression has no value: it is not literal, or an integer beside an imaginary number is
too large for a floating one. -/
inductive LiteralFault where
  | notLiteral
  | tooLarge
  deriving DecidableEq, Repr

/-- The value of a constant. -/
def Constant.value : Constant → Value
  | .none => .none
  | .bool b => .bool b
  | .ellipsis => .ellipsis
  | .int n => .int n
  | .float x => .float x
  | .imaginary x => .complex (.zero false) x
  | .text s _ => .str s
  | .unpaired t _ => .unpaired t
  | .bytes bs => .bytes bs

/-- A number. -/
inductive Number where
  | int (n : Int)
  | float (x : Binary64)
  | complex (re im : Binary64)

namespace Number

def value : Number → Value
  | int n => .int n
  | float x => .float x
  | complex re im => .complex re im

def neg : Number → Number
  | int n => int (-n)
  | float x => float x.neg
  | complex re im => complex re.neg im.neg

def real? : Number → Option (Except LiteralFault Binary64)
  | int n => some ((Value.floatOfInt n).mapError fun _ => .tooLarge)
  | float x => some (.ok x)
  | complex _ _ => none

end Number

def Constant.number? : Constant → Option Number
  | .int n => some (.int n)
  | .float x => some (.float x)
  | .imaginary x => some (.complex (.zero false) x)
  | _ => Option.none

/-- A number without a sign. -/
def Expr.number? : Expr → Option Number
  | .constant c => c.number?
  | _ => none

def Expr.signedNumber? : Expr → Option Number
  | .unary .plus operand => operand.number?
  | .unary .minus operand => operand.number?.map Number.neg
  | e => e.number?

/-- A real number plus or minus an imaginary one. -/
def complexLiteral (minus : Bool) (left right : Expr) : Except LiteralFault Value :=
  match left.signedNumber?, right.number? with
  | some a, some (.complex re im) =>
    match a.real? with
    | some real => do
      let x ← real
      let zero : Binary64 := .zero false
      if minus then return .complex (x.sub re) (zero.sub im)
      else return .complex (x.add re) (zero.add im)
    | none => .error .notLiteral
  | _, _ => .error .notLiteral

/-- A set with one more member, which has to be hashable. -/
def addMember (items : List Value) (v : Value) : Except LiteralFault (List Value) :=
  if v.unhashable?.isSome then .error .notLiteral else .ok (Value.insertMember v items)

mutual

/-- The value of a literal expression. -/
def Expr.literal : Expr → Except LiteralFault Value
  | .constant c => .ok c.value
  | .tuple items => do return .tuple (← literals items)
  | .list items => do return .list (← literals items)
  | .set items => do return .set (← setLiteral [] items)
  | .dict items => do return .dict (← dictLiteral [] items)
  | .call (.name "set") [] [] => .ok (.set [])
  | .binary left .add right => complexLiteral false left right
  | .binary left .sub right => complexLiteral true left right
  | e =>
    match e.signedNumber? with
    | some n => .ok n.value
    | none => .error .notLiteral

def Expr.literals : List Expr → Except LiteralFault (List Value)
  | [] => .ok []
  | e :: rest => do
    let v ← e.literal
    return v :: (← literals rest)

/-- The members of a set after those before. -/
def Expr.setLiteral (members : List Value) : List Expr → Except LiteralFault (List Value)
  | [] => .ok members
  | e :: rest => do
    let members ← addMember members (← e.literal)
    setLiteral members rest

/-- The entries of a dictionary after those before. -/
def Expr.dictLiteral (entries : List (Value × Value)) :
    List DictItem → Except LiteralFault (List (Value × Value))
  | [] => .ok entries
  | .pair key value :: rest => do
    let k ← key.literal
    let v ← value.literal
    if k.unhashable?.isSome then .error .notLiteral
    dictLiteral (Value.insertEntry k v entries) rest
  | .spread _ :: _ => .error .notLiteral

end

end Sitemap.Source
