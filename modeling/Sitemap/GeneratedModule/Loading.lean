import Sitemap.GeneratedModule
import Sitemap.Source.Encoding
import Sitemap.Source.LiteralValue

/-!
# Loading a generated module

* `Expr.evaluate` : the value of an expression when the module runs, where the name of the ellipsis
  has a value and other names have none;
* `GeneratedModule.Loaded` : what a loaded module offers: its rows and whether it escapes;
* `GeneratedModule.load` : reads and runs the text of a module;
* `GeneratedModule.LoadFault` : why that fails.
-/

namespace Sitemap

namespace Source

/-- Why an expression has no value when it runs. -/
inductive EvaluationFault where
  | undefined (name : String)
  | literal (fault : LiteralFault)
  deriving DecidableEq, Repr

def EvaluationFault.message : EvaluationFault → String
  | undefined name => "name '" ++ name ++ "' is not defined"
  | literal .tooLarge => Value.Fault.message .tooLarge
  | literal .notLiteral => "unsupported expression"

/-- The first name among the operands of an expression. -/
def Expr.operandName? : Expr → Option String
  | .name id => some id
  | .unary _ operand => operand.operandName?
  | .binary left _ right => left.operandName?.or right.operandName?
  | _ => none

mutual

/-- The value of an expression when it runs. -/
def Expr.evaluate : Expr → Except EvaluationFault Value
  | .name "Ellipsis" => .ok .ellipsis
  | .tuple items => do return .tuple (← evaluateAll items)
  | .list items => do return .list (← evaluateAll items)
  | .set items => do
    let values ← evaluateAll items
    return .set (← (values.foldlM addMember []).mapError .literal)
  | .dict items => do return .dict (← evaluateItems [] items)
  | e => match e.operandName? with
    | some id => .error (.undefined id)
    | none => e.literal.mapError .literal

def Expr.evaluateAll : List Expr → Except EvaluationFault (List Value)
  | [] => .ok []
  | e :: rest => do
    let v ← e.evaluate
    return v :: (← evaluateAll rest)

/-- The entries of a dictionary after those before. -/
def Expr.evaluateItems (entries : List (Value × Value)) :
    List DictItem → Except EvaluationFault (List (Value × Value))
  | [] => .ok entries
  | .pair key value :: rest => do
    let k ← key.evaluate
    let v ← value.evaluate
    evaluateItems (Value.insertEntry k v entries) rest
  | .spread _ :: _ => .error (.literal .notLiteral)

end

end Source

namespace GeneratedModule

open Source

/-- What a loaded module offers. -/
structure Loaded where
  rows : List Row
  escaped : Bool

/-- Why a module cannot be loaded: its text is unreadable, its rows have no value, or it has not
the parts of a generated module. -/
inductive LoadFault where
  | unreadable
  | evaluation (fault : EvaluationFault)
  | incomplete
  deriving DecidableEq

def assignedRows? (body : List Stmt) : Option Expr :=
  body.findSome? fun
    | .assign [.name "SITEMAP_ENTRIES"] value => some value
    | _ => none

def returnedSwitch? (body : List Stmt) : Option Bool :=
  body.findSome? fun
    | .ret (some (.call (.name "register_sitemap") _ [.mk (some "escape") (.constant (.bool b))])) =>
      some b
    | _ => none

def escapes? (body : List Stmt) : Option Bool :=
  body.findSome? fun
    | .function "map_sitemap" _ body => returnedSwitch? body
    | _ => none

def rowOf? : Value → Option Row
  | .tuple fields => some (.literal fields)
  | _ => none

def rowsOf? : Value → Option (List Row)
  | .tuple items => items.mapM rowOf?
  | _ => none

/-- Reads and runs the text of a module. -/
def load (text : String) : Except LoadFault Loaded :=
  match parseInput? (.text text) with
  | none => .error .unreadable
  | some body =>
    match assignedRows? body, escapes? body with
    | some e, some escaped =>
      match e.evaluate with
      | .error fault => .error (.evaluation fault)
      | .ok v => match rowsOf? v with
        | some rows => .ok ⟨rows, escaped⟩
        | none => .error .incomplete
    | _, _ => .error .incomplete

end GeneratedModule

end Sitemap
