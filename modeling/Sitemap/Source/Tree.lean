import Sitemap.Number.Binary64
import Sitemap.Text.Quoted

/-!
# Syntax trees

* `Source.Constant` : the literals;
* `Source.Expr` : expressions, complete;
* `Source.Stmt` : statements, as far as imports, names, classes and returned values go; what else
  they hold is read and dropped;
* `Source.Expr.dottedName?` : the text of a name with attributes.
-/

namespace Sitemap.Source

/-- A literal. `unicode` marks a text that was written with the letter `u`; one that spells half of a
pair is a case of its own. -/
inductive Constant where
  | none
  | bool (b : Bool)
  | ellipsis
  | int (n : Nat)
  | float (x : Binary64)
  | imaginary (x : Binary64)
  | text (s : String) (unicode : Bool)
  | unpaired (t : UnpairedText) (unicode : Bool)
  | bytes (bs : List UInt8)

def Constant.ofUnits (us : List TextUnit) (unicode : Bool) : Constant :=
  if h : us.any TextUnit.isHalf = true then .unpaired ⟨us, h⟩ unicode
  else .text (String.ofList (us.filterMap TextUnit.char?)) unicode

@[simp]
theorem Constant.ofUnits_char (cs : List Char) (unicode : Bool) :
    Constant.ofUnits (cs.map .char) unicode = .text (String.ofList cs) unicode := by
  have hwhole : ¬ (cs.map TextUnit.char).any TextUnit.isHalf = true := by
    simp [List.any_map, Function.comp_def, TextUnit.isHalf]
  have hchars : (cs.map TextUnit.char).filterMap TextUnit.char? = cs := by
    rw [List.filterMap_map]
    exact List.filterMap_some
  rw [Constant.ofUnits, dif_neg hwhole, hchars]

/-- Operators between two operands. -/
inductive BinaryOp where
  | add | sub | mul | matMul | div | mod | leftShift | rightShift | bitOr | bitXor | bitAnd
  | floorDiv | pow
  deriving DecidableEq, Repr

/-- Operators before one operand. -/
inductive UnaryOp where
  | invert | not | plus | minus
  deriving DecidableEq, Repr

/-- Comparisons. -/
inductive CompareOp where
  | eq | notEq | lt | le | gt | ge | is | isNot | isIn | notIn
  deriving DecidableEq, Repr

mutual

/-- An expression. -/
inductive Expr where
  | name (id : String)
  | constant (c : Constant)
  | joined (parts : List Expr)
  | formatted (value : Expr) (conversion : Option Char) (spec : Option Expr)
  | attribute (value : Expr) (name : String)
  | subscript (value index : Expr)
  | slice (lower upper step : Option Expr)
  | starred (value : Expr)
  | call (function : Expr) (arguments : List Expr) (keywords : List Keyword)
  | boolOp (isAnd : Bool) (operands : List Expr)
  | named (target value : Expr)
  | binary (left : Expr) (op : BinaryOp) (right : Expr)
  | unary (op : UnaryOp) (operand : Expr)
  | lambda (parameters : List Parameter) (body : Expr)
  | conditional (test body otherwise : Expr)
  | dict (items : List DictItem)
  | set (items : List Expr)
  | list (items : List Expr)
  | tuple (items : List Expr)
  | listComp (element : Expr) (clauses : List Clause)
  | setComp (element : Expr) (clauses : List Clause)
  | generator (element : Expr) (clauses : List Clause)
  | dictComp (key value : Expr) (clauses : List Clause)
  | await (value : Expr)
  | yield (value : Option Expr)
  | yieldFrom (value : Expr)
  | compare (left : Expr) (rest : List Comparison)

/-- A keyword argument, or a mapping that is spread. -/
inductive Keyword where
  | mk (name : Option String) (value : Expr)

/-- A key with its value, or a mapping that is spread. -/
inductive DictItem where
  | pair (key value : Expr)
  | spread (value : Expr)

/-- A clause of a comprehension. -/
inductive Clause where
  | mk (isAsync : Bool) (target source : Expr) (conditions : List Expr)

/-- A step of a chain of comparisons. -/
inductive Comparison where
  | mk (op : CompareOp) (right : Expr)

/-- A parameter, or one of the marks between parameters: the slash, the bare star. -/
inductive Parameter where
  | plain (name : String) (fallback : Option Expr)
  | slash
  | star
  | rest (name : String)
  | keywordRest (name : String)

end

instance : Inhabited Expr := ⟨.name ""⟩

/-- A name that an import statement binds, under another name if one is given. -/
structure Alias where
  name : String
  asName : Option String
  deriving DecidableEq, Repr

/-- A statement. A loop is any of the three kinds; what a `with` or a `match` statement is about is
dropped. -/
inductive Stmt where
  | expression (value : Expr)
  | assign (targets : List Expr) (value : Expr)
  | annotated (target : Expr)
  | ret (value : Option Expr)
  | imports (names : List Alias)
  | importsFrom (source : Option String) (names : List Alias) (level : Nat)
  | function (name : String) (parameters : List Parameter) (body : List Stmt)
  | classDef (line : Nat) (name : String) (decorators : List Expr) (body : List Stmt)
  | branch (body otherwise : List Stmt)
  | loop (body otherwise : List Stmt)
  | withBlock (body : List Stmt)
  | tryBlock (body : List Stmt) (handlers : List (List Stmt)) (otherwise final : List Stmt)
  | cases (bodies : List (List Stmt))
  | other

/-- The text of a name with attributes; no other expression has one. -/
def Expr.dottedName? : Expr → Option String
  | .name id => some id
  | .attribute value attr => value.dottedName?.map (· ++ "." ++ attr)
  | _ => none

end Sitemap.Source
