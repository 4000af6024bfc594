import Sitemap.Source.Parser

/-!
# The grammar of expressions

* `Source.Rules` : the rules that other rules refer back to;
* `Source.Rules.next` : these rules one level further up, defined by the rules inside them;
* `Source.rules` : the rules for a given depth of nesting;
* `expression`, `disjunction`, …, `atom` : one function per rule, from the loosest to the tightest;
* `starExpressions`, `namedExpression`, `targets` : the forms that statements use.

Every reference back reads at least one token first, so a depth of the number of tokens is never
exceeded.
-/

namespace Sitemap.Source

open Sitemap.Source.Parser

/-- The rules that other rules refer back to. `field` reads the text of a field of a formatted
literal. -/
structure Rules where
  expression : Parser Expr
  disjunction : Parser Expr
  inversion : Parser Expr
  bitOr : Parser Expr
  factor : Parser Expr
  primary : Parser Expr
  field : List Char → Option Expr

namespace Rules

def none : Rules := ⟨fail, fail, fail, fail, fail, fail, fun _ => Option.none⟩

/-! ## Lists of expressions -/

/-- `name := expression` or an expression. -/
def namedExpression (r : Rules) : Parser Expr := do
  if ← nextIsNameBefore ":=" then
    let target ← name
    op ":="
    return .named (.name target) (← r.expression)
  else r.expression

def starExpression (r : Rules) : Parser Expr := do
  if ← tryOp "*" then return .starred (← r.bitOr) else r.expression

def starNamedExpression (r : Rules) : Parser Expr := do
  if ← tryOp "*" then return .starred (← r.bitOr) else r.namedExpression

def starExpressions (r : Rules) : Parser Expr := do
  match ← commaList r.starExpression with
  | ([only], false) => return only
  | (items, _) => return .tuple items

def yieldExpression (r : Rules) : Parser Expr := do
  keyword "yield"
  if ← tryWord "from" then return .yieldFrom (← r.expression)
  else return .yield (← optional r.starExpressions)

/-! ## Targets -/

end Rules

mutual

/-- An expression can be assigned to; `stars` allows a star before it. -/
def Expr.isTarget (stars : Bool) : Expr → Bool
  | .name _ => true
  | .attribute _ _ => true
  | .subscript _ _ => true
  | .tuple items => areTargets items
  | .list items => areTargets items
  | .starred value => stars && value.isTarget false
  | _ => false

/-- All expressions can be parts of a target. -/
def Expr.areTargets : List Expr → Bool
  | [] => true
  | e :: rest => e.isTarget true && areTargets rest

end

mutual

/-- An expression can be deleted. -/
def Expr.isDeletable : Expr → Bool
  | .name _ => true
  | .attribute _ _ => true
  | .subscript _ _ => true
  | .tuple items => areDeletable items
  | .list items => areDeletable items
  | _ => false

def Expr.areDeletable : List Expr → Bool
  | [] => true
  | e :: rest => e.isDeletable && areDeletable rest

end

def Expr.isPlace : Expr → Bool
  | .name _ => true
  | .attribute _ _ => true
  | .subscript _ _ => true
  | _ => false

namespace Rules

def target (r : Rules) : Parser Expr := do
  let e ← if ← tryOp "*" then (do return .starred (← r.primary)) else r.primary
  ensure (e.isTarget true)
  return e

def targets (r : Rules) : Parser Expr := do
  match ← commaList r.target with
  | ([only], false) => return only
  | (items, _) => return .tuple items

/-! ## Comprehensions -/

/-- A clause of a comprehension. -/
def clause (r : Rules) : Parser Clause := do
  let isAsync ← tryWord "async"
  keyword "for"
  let target ← r.targets
  keyword "in"
  let source ← r.disjunction
  let conditions ← many (do keyword "if"; r.disjunction)
  return .mk isAsync target source conditions

def clauses (r : Rules) : Parser (List Clause) := some1 r.clause

def nextIsClause : Parser Bool := do return (← nextIsWord "for") || (← nextIsWord "async")

/-! ## Parameters -/

/-- One parameter; only those of a function may have annotations. -/
def parameter (r : Rules) (annotated : Bool) : Parser Parameter := do
  if ← tryOp "/" then return .slash
  else if ← tryOp "**" then
    let id ← name
    if annotated then if ← tryOp ":" then let _ ← r.expression
    return .keywordRest id
  else if ← tryOp "*" then
    if (← peek).any (·.isName) then
      let id ← name
      if annotated then if ← tryOp ":" then let _ ← r.starExpression
      return .rest id
    else return .star
  else
    let id ← name
    if annotated then if ← tryOp ":" then let _ ← r.expression
    if ← tryOp "=" then return .plain id (some (← r.expression))
    else return .plain id Option.none

/-- Parameters after the star: any defaults, and the keyword rest at the end. -/
def areKeywordParameters : List Parameter → Bool
  | [] => true
  | .plain _ _ :: rest => areKeywordParameters rest
  | [.keywordRest _] => true
  | _ => false

/-- Parameters before the star: no default is followed by a parameter without one, and a slash
stands once after some parameter. A bare star needs a parameter behind it. -/
def areParameters (some_ slashed defaults : Bool) : List Parameter → Bool
  | [] => true
  | .plain _ fallback :: rest =>
    (!defaults || fallback.isSome) && areParameters true slashed (defaults || fallback.isSome) rest
  | .slash :: rest => some_ && !slashed && areParameters true true defaults rest
  | .star :: .plain _ _ :: rest => areKeywordParameters rest
  | .rest _ :: rest => areKeywordParameters rest
  | [.keywordRest _] => true
  | _ => false

/-- Parameters up to a closing symbol, which stays. -/
def parameters (r : Rules) (annotated : Bool) (close : String) : Parser (List Parameter) := do
  if ← nextIsOp close then return []
  let (items, _) ← commaList (r.parameter annotated)
  ensure (areParameters false false false items)
  return items

/-! ## Calls and subscripts -/

/-- An argument of a call. -/
inductive Argument where
  | positional (value : Expr)
  | starred (value : Expr)
  | keyword (name : String) (value : Expr)
  | spread (value : Expr)

/-- One argument. -/
def argument (r : Rules) : Parser Argument := do
  if ← tryOp "*" then return .starred (← r.expression)
  else if ← tryOp "**" then return .spread (← r.expression)
  else if ← nextIsNameBefore "=" then
    let id ← name
    op "="
    return .keyword id (← r.expression)
  else return .positional (← r.namedExpression)

/-- Positional arguments come before keywords, and starred ones before spread mappings. -/
def areArguments (keywords spreads : Bool) : List Argument → Bool
  | [] => true
  | .positional _ :: rest => !keywords && !spreads && areArguments keywords spreads rest
  | .starred _ :: rest => !spreads && areArguments keywords spreads rest
  | .keyword _ _ :: rest => areArguments true spreads rest
  | .spread _ :: rest => areArguments keywords true rest

def positionals (arguments : List Argument) : List Expr :=
  arguments.filterMap fun
    | .positional e => some e
    | .starred e => some (.starred e)
    | _ => Option.none

def keywordsOf (arguments : List Argument) : List Keyword :=
  arguments.filterMap fun
    | .keyword id e => some (.mk (some id) e)
    | .spread e => some (.mk Option.none e)
    | _ => Option.none

/-- The arguments of a call up to its closing bracket, which is read. `generators` allows a
comprehension as the only argument. -/
def arguments (r : Rules) (generators : Bool) : Parser (List Expr × List Keyword) := do
  if ← tryOp ")" then return ([], [])
  let first ← r.argument
  match first, generators && (← nextIsClause) with
  | .positional e, true =>
    let clauses ← r.clauses
    op ")"
    return ([.generator e clauses], [])
  | _, _ =>
    let others ← many (do op ","; r.argument)
    let _ ← tryOp ","
    op ")"
    ensure (areArguments false false (first :: others))
    return (positionals (first :: others), keywordsOf (first :: others))

/-- A bound of a slice, absent before a colon, a comma or the closing bracket. -/
def bound (r : Rules) : Parser (Option Expr) := do
  if (← nextIsOp ":") || (← nextIsOp ",") || (← nextIsOp "]") then return Option.none
  else return some (← r.expression)

/-- One index: a slice, a starred expression or a named expression. -/
def index (r : Rules) : Parser Expr := do
  if ← tryOp "*" then return .starred (← r.expression)
  else if ← nextIsNameBefore ":=" then r.namedExpression
  else
    let lower ← r.bound
    if ← tryOp ":" then
      let upper ← r.bound
      let step ← if ← tryOp ":" then r.bound else pure Option.none
      return .slice lower upper step
    else ofOption lower

/-- The index of a subscript up to the closing bracket, which is read. -/
def indices (r : Rules) : Parser Expr := do
  let (items, comma) ← commaList r.index
  op "]"
  match items, comma with
  | [.starred e], false => return .tuple [.starred e]
  | [only], false => return only
  | items, _ => return .tuple items

/-! ## Literals and brackets -/

/-- Parts of a formatted literal: text and expressions. -/
abbrev Part := List TextUnit ⊕ Expr

/-- Puts text before expressions, joined with a constant that stands first. -/
def pushText (us : List TextUnit) : List Expr → List Expr
  | .constant (.text s unicode) :: rest =>
    .constant (.ofUnits (us ++ s.toList.map .char) unicode) :: rest
  | .constant (.unpaired t unicode) :: rest =>
    .constant (.ofUnits (us ++ t.units) unicode) :: rest
  | rest => .constant (.ofUnits us false) :: rest

/-- Joins neighbouring texts into one constant and drops empty ones. -/
def joinParts (parts : List Part) : List Expr :=
  parts.foldr (fun part rest => match part with
    | .inl [] => rest
    | .inl us => pushText us rest
    | .inr e => e :: rest) []

mutual

/-- The parts of the pieces of a formatted literal; `field` reads the text of an expression. -/
def partsOf? (field : List Char → Option Expr) (raw : Bool) : List Piece → Option (List Part)
  | [] => some []
  | .literal cs :: rest => do
    let text ← decodeText? raw cs
    return .inl text :: (← partsOf? field raw rest)
  | .field expression shown conversion spec :: rest => do
    let value ← field expression
    let spec ← formatOf? field raw spec
    let others ← partsOf? field raw rest
    return .inl ((shown.getD []).map .char) :: .inr (.formatted value conversion spec) :: others

def formatOf? (field : List Char → Option Expr) (raw : Bool) :
    Option (List Piece) → Option (Option Expr)
  | Option.none => some Option.none
  | some pieces => do return some (.joined (joinParts (← partsOf? field raw pieces)))

end

def literalParts? (field : List Char → Option Expr) (mark : TextMark) (body : List Char) :
    Option (List Part) :=
  if mark.format then do partsOf? field mark.raw (← pieces? mark.raw body)
  else do return [.inl (← decodeText? mark.raw body)]

/-- The value of string literals side by side: all of bytes, or none. One formatted literal makes
the whole formatted. A character that no text holds stands for a byte that could not be read. -/
def joinLiterals? (field : List Char → Option Expr) (literals : List (TextMark × List Char)) :
    Option Expr := do
  if literals.any fun (_, body) => body.contains '\x00' then Option.none
  if literals.any (·.1.bytes) then
    if !literals.all (·.1.bytes) then Option.none
    let bytes ← literals.mapM fun (mark, body) => decodeBytes? mark.raw body
    return .constant (.bytes bytes.flatten)
  else
    let parts ← literals.mapM fun (mark, body) => literalParts? field mark body
    if literals.any (·.1.format) then return .joined (joinParts parts.flatten)
    else
      let texts := parts.flatten.map fun
        | .inl us => us
        | .inr _ => []
      return .constant (.ofUnits texts.flatten (literals.head?.any (·.1.unicode)))

def textLiteral (r : Rules) : Parser Expr := do
  let literals ← some1 (token fun
    | .text mark body => some (mark, body)
    | _ => Option.none)
  ofOption (joinLiterals? r.field literals)

/-- What stands in round brackets: nothing, one expression, a tuple, a comprehension or a `yield`. -/
def group (r : Rules) : Parser Expr := do
  op "("
  if ← tryOp ")" then return .tuple []
  else if ← nextIsWord "yield" then
    let e ← r.yieldExpression
    op ")"
    return e
  else
    let starred ← nextIsOp "*"
    let first ← r.starNamedExpression
    if !starred && (← nextIsClause) then
      let clauses ← r.clauses
      op ")"
      return .generator first clauses
    else if ← nextIsOp "," then
      let others ← many (do op ","; r.starNamedExpression)
      let _ ← tryOp ","
      op ")"
      return .tuple (first :: others)
    else
      ensure !starred
      op ")"
      return first

/-- What stands in square brackets: a list or a comprehension. -/
def listDisplay (r : Rules) : Parser Expr := do
  op "["
  if ← tryOp "]" then return .list []
  else
    let starred ← nextIsOp "*"
    let first ← r.starNamedExpression
    if !starred && (← nextIsClause) then
      let clauses ← r.clauses
      op "]"
      return .listComp first clauses
    else
      let others ← many (do op ","; r.starNamedExpression)
      let _ ← tryOp ","
      op "]"
      return .list (first :: others)

def dictItem (r : Rules) : Parser DictItem := do
  if ← tryOp "**" then return .spread (← r.bitOr)
  else
    let key ← r.expression
    op ":"
    return .pair key (← r.expression)

def dictRest (r : Rules) (first : DictItem) : Parser Expr := do
  let others ← many (do op ","; r.dictItem)
  let _ ← tryOp ","
  op "\x7d"
  return .dict (first :: others)

/-- What stands in braces: a dictionary, a set or a comprehension of either. -/
def braceDisplay (r : Rules) : Parser Expr := do
  op "\x7b"
  if ← tryOp "\x7d" then return .dict []
  else if ← nextIsOp "**" then r.dictRest (← r.dictItem)
  else
    let bare := !(← nextIsOp "*") && !(← nextIsNameBefore ":=")
    let starred ← nextIsOp "*"
    let first ← r.starNamedExpression
    if bare && (← nextIsOp ":") then
      op ":"
      let value ← r.expression
      if ← nextIsClause then
        let clauses ← r.clauses
        op "\x7d"
        return .dictComp first value clauses
      else r.dictRest (.pair first value)
    else if !starred && (← nextIsClause) then
      let clauses ← r.clauses
      op "\x7d"
      return .setComp first clauses
    else
      let others ← many (do op ","; r.starNamedExpression)
      let _ ← tryOp ","
      op "\x7d"
      return .set (first :: others)

/-- The constants that are keywords or one token. -/
def constant : Parser Expr := token fun
  | .word "None" => some (.constant .none)
  | .word "True" => some (.constant (.bool true))
  | .word "False" => some (.constant (.bool false))
  | .op "..." => some (.constant .ellipsis)
  | .number value => some (.constant value)
  | _ => Option.none

/-- The expressions that no operator can take apart. -/
def atom (r : Rules) : Parser Expr := do
  match ← peek with
  | some (.text _ _) => r.textLiteral
  | some (.op "(") => r.group
  | some (.op "[") => r.listDisplay
  | some (.op "\x7b") => r.braceDisplay
  | some kind => if kind.isName then return .name (← name) else constant
  | Option.none => fail

/-! ## Operators -/

/-- An attribute, a call or a subscript after an expression. -/
def trailer (r : Rules) : Parser (Expr → Expr) := do
  if ← tryOp "." then
    let id ← name
    return fun e => .attribute e id
  else if ← tryOp "(" then
    let (positional, keywords) ← r.arguments true
    return fun e => .call e positional keywords
  else
    op "["
    let index ← r.indices
    return fun e => .subscript e index

def primaryRule (r : Rules) : Parser Expr := do
  let first ← r.atom
  let trailers ← many r.trailer
  return trailers.foldl (fun e f => f e) first

def power (r : Rules) : Parser Expr := do
  let base ← if ← tryWord "await" then (do return .await (← r.primaryRule)) else r.primaryRule
  if ← tryOp "**" then return .binary base .pow (← r.factor) else return base

def signOps : List (String × UnaryOp) := [("+", .plus), ("-", .minus), ("~", .invert)]

def oneOf {α : Type} (ops : List (String × α)) : Parser α := token fun
  | .op symbol => ops.lookup symbol
  | _ => Option.none

def factorRule (r : Rules) : Parser Expr := do
  match ← optional (oneOf signOps) with
  | some sign => return .unary sign (← r.factor)
  | Option.none => r.power

/-- Operators of one strength between operands, taken together from the left. -/
def leftChain (ops : List (String × BinaryOp)) (operand : Parser Expr) : Parser Expr := do
  let first ← operand
  let others ← many (do
    let op ← oneOf ops
    return (op, ← operand))
  return others.foldl (fun left (op, right) => .binary left op right) first

def operatorLevels : List (List (String × BinaryOp)) :=
  [[("|", .bitOr)], [("^", .bitXor)], [("&", .bitAnd)],
    [("<<", .leftShift), (">>", .rightShift)], [("+", .add), ("-", .sub)],
    [("*", .mul), ("/", .div), ("//", .floorDiv), ("%", .mod), ("@", .matMul)]]

def bitOrRule (r : Rules) : Parser Expr := operatorLevels.foldr leftChain r.factorRule

def compareOps : List (String × CompareOp) :=
  [("==", .eq), ("!=", .notEq), ("<", .lt), ("<=", .le), (">", .gt), (">=", .ge)]

/-- A comparison. -/
def compareOp : Parser CompareOp := do
  match ← optional (oneOf compareOps) with
  | some op => return op
  | Option.none =>
    if ← tryWord "not" then
      keyword "in"
      return .notIn
    else if ← tryWord "in" then return .isIn
    else
      keyword "is"
      if ← tryWord "not" then return .isNot else return .is

/-- Operands with comparisons between them. -/
def comparison (r : Rules) : Parser Expr := do
  let first ← r.bitOrRule
  match ← many (do
    let op ← compareOp
    return Comparison.mk op (← r.bitOrRule)) with
  | [] => return first
  | rest => return .compare first rest

def inversionRule (r : Rules) : Parser Expr := do
  if ← tryWord "not" then return .unary .not (← r.inversion) else r.comparison

def connected (isAnd : Bool) (word : String) (operand : Parser Expr) : Parser Expr := do
  match ← sepBy operand (keyword word) with
  | [only] => return only
  | operands => return .boolOp isAnd operands

def disjunctionRule (r : Rules) : Parser Expr :=
  connected false "or" (connected true "and" r.inversionRule)

/-- A function without a name. -/
def lambda (r : Rules) : Parser Expr := do
  keyword "lambda"
  let parameters ← r.parameters false ":"
  op ":"
  return .lambda parameters (← r.expression)

/-- An expression: a function, or a disjunction, perhaps with a condition. -/
def expressionRule (r : Rules) : Parser Expr := do
  if ← nextIsWord "lambda" then r.lambda
  else
    let body ← r.disjunctionRule
    if ← tryWord "if" then
      let test ← r.disjunctionRule
      keyword "else"
      return .conditional test body (← r.expression)
    else return body

/-- The expression in a field of a formatted literal, read as if in brackets. -/
def fieldRule (r : Rules) (text : List Char) : Option Expr := do
  let tokens ← scan? (completeLines ('(' :: text ++ [')']))
  (r.starExpressions.run tokens).map (·.1)

/-- The rules one level further up. -/
def next (r : Rules) : Rules where
  expression := r.expressionRule
  disjunction := r.disjunctionRule
  inversion := r.inversionRule
  bitOr := r.bitOrRule
  factor := r.factorRule
  primary := r.primaryRule
  field := r.fieldRule

end Rules

def rules : (depth : Nat) → Rules
  | 0 => Rules.none
  | depth + 1 => (rules depth).next

/-- The deepest nesting that is read. -/
def maxNesting : Nat := 6000

def rulesFor (length : Nat) : Rules := rules (min (length + 2) maxNesting)

/-- The expression that is the whole of a text. -/
def parseExpression? (text : List Char) : Option Expr := do
  let tokens ← scan? (unifyLines text)
  let r := rulesFor text.length
  let (e, _) ← (do
    match ← commaList r.expression with
    | ([only], false) =>
      let _ ← many newline
      finish
      return only
    | (items, _) =>
      let _ ← many newline
      finish
      return .tuple items : Parser Expr).run tokens
  return e

end Sitemap.Source
