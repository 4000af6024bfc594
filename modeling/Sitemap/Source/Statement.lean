import Sitemap.Source.Pattern

/-!
# The grammar of statements

* `Source.Grammar` : the rules of expressions that statements build on, and the depth that patterns
  may nest to;
* `simpleStatement`, `simpleLine` : statements without a block, several on a line;
* `block`, `statement` : the statements that belong to one, and statements with blocks;
* `Source.statements` : the statements of a block, for a given depth of blocks;
* `Source.parseModule?` : the statements of a whole text.
-/

namespace Sitemap.Source

/-- What the rules of statements build on. -/
structure Grammar where
  rules : Rules
  depth : Nat

namespace Grammar

open Sitemap.Source.Parser

/-! ## Statements without a block -/

/-- The symbols of assignments that combine an operator. -/
def augmentedOps : List String :=
  ["+=", "-=", "*=", "/=", "//=", "%=", "@=", "&=", "|=", "^=", ">>=", "<<=", "**="]

def assigned (g : Grammar) : Parser Expr := do
  if ← nextIsWord "yield" then g.rules.yieldExpression else g.rules.starExpressions

def assignedSides (g : Grammar) : Parser (List Expr) := some1 (do op "="; g.assigned)

/-- An expression, or an assignment of one of three forms. -/
def expressionStatement (g : Grammar) : Parser Stmt := do
  let first ← g.rules.starExpressions
  if ← nextIsOp "=" then
    let sides := first :: (← g.assignedSides)
    ensure (sides.dropLast.all (·.isTarget true))
    return .assign sides.dropLast (sides.getLastD first)
  else if ← tryOp ":" then
    ensure first.isPlace
    let _ ← g.rules.expression
    if ← tryOp "=" then
      let _ ← g.assigned
    return .annotated first
  else if (← peek).any (fun kind => augmentedOps.any kind.isOp) then
    ensure first.isPlace
    let _ ← token fun
      | .op _ => some ()
      | _ => none
    let _ ← g.assigned
    return .other
  else return .expression first

def dottedName : Parser String := do
  return ".".intercalate (← sepBy name (op "."))

def asName : Parser (Option String) := do
  if ← tryWord "as" then return some (← name) else return none

def importStatement : Parser Stmt := do
  keyword "import"
  let names ← sepBy (do
    let id ← dottedName
    return Alias.mk id (← asName)) (op ",")
  return .imports names

def importedName : Parser Alias := do
  let id ← name
  return ⟨id, ← asName⟩

/-- The points before a module name; three may stand together. -/
def levelPoints : Parser Nat := do
  let points ← many (token fun
    | .op "." => some 1
    | .op "..." => some 3
    | _ => none)
  return points.foldl Nat.add 0

/-- An import of names from a module. -/
def importFromStatement : Parser Stmt := do
  keyword "from"
  let level ← levelPoints
  let source ← if ← nextIsWord "import" then (do
      ensure (0 < level)
      return none)
    else (do return some (← dottedName))
  keyword "import"
  if ← tryOp "*" then return .importsFrom source [⟨"*", none⟩] level
  else if ← tryOp "(" then
    let (names, _) ← commaList importedName
    op ")"
    return .importsFrom source names level
  else
    let names ← sepBy importedName (op ",")
    return .importsFrom source names level

def deleteStatement (g : Grammar) : Parser Stmt := do
  keyword "del"
  let (items, _) ← commaList g.rules.primary
  ensure (Expr.areDeletable items)
  return .other

def raiseStatement (g : Grammar) : Parser Stmt := do
  keyword "raise"
  match ← optional g.rules.expression with
  | some _ => if ← tryWord "from" then let _ ← g.rules.expression
  | none => return .other
  return .other

def assertStatement (g : Grammar) : Parser Stmt := do
  keyword "assert"
  let _ ← g.rules.expression
  if ← tryOp "," then let _ ← g.rules.expression
  return .other

def wordStatement (word : String) : Parser Stmt := do
  keyword word
  return .other

def scopeStatement (word : String) : Parser Stmt := do
  keyword word
  let _ ← sepBy name (op ",")
  return .other

/-- A statement without a block. -/
def simpleStatement (g : Grammar) : Parser Stmt := do
  match ← peek with
  | some (.word word) =>
    match word with
    | "return" =>
      keyword "return"
      return .ret (← optional g.rules.starExpressions)
    | "import" => importStatement
    | "from" => importFromStatement
    | "raise" => g.raiseStatement
    | "pass" => wordStatement "pass"
    | "break" => wordStatement "break"
    | "continue" => wordStatement "continue"
    | "del" => g.deleteStatement
    | "yield" => return .expression (← g.rules.yieldExpression)
    | "assert" => g.assertStatement
    | "global" => scopeStatement "global"
    | "nonlocal" => scopeStatement "nonlocal"
    | _ => g.expressionStatement
  | _ => g.expressionStatement

def simpleLine (g : Grammar) : Parser (List Stmt) := do
  let statements ← sepBy g.simpleStatement (op ";")
  let _ ← tryOp ";"
  newline
  return statements

/-! ## Statements with blocks -/

/-- A block: statements on the same line, or indented on the lines that follow. -/
def block (g : Grammar) (inner : Parser (List Stmt)) : Parser (List Stmt) := do
  op ":"
  if (← peek).any (·.isNewline) then
    newline
    indent
    let body ← inner
    dedent
    return body
  else g.simpleLine

def wordBlock (g : Grammar) (inner : Parser (List Stmt)) (word : String) :
    Parser (List Stmt) := do
  if ← tryWord word then g.block inner else return []

/-- An `if` statement. A further condition is a branch in the other part. -/
def ifStatement (g : Grammar) (inner : Parser (List Stmt)) : Parser Stmt := do
  keyword "if"
  let _ ← g.rules.namedExpression
  let body ← g.block inner
  let others ← many (do
    keyword "elif"
    let _ ← g.rules.namedExpression
    g.block inner)
  let final ← g.wordBlock inner "else"
  return .branch body (others.foldr (fun body rest => [.branch body rest]) final)

def whileStatement (g : Grammar) (inner : Parser (List Stmt)) : Parser Stmt := do
  keyword "while"
  let _ ← g.rules.namedExpression
  let body ← g.block inner
  return .loop body (← g.wordBlock inner "else")

/-- A `for` statement. -/
def forStatement (g : Grammar) (inner : Parser (List Stmt)) : Parser Stmt := do
  keyword "for"
  let _ ← g.rules.targets
  keyword "in"
  let _ ← g.rules.starExpressions
  let body ← g.block inner
  return .loop body (← g.wordBlock inner "else")

def withItem (g : Grammar) : Parser Unit := do
  let _ ← g.rules.expression
  if ← tryWord "as" then
    let _ ← g.rules.target
    ensure ((← nextIsOp ",") || (← nextIsOp ")") || (← nextIsOp ":"))

/-- The resources in brackets, if the brackets are not part of the first one. -/
def bracketedItems (g : Grammar) : Parser Unit := do
  op "("
  let _ ← commaList g.withItem
  op ")"
  ensure (← nextIsOp ":")

def withStatement (g : Grammar) (inner : Parser (List Stmt)) : Parser Stmt := do
  keyword "with"
  let plain : Parser Unit := do
    let _ ← sepBy g.withItem (op ",")
  g.bracketedItems.orElse plain
  return .withBlock (← g.block inner)

/-- A handler: whether it is for groups, whether it names an exception, and its block. -/
def handler (g : Grammar) (inner : Parser (List Stmt)) : Parser (Bool × List Stmt) := do
  keyword "except"
  let groups ← tryOp "*"
  if !groups && (← nextIsOp ":") then return (false, ← g.block inner)
  else
    let _ ← g.rules.expression
    let _ ← asName
    return (groups, ← g.block inner)

/-- A `try` statement: handlers of one kind, or only a final block. -/
def tryStatement (g : Grammar) (inner : Parser (List Stmt)) : Parser Stmt := do
  keyword "try"
  let body ← g.block inner
  let handlers ← many (g.handler inner)
  ensure (handlers.all (·.1) || handlers.all (!·.1))
  if handlers.isEmpty then
    keyword "finally"
    return .tryBlock body [] [] (← g.block inner)
  else
    let otherwise ← g.wordBlock inner "else"
    let final ← g.wordBlock inner "finally"
    return .tryBlock body (handlers.map (·.2)) otherwise final

def caseBlock (g : Grammar) (inner : Parser (List Stmt)) : Parser (List Stmt) := do
  keyword "case"
  casePatterns g.rules g.depth
  if ← tryWord "if" then let _ ← g.rules.namedExpression
  g.block inner

def matchSubject (g : Grammar) : Parser Unit := do
  let (items, comma) ← commaList g.rules.starNamedExpression
  ensure (comma || items.all fun
    | .starred _ => false
    | _ => true)

/-- A `match` statement. -/
def matchStatement (g : Grammar) (inner : Parser (List Stmt)) : Parser Stmt := do
  keyword "match"
  g.matchSubject
  op ":"
  newline
  indent
  let bodies ← some1 (g.caseBlock inner)
  dedent
  return .cases bodies

/-- A function definition. -/
def functionStatement (g : Grammar) (inner : Parser (List Stmt)) : Parser Stmt := do
  keyword "def"
  let id ← name
  op "("
  let parameters ← g.rules.parameters true ")"
  op ")"
  if ← tryOp "->" then let _ ← g.rules.expression
  return .function id parameters (← g.block inner)

/-- A class definition. -/
def classStatement (g : Grammar) (inner : Parser (List Stmt)) (decorators : List Expr) :
    Parser Stmt := do
  let line ← line
  keyword "class"
  let id ← name
  if ← tryOp "(" then let _ ← g.rules.arguments false
  return .classDef line id decorators (← g.block inner)

/-- A statement that may run asynchronously. -/
def asyncStatement (g : Grammar) (inner : Parser (List Stmt)) : Parser Stmt := do
  keyword "async"
  match ← peek with
  | some (.word "def") => g.functionStatement inner
  | some (.word "with") => g.withStatement inner
  | some (.word "for") => g.forStatement inner
  | _ => fail

/-- Decorators, each on a line, and the class or the function that they apply to. -/
def decorated (g : Grammar) (inner : Parser (List Stmt)) : Parser Stmt := do
  let decorators ← some1 (do
    op "@"
    let e ← g.rules.namedExpression
    newline
    return e)
  match ← peek with
  | some (.word "class") => g.classStatement inner decorators
  | some (.word "def") => g.functionStatement inner
  | some (.word "async") =>
    keyword "async"
    g.functionStatement inner
  | _ => fail

/-- A statement with blocks, or the statements of one line. -/
def statement (g : Grammar) (inner : Parser (List Stmt)) : Parser (List Stmt) := do
  match ← peek with
  | some (.op "@") => return [← g.decorated inner]
  | some (.word word) =>
    match word with
    | "def" => return [← g.functionStatement inner]
    | "class" => return [← g.classStatement inner []]
    | "if" => return [← g.ifStatement inner]
    | "for" => return [← g.forStatement inner]
    | "while" => return [← g.whileStatement inner]
    | "try" => return [← g.tryStatement inner]
    | "with" => return [← g.withStatement inner]
    | "async" => return [← g.asyncStatement inner]
    | "match" => (do return [← g.matchStatement inner] : Parser (List Stmt)).orElse g.simpleLine
    | _ => g.simpleLine
  | _ => g.simpleLine

end Grammar

open Sitemap.Source.Parser

def statements (g : Grammar) : (depth : Nat) → Parser (List Stmt)
  | 0 => fail
  | depth + 1 => do return (← some1 (g.statement (statements g depth))).flatten

/-- The deepest nesting of blocks; the indentations of the tokens allow no more. -/
def maxBlocks : Nat := 101

/-- The statements of a text whose lines all end in a line feed. -/
def parseLines? (text : List Char) : Option (List Stmt) := do
  let tokens ← scan? text
  let g : Grammar := ⟨rulesFor text.length, min (text.length + 2) maxNesting⟩
  let (body, _) ← (do
    let body ← if (← peek).any (fun
      | .finish => true
      | _ => false) then pure [] else statements g maxBlocks
    finish
    return body : Parser (List Stmt)).run tokens
  return body

def parseModule? (text : List Char) : Option (List Stmt) := parseLines? (completeLines text)

end Sitemap.Source
