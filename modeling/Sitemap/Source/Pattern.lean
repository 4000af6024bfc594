import Sitemap.Source.Expression

/-!
# The grammar of patterns

* `Source.pattern` : a pattern of a `match` statement, for a given depth of nesting;
* `Source.casePatterns` : what stands behind `case`.

Patterns bind names that nothing here asks about, so only their form is checked.
-/

namespace Sitemap.Source

namespace Pattern

open Sitemap.Source.Parser

/-- A name that a pattern binds: not the wildcard, and nothing that goes on as a longer name, a
class or a keyword. -/
def capture : Parser Unit := do
  ensure (!(← nextIsWord "_"))
  let _ ← name
  ensure (!((← nextIsOp ".") || (← nextIsOp "(") || (← nextIsOp "=")))

/-- A name with attributes: the number of attributes. -/
def dotted : Parser Nat := do
  let _ ← name
  return (← many (do op "."; name)).length

/-- A number: whether it is imaginary. -/
def number : Parser Bool := token fun
  | .number (.imaginary _) => some true
  | .number _ => some false
  | _ => none

def signedNumber : Parser Unit := do
  let _ ← tryOp "-"
  let imaginary ← number
  if (← tryOp "+") || (← tryOp "-") then
    ensure !imaginary
    ensure (← number)

/-- A literal: a number, string literals or a constant. -/
def literal (r : Rules) : Parser Unit := do
  match ← peek with
  | some (.text _ _) =>
    let _ ← r.textLiteral
  | some (.word _) => keyword "None" |>.orElse (keyword "True") |>.orElse (keyword "False")
  | _ => signedNumber

/-- Whether a literal follows. -/
def nextIsLiteral : Parser Bool := do
  return (← peek).any fun
    | .text _ _ => true
    | .number _ => true
    | .op "-" => true
    | .word s => s == "None" || s == "True" || s == "False"
    | _ => false

/-- A starred name or a pattern. -/
def starPattern (inner : Parser Unit) : Parser Bool := do
  if ← tryOp "*" then
    if ← nextIsWord "_" then
      let _ ← name
    else capture
    return true
  else
    inner
    return false

/-- Patterns between commas up to a closing symbol, which is read. `single` allows a single pattern
without a comma. -/
def sequence (inner : Parser Unit) (close : String) (single : Bool) : Parser Unit := do
  if ← tryOp close then return
  let (stars, comma) ← commaList (starPattern inner)
  ensure (comma || single || stars == [false])
  op close

/-- An item of a mapping: whether it is the one that takes the rest. -/
def mappingItem (r : Rules) (inner : Parser Unit) : Parser Bool := do
  if ← tryOp "**" then
    capture
    return true
  else
    if ← nextIsLiteral then literal r
    else ensure (0 < (← dotted))
    op ":"
    inner
    return false

/-- An argument of a class pattern: with or without a keyword, which may be the wildcard. -/
inductive ClassArgument where
  | positional
  | keyword (isWildcard : Bool)
  deriving DecidableEq, Repr

/-- Reads an argument of a class pattern. -/
def classArgument (inner : Parser Unit) : Parser ClassArgument := do
  if ← nextIsNameBefore "=" then
    let isWildcard ← nextIsWord "_"
    let _ ← name
    op "="
    inner
    return .keyword isWildcard
  else
    inner
    return .positional

/-- Arguments without keyword come first. The wildcard right behind one of them is read as one
more, so it cannot be a keyword there. -/
def areOrdered : List ClassArgument → Bool
  | .keyword _ :: .positional :: _ => false
  | .positional :: .keyword true :: _ => false
  | _ :: rest => areOrdered rest
  | [] => true

/-- A name with attributes as a value, a class with its arguments, or a name that is bound. -/
def named (inner : Parser Unit) : Parser Unit := do
  if ← nextIsWord "_" then
    let _ ← name
  else
    let _ ← dotted
    if ← tryOp "(" then
      if ← tryOp ")" then return
      let (items, _) ← commaList (classArgument inner)
      ensure (areOrdered items)
      op ")"
    else
      ensure (!((← nextIsOp "=") || (← nextIsOp ".")))

/-- A pattern that no `|` or `as` can take apart. -/
def closed (r : Rules) (inner : Parser Unit) : Parser Unit := do
  if ← nextIsLiteral then literal r
  else if ← tryOp "(" then sequence inner ")" false
  else if ← tryOp "[" then sequence inner "]" true
  else if ← tryOp "\x7b" then
    if ← tryOp "\x7d" then return
    let (items, _) ← commaList (mappingItem r inner)
    ensure (!items.dropLast.contains true)
    op "\x7d"
  else named inner

def alternatives (r : Rules) (inner : Parser Unit) : Parser Unit := do
  let _ ← sepBy (closed r inner) (op "|")
  if ← tryWord "as" then capture

end Pattern

open Sitemap.Source.Parser

def pattern (r : Rules) : (depth : Nat) → Parser Unit
  | 0 => fail
  | depth + 1 => Pattern.alternatives r (pattern r depth)

/-- The patterns of a case: one, or several as a sequence. -/
def casePatterns (r : Rules) (depth : Nat) : Parser Unit := do
  let (stars, comma) ← commaList (Pattern.starPattern (pattern r depth))
  ensure (comma || stars == [false])

end Sitemap.Source
