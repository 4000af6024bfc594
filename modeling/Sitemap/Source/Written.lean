import Sitemap.Source.Tree
import Sitemap.Value

/-!
# Expressions as text

* `Source.WrittenFault` : why an expression cannot be written;
* `Source.Strength` : how tightly an expression binds, from tuples to atoms;
* `Source.chooseQuotes` : a string literal with as few escapes as possible;
* `Expr.written` : the text of an expression in a fixed layout.

An expression is put in brackets where its place asks for a tighter one. The operands of a chain of
`and` or `or` ask for a tighter expression each than the one before. In the fields of a formatted
literal no backslash may stand.
-/

namespace Sitemap.Source

/-- Why an expression cannot be written. -/
inductive WrittenFault where
  | value (fault : Value.Fault)
  | backslash
  deriving DecidableEq

def WrittenFault.message : WrittenFault → String
  | value fault => fault.message
  | backslash => "Unable to avoid backslash in f-string expression part"

/-! ## Strength -/

abbrev Strength := Nat

namespace Strength

/-- A tuple without brackets. -/
def tuple : Strength := 1
/-- A `yield`. -/
def yield : Strength := 2
/-- A condition or a function without a name. -/
def test : Strength := 3
/-- A disjunction. -/
def or : Strength := 4
/-- A conjunction. -/
def and : Strength := 5
/-- A negation. -/
def not : Strength := 6
/-- A comparison. -/
def comparison : Strength := 7
/-- The weakest arithmetic. -/
def operand : Strength := 8
/-- A signed number. -/
def factor : Strength := 14
def power : Strength := 15
def await : Strength := 16
/-- What no operator can take apart. -/
def atom : Strength := 17

def next (s : Strength) : Strength := min (s + 1) atom

end Strength

/-- The symbol of an operator. -/
def BinaryOp.symbol : BinaryOp → String
  | .add => "+"
  | .sub => "-"
  | .mul => "*"
  | .matMul => "@"
  | .div => "/"
  | .mod => "%"
  | .leftShift => "<<"
  | .rightShift => ">>"
  | .bitOr => "|"
  | .bitXor => "^"
  | .bitAnd => "&"
  | .floorDiv => "//"
  | .pow => "**"

/-- How tightly an operator binds. -/
def BinaryOp.strength : BinaryOp → Strength
  | .bitOr => 8
  | .bitXor => 9
  | .bitAnd => 10
  | .leftShift | .rightShift => 11
  | .add | .sub => 12
  | .mul | .matMul | .div | .mod | .floorDiv => 13
  | .pow => 15

def UnaryOp.sign : UnaryOp → String
  | .invert => "~"
  | .not => "not "
  | .plus => "+"
  | .minus => "-"

def UnaryOp.strength : UnaryOp → Strength
  | .not => .not
  | _ => .factor

/-- The text of a comparison. -/
def CompareOp.symbol : CompareOp → String
  | .eq => "=="
  | .notEq => "!="
  | .lt => "<"
  | .le => "<="
  | .gt => ">"
  | .ge => ">="
  | .is => "is"
  | .isNot => "is not"
  | .isIn => "in"
  | .notIn => "not in"

/-! ## String literals -/

/-- The four kinds of quotes, in order of preference. -/
def allQuotes : List (List Char) :=
  [['\''], ['"'], ['"', '"', '"'], ['\'', '\'', '\'']]

/-- One character as an escape. -/
def escapeFully (c : Char) : List Char :=
  if c = '\\' then ['\\', '\\']
  else if c = '\t' then ['\\', 't']
  else if c = '\n' then ['\\', 'n']
  else if c = '\r' then ['\\', 'r']
  else if c.toNat < 0x100 then '\\' :: 'x' :: hexDigits 2 c.toNat
  else if c.toNat < 0x10000 then '\\' :: 'u' :: hexDigits 4 c.toNat
  else '\\' :: 'U' :: hexDigits 8 c.toNat

/-- A unit, as an escape if it is a backslash or cannot be printed. Line feeds and tabs may stay. -/
def escapeRarely (blanks : Bool) : TextUnit → List Char
  | .char c =>
    if !blanks && (c == '\n' || c == '\t') then [c]
    else if c = '\\' || !isPrintable c then escapeFully c
    else [c]
  | .half n => '\\' :: 'u' :: hexDigits 4 n

def occursIn (part : List Char) : List Char → Bool
  | [] => part.isEmpty
  | c :: rest => part.isPrefixOf (c :: rest) || occursIn part rest

/-- A text between quotes yet to be chosen, with the quotes that fit, the best first. If none fits,
the text is written with escapes for quotes too. -/
def chooseQuotes (quotes : List (List Char)) (blanks : Bool) (us : List TextUnit) :
    List Char × List (List Char) :=
  let out := us.flatMap (escapeRarely blanks)
  let fitting := (quotes.filter fun q => !out.contains '\n' || q.length = 3).filter fun q =>
    !occursIn q out
  if fitting.isEmpty then
    let quote := quoteFor (us.filterMap TextUnit.char?)
    (us.flatMap (escapedUnit quote),
      [(quotes.find? fun q => q.head? = some quote).getD [quote]])
  else match out.getLast? with
    | none => (out, fitting)
    | some last =>
      let sorted := fitting.filter (fun q => q.head? ≠ some last) ++
        fitting.filter (fun q => q.head? = some last)
      if (sorted.head?.bind List.head?) = some last then (out.dropLast ++ ['\\', last], sorted)
      else (out, sorted)

/-- A text between the quotes chosen for it. -/
def quotedRarely (us : List TextUnit) : List Char :=
  let (out, quotes) := chooseQuotes allQuotes false us
  let quote := quotes.headD ['\'']
  quote ++ out ++ quote

/-- Parts of a formatted literal between quotes that fit all of them; only constant parts may have
their line feeds and tabs escaped. -/
def quotedParts (parts : List (List TextUnit × Bool)) : List Char :=
  let (out, quotes) := parts.foldl (fun (acc : List Char × List (List Char)) part =>
    let (out, quotes) := chooseQuotes acc.2 part.2 part.1
    (acc.1 ++ out, quotes)) ([], allQuotes)
  let quote := quotes.headD ['\'']
  quote ++ out ++ quote

/-! ## Constants -/

def replaceAll (part new : List Char) : (skip : Nat) → List Char → List Char
  | _, [] => []
  | skip + 1, _ :: rest => replaceAll part new skip rest
  | 0, c :: rest =>
    if part.isPrefixOf (c :: rest) then new ++ replaceAll part new (part.length - 1) rest
    else c :: replaceAll part new 0 rest

/-- The text of a floating number: infinity is written as a number too large. -/
def floatText (s : String) : String :=
  String.ofList (replaceAll "nan".toList "(1e309-1e309)".toList 0
    (replaceAll "inf".toList "1e309".toList 0 s.toList))

/-- The text of a constant; `plain` avoids backslashes. -/
def Constant.written (plain : Bool) : Constant → Except WrittenFault String
  | .none => .ok "None"
  | .bool b => .ok (if b then "True" else "False")
  | .ellipsis => .ok "..."
  | .int n => (Value.intText n).mapError .value
  | .float x => .ok (floatText x.text)
  | .imaginary x => .ok (floatText (complexText (.zero false) x))
  | .text s unicode =>
    .ok ((if unicode then "u" else "") ++
      (if plain then String.ofList (quotedRarely (s.toList.map .char)) else quoted s))
  | .unpaired t unicode =>
    .ok ((if unicode then "u" else "") ++
      (if plain then String.ofList (quotedRarely t.units) else quotedUnits t.units))
  | .bytes bs => .ok (quotedBytes bs)

/-- A constant that a point could be read as part of. -/
def Expr.isWhole : Expr → Bool
  | .constant (.int _) => true
  | .constant (.bool _) => true
  | _ => false

/-! ## Expressions -/

def bracketed (needed : Bool) (s : String) : String := if needed then "(" ++ s ++ ")" else s

/-- Items between commas; a single one is followed by a comma. -/
def tupleItems : List String → String
  | [only] => only ++ ","
  | items => Value.commaSeparated items

def braced (s : String) : String := "\x7b" ++ s ++ "\x7d"

/-- The start of a field of a formatted literal: a space keeps two opening braces apart, and no
backslash may stand there. -/
def fieldHead (text : String) (conversion : Option Char) : Except WrittenFault (List Char) :=
  let cs := text.toList
  let space := if cs.head? = some '\x7b' then [' '] else []
  let mark := match conversion with
    | some c => ['!', c]
    | none => []
  if cs.contains '\\' then .error .backslash else .ok ('\x7b' :: space ++ cs ++ mark)

/-- The text of a constant part of a formatted literal. -/
def doubleBraces (us : List TextUnit) : List TextUnit :=
  us.flatMap fun u => if u = .char '\x7b' ∨ u = .char '\x7d' then [u, u] else [u]

mutual

/-- The text of an expression where something at least as tight as `place` is asked for; `plain`
avoids backslashes. -/
def Expr.writtenAt (plain : Bool) (place : Strength) : Expr → Except WrittenFault String
  | .name id => .ok id
  | .constant c => c.written plain
  | .joined parts => do
    let texts ← partTexts parts
    if plain then return "f" ++ String.ofList (quotedRarely (texts.flatMap (·.1)))
    else return "f" ++ String.ofList (quotedParts texts)
  | .formatted value conversion spec => do
    let head ← fieldHead (← value.writtenAt true Strength.test.next) conversion
    let spec ← specText spec
    return "f" ++ String.ofList (quotedRarely (head.map .char ++ spec ++ [.char '\x7d']))
  | .attribute value attr => do
    let text ← value.writtenAt plain .atom
    return text ++ (if value.isWhole then " ." else ".") ++ attr
  | .subscript value (.tuple (first :: others)) => do
    let text ← value.writtenAt plain .atom
    let inner ← writtenAll plain .test (first :: others)
    return text ++ "[" ++ tupleItems inner ++ "]"
  | .subscript value index => do
    let text ← value.writtenAt plain .atom
    return text ++ "[" ++ (← index.writtenAt plain .test) ++ "]"
  | .slice lower upper step => do
    let lower ← optionText plain "" lower
    let upper ← optionText plain "" upper
    let step ← optionText plain ":" step
    return lower ++ ":" ++ upper ++ step
  | .starred value => do return "*" ++ (← value.writtenAt plain .operand)
  | .call function arguments keywords => do
    let text ← function.writtenAt plain .atom
    let positional ← writtenAll plain .test arguments
    let named ← keywordTexts plain keywords
    return text ++ "(" ++ Value.commaSeparated (positional ++ named) ++ ")"
  | .boolOp isAnd operands => do
    let own : Strength := if isAnd then .and else .or
    let texts ← writtenTighter plain own operands
    return bracketed (own < place) ((if isAnd then " and " else " or ").intercalate texts)
  | .named target value => do
    let target ← target.writtenAt plain .atom
    let value ← value.writtenAt plain .atom
    return bracketed (Strength.tuple < place) (target ++ " := " ++ value)
  | .binary left op right => do
    let own := op.strength
    let left ← left.writtenAt plain (if op = .pow then own.next else own)
    let right ← right.writtenAt plain (if op = .pow then own else own.next)
    return bracketed (own < place) (left ++ " " ++ op.symbol ++ " " ++ right)
  | .unary op operand => do
    let text ← operand.writtenAt plain op.strength
    return bracketed (op.strength < place) (op.sign ++ text)
  | .lambda parameters body => do
    let texts ← parameterTexts plain parameters
    let body ← body.writtenAt plain .test
    let head := if texts.isEmpty then "lambda: " else "lambda " ++ Value.commaSeparated texts ++ ": "
    return bracketed (Strength.test < place) (head ++ body)
  | .conditional test body otherwise => do
    let body ← body.writtenAt plain Strength.test.next
    let test ← test.writtenAt plain Strength.test.next
    let otherwise ← otherwise.writtenAt plain .test
    return bracketed (Strength.test < place) (body ++ " if " ++ test ++ " else " ++ otherwise)
  | .dict items => do return braced (Value.commaSeparated (← itemTexts plain items))
  | .set items => do return braced (Value.commaSeparated (← writtenAll plain .test items))
  | .list items => do
    return "[" ++ Value.commaSeparated (← writtenAll plain .test items) ++ "]"
  | .tuple items => do
    let text := tupleItems (← writtenAll plain .test items)
    return bracketed (items.isEmpty || Strength.tuple < place) text
  | .listComp element clauses => do
    return "[" ++ (← element.writtenAt plain .test) ++ (← clauseTexts plain clauses) ++ "]"
  | .setComp element clauses => do
    return braced ((← element.writtenAt plain .test) ++ (← clauseTexts plain clauses))
  | .generator element clauses => do
    return "(" ++ (← element.writtenAt plain .test) ++ (← clauseTexts plain clauses) ++ ")"
  | .dictComp key value clauses => do
    let key ← key.writtenAt plain .test
    let value ← value.writtenAt plain .test
    return braced (key ++ ": " ++ value ++ (← clauseTexts plain clauses))
  | .await value => do
    return bracketed (Strength.await < place) ("await " ++ (← value.writtenAt plain .atom))
  | .yield value => do
    return bracketed (Strength.yield < place) ("yield" ++ (← yieldedText plain value))
  | .yieldFrom value => do
    return bracketed (Strength.yield < place) ("yield from " ++ (← value.writtenAt plain .atom))
  | .compare left rest => do
    let left ← left.writtenAt plain Strength.comparison.next
    let rest ← comparisonTexts plain rest
    return bracketed (Strength.comparison < place) (left ++ rest)

def Expr.writtenAll (plain : Bool) (place : Strength) : List Expr → Except WrittenFault (List String)
  | [] => .ok []
  | e :: rest => do
    let text ← e.writtenAt plain place
    return text :: (← writtenAll plain place rest)

def Expr.writtenTighter (plain : Bool) (place : Strength) :
    List Expr → Except WrittenFault (List String)
  | [] => .ok []
  | e :: rest => do
    let text ← e.writtenAt plain place.next
    return text :: (← writtenTighter plain place.next rest)

def Expr.optionText (plain : Bool) (before : String) : Option Expr → Except WrittenFault String
  | none => .ok ""
  | some e => do return before ++ (← e.writtenAt plain .test)

def Expr.yieldedText (plain : Bool) : Option Expr → Except WrittenFault String
  | none => .ok ""
  | some e => do return " " ++ (← e.writtenAt plain .atom)

/-- Keyword arguments. -/
def Expr.keywordTexts (plain : Bool) : List Keyword → Except WrittenFault (List String)
  | [] => .ok []
  | .mk key value :: rest => do
    let text ← value.writtenAt plain .test
    let head := match key with
      | some id => id ++ "="
      | none => "**"
    return (head ++ text) :: (← keywordTexts plain rest)

/-- Items of a dictionary. -/
def Expr.itemTexts (plain : Bool) : List DictItem → Except WrittenFault (List String)
  | [] => .ok []
  | .pair key value :: rest => do
    let key ← key.writtenAt plain .test
    let value ← value.writtenAt plain .test
    return (key ++ ": " ++ value) :: (← itemTexts plain rest)
  | .spread value :: rest => do
    let text ← value.writtenAt plain .operand
    return ("**" ++ text) :: (← itemTexts plain rest)

/-- Parameters and the marks between them. -/
def Expr.parameterTexts (plain : Bool) : List Parameter → Except WrittenFault (List String)
  | [] => .ok []
  | .plain id fallback :: rest => do
    let text ← optionText plain "=" fallback
    return (id ++ text) :: (← parameterTexts plain rest)
  | .slash :: rest => do return "/" :: (← parameterTexts plain rest)
  | .star :: rest => do return "*" :: (← parameterTexts plain rest)
  | .rest id :: rest => do return ("*" ++ id) :: (← parameterTexts plain rest)
  | .keywordRest id :: rest => do return ("**" ++ id) :: (← parameterTexts plain rest)

/-- The clauses of a comprehension. -/
def Expr.clauseTexts (plain : Bool) : List Clause → Except WrittenFault String
  | [] => .ok ""
  | .mk isAsync target source conditions :: rest => do
    let target ← target.writtenAt plain .tuple
    let source ← source.writtenAt plain Strength.test.next
    let conditions ← writtenAll plain Strength.test.next conditions
    let head := if isAsync then " async for " else " for "
    return head ++ target ++ " in " ++ source ++ String.join (conditions.map (" if " ++ ·)) ++
      (← clauseTexts plain rest)

def Expr.comparisonTexts (plain : Bool) : List Comparison → Except WrittenFault String
  | [] => .ok ""
  | .mk op right :: rest => do
    let text ← right.writtenAt plain Strength.comparison.next
    return " " ++ op.symbol ++ " " ++ text ++ (← comparisonTexts plain rest)

def Expr.specText : Option Expr → Except WrittenFault (List TextUnit)
  | some (.joined parts) => do return .char ':' :: (← partTexts parts).flatMap (·.1)
  | _ => .ok []

/-- The parts of a formatted literal, with whether they are constant. -/
def Expr.partTexts : List Expr → Except WrittenFault (List (List TextUnit × Bool))
  | [] => .ok []
  | .constant (.text s _) :: rest => do
    return (doubleBraces (s.toList.map .char), true) :: (← partTexts rest)
  | .constant (.unpaired t _) :: rest => do
    return (doubleBraces t.units, true) :: (← partTexts rest)
  | .formatted value conversion spec :: rest => do
    let head ← fieldHead (← value.writtenAt true Strength.test.next) conversion
    let spec ← specText spec
    return (head.map .char ++ spec ++ [.char '\x7d'], false) :: (← partTexts rest)
  | _ :: rest => partTexts rest

end

def Expr.written (e : Expr) : Except WrittenFault String := e.writtenAt false .test

end Sitemap.Source
