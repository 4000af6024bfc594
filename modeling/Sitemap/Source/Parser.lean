import Sitemap.Source.TextLiteral
import Sitemap.Text.Compatibility

/-!
# Parsers of token lists

* `Source.Step` : a value read from the start of a token list, with the rest, which is an end part
  of the list;
* `Source.Parser` : reads a value from the start of a token list, or fails;
* `Parser.run` : the value and the rest, without the proof;
* `Parser.orElse`, `optional`, `many`, `sepBy` : the usual combinators; repetition is bounded by
  the number of tokens;
* `keyword`, `op`, `name`, `newline` : single tokens;
* `tryOp`, `tryWord`, `commaList` : a token if it comes next, and items between commas.

That what is left is an end part of what was given holds by construction, so no grammar rule needs
a proof of it.
-/

namespace Sitemap.Source

/-- A value read from the start of a token list. -/
structure Step (α : Type) (given : List Token) where
  value : α
  rest : List Token
  rest_suffix : rest <:+ given

/-- Reads a value from the start of a token list, or fails. -/
def Parser (α : Type) : Type := (given : List Token) → Option (Step α given)

namespace Parser

variable {α β : Type}

protected def pure (a : α) : Parser α := fun given => some ⟨a, given, List.suffix_refl given⟩

/-- Goes on where the first parser stopped. -/
protected def bind (p : Parser α) (f : α → Parser β) : Parser β := fun given =>
  match p given with
  | none => none
  | some ⟨a, rest, h⟩ =>
    match f a rest with
    | none => none
    | some ⟨b, rest', h'⟩ => some ⟨b, rest', h'.trans h⟩

instance : Monad Parser where
  pure := Parser.pure
  bind := Parser.bind

def run (p : Parser α) (given : List Token) : Option (α × List Token) :=
  (p given).map fun step => (step.value, step.rest)

def fail : Parser α := fun _ => none

def ofOption (a? : Option α) : Parser α :=
  match a? with
  | some a => Parser.pure a
  | none => fail

/-- Fails unless a condition holds. -/
def ensure (condition : Bool) : Parser Unit := if condition then Parser.pure () else fail

/-- The second parser reads if the first fails. -/
def orElse (p q : Parser α) : Parser α := fun given =>
  match p given with
  | some step => some step
  | none => q given

def optional (p : Parser α) : Parser (Option α) :=
  orElse (do return some (← p)) (Parser.pure none)

/-- The next token, which stays. -/
def peek : Parser (Option TokenKind) := fun given =>
  some ⟨given.head?.map (·.kind), given, List.suffix_refl given⟩

/-- The token after the next, which stays. -/
def peekSecond : Parser (Option TokenKind) := fun given =>
  some ⟨(given.drop 1).head?.map (·.kind), given, List.suffix_refl given⟩

def line : Parser Nat := fun given =>
  some ⟨(given.head?.map (·.line)).getD 0, given, List.suffix_refl given⟩

/-- The next token, if it has a value in some respect. -/
def token (f : TokenKind → Option α) : Parser α := fun given =>
  match given with
  | [] => none
  | t :: rest =>
    match f t.kind with
    | some a => some ⟨a, rest, List.suffix_cons t rest⟩
    | none => none

/-- Values as long as there are some, at most one for each token of a bound. -/
def manyUpTo (p : Parser α) : (bound : List Token) → Parser (List α)
  | [] => Parser.pure []
  | _ :: bound => fun given =>
    match p given with
    | none => some ⟨[], given, List.suffix_refl given⟩
    | some ⟨a, rest, h⟩ =>
      match manyUpTo p bound rest with
      | none => none
      | some ⟨as, rest', h'⟩ => some ⟨a :: as, rest', h'.trans h⟩

def many (p : Parser α) : Parser (List α) := fun given => manyUpTo p given given

def some1 (p : Parser α) : Parser (List α) := do
  let first ← p
  let others ← many p
  return first :: others

/-- Values with a separator before each but the first. -/
def sepBy (p : Parser α) (separator : Parser Unit) : Parser (List α) := do
  let first ← p
  let others ← many (do separator; p)
  return first :: others

end Parser

open Sitemap.Source.Parser

/-! ## Tokens -/

/-- The keywords of the language. -/
def keywords : List String :=
  ["False", "None", "True", "and", "as", "assert", "async", "await", "break", "class", "continue",
    "def", "del", "elif", "else", "except", "finally", "for", "from", "global", "if", "import",
    "in", "is", "lambda", "nonlocal", "not", "or", "pass", "raise", "return", "try", "while",
    "with", "yield"]

def TokenKind.isWord (s : String) : TokenKind → Bool
  | .word spelling => spelling == s
  | _ => false

def TokenKind.isOp (s : String) : TokenKind → Bool
  | .op symbol => symbol == s
  | _ => false

def TokenKind.isNewline : TokenKind → Bool
  | .newline => true
  | _ => false

def TokenKind.isName : TokenKind → Bool
  | .word spelling => !keywords.contains spelling
  | _ => false

def keyword (s : String) : Parser Unit := token fun kind => if kind.isWord s then some () else none

def op (s : String) : Parser Unit := token fun kind => if kind.isOp s then some () else none

def name : Parser String := token fun
  | .word spelling => if keywords.contains spelling then none else some (composeCompatibly spelling)
  | _ => none

def newline : Parser Unit := token fun kind => if kind.isNewline then some () else none

def indent : Parser Unit := token fun
  | .indent => some ()
  | _ => none

def dedent : Parser Unit := token fun
  | .dedent => some ()
  | _ => none

def finish : Parser Unit := token fun
  | .finish => some ()
  | _ => none

def nextIsWord (s : String) : Parser Bool := do return (← peek).any (·.isWord s)

def nextIsOp (s : String) : Parser Bool := do return (← peek).any (·.isOp s)

/-- Whether a given symbol follows; if so it is read. -/
def tryOp (s : String) : Parser Bool := do
  if ← nextIsOp s then
    op s
    return true
  else return false

/-- Whether a given word follows; if so it is read. -/
def tryWord (s : String) : Parser Bool := do
  if ← nextIsWord s then
    keyword s
    return true
  else return false

/-- Values between commas, with whether there was any comma; a last one may stand alone. -/
def commaList {α : Type} (p : Parser α) : Parser (List α × Bool) := do
  let first ← p
  let others ← many (do op ","; p)
  let trailing ← tryOp ","
  return (first :: others, trailing || !others.isEmpty)

/-- Whether a name and then a given symbol follow. -/
def nextIsNameBefore (s : String) : Parser Bool := do
  return (← peek).any (·.isName) && (← peekSecond).any (·.isOp s)

end Sitemap.Source
