import Sitemap.Source.Numeral
import Sitemap.Text.Identifier
import Sitemap.Text.Lines

/-!
# Tokens

* `Source.Token` : a token with the line it begins on;
* `Source.TextMark` : the letters before a string literal;
* `Source.Place` : where the reader is: its line, the indentations in force, the open brackets;
* `Source.measureIndent?`, `Source.indentTokens?` : how a line begins;
* `Source.scan?` : the tokens of a text.

A line that holds nothing or only a comment gives no token, nor does a line end inside brackets.
Indentation is measured twice, with tabs to every eighth column and with tabs as one column, and
both measures have to agree on what is deeper.
-/

namespace Sitemap.Source

/-- The letters before a string literal. -/
structure TextMark where
  raw : Bool := false
  bytes : Bool := false
  format : Bool := false
  unicode : Bool := false
  deriving DecidableEq, Repr

/-- What a token is. A word is a name or a keyword, as spelled; a string literal holds the text
between its quotes, as spelled. -/
inductive TokenKind where
  | word (spelling : String)
  | number (value : Constant)
  | text (mark : TextMark) (body : List Char)
  | op (symbol : String)
  | newline
  | indent
  | dedent
  | finish

/-- A token and the line it begins on. -/
structure Token where
  kind : TokenKind
  line : Nat

/-- Where the reader is. An indentation is given by its two measures; the innermost comes first
and the outermost, of no columns, is not listed. -/
structure Place where
  line : Nat := 1
  indents : List (Nat × Nat) := []
  brackets : List Char := []

/-! ## Indentation -/

/-- The measures of the white space at the start of a line, the line after it and the rest. A
backslash joins the next line; then only the column of the first backslash counts, if there is
one before it. -/
def measureIndent? (line column plain joined : Nat) :
    List Char → Option (Nat × Nat × Nat × List Char)
  | ' ' :: rest => measureIndent? line (column + 1) (plain + 1) joined rest
  | '\t' :: rest => measureIndent? line ((column / 8 + 1) * 8) (plain + 1) joined rest
  | '\x0c' :: rest => measureIndent? line 0 0 joined rest
  | '\\' :: '\n' :: rest =>
    if rest.isEmpty then none
    else measureIndent? (line + 1) column plain (if joined = 0 then column else joined) rest
  | '\\' :: _ => none
  | cs => some (if joined = 0 then column else joined, if joined = 0 then plain else joined,
      line, cs)

/-- Closes the indentations deeper than a column: how many, and what stays. -/
def closeIndents (column : Nat) : List (Nat × Nat) → Nat × List (Nat × Nat)
  | [] => (0, [])
  | (c, p) :: outer =>
    if column < c then
      let (n, rest) := closeIndents column outer
      (n + 1, rest)
    else (0, (c, p) :: outer)

/-- The tokens of a line's indentation, and the indentations then in force. -/
def indentTokens? (column plain : Nat) (indents : List (Nat × Nat)) :
    Option (List TokenKind × List (Nat × Nat)) :=
  let (c, p) := indents.head?.getD (0, 0)
  if column = c then if plain = p then some ([], indents) else none
  else if c < column then
    if 100 ≤ indents.length + 1 ∨ plain ≤ p then none
    else some ([.indent], (column, plain) :: indents)
  else
    let (n, rest) := closeIndents column indents
    if rest.head?.getD (0, 0) = (column, plain) then some (List.replicate n .dedent, rest) else none

/-! ## String literals -/

/-- The letters of a string literal, in any case. -/
def textMark? (word : List Char) : Option TextMark :=
  let letters := word.map Char.toLower
  if letters = [] then some {}
  else if letters = ['b'] then some { bytes := true }
  else if letters = ['r'] then some { raw := true }
  else if letters = ['u'] then some { unicode := word = ['u'] }
  else if letters = ['f'] then some { format := true }
  else if letters = ['b', 'r'] ∨ letters = ['r', 'b'] then some { raw := true, bytes := true }
  else if letters = ['f', 'r'] ∨ letters = ['r', 'f'] then some { raw := true, format := true }
  else none

/-- The body of a string literal up to its closing quotes, and what follows them. A character after
a backslash never closes it, and one quote does not go over the end of a line. -/
def readBody? (quote : Char) (triple : Bool) : List Char → Option (List Char × List Char)
  | [] => none
  | '\\' :: c :: rest =>
    (readBody? quote triple rest).map fun (body, rest) => ('\\' :: c :: body, rest)
  | c :: rest =>
    if c = quote ∧ (!triple || rest.take 2 = [quote, quote]) then
      some ([], if triple then rest.drop 2 else rest)
    else if (c = '\n' ∧ !triple) ∨ c = '\\' then none
    else (readBody? quote triple rest).map fun (body, rest) => (c :: body, rest)

/-- The body of a string literal after its first quote. -/
def readText? (quote : Char) (cs : List Char) : Option (List Char × List Char) :=
  match cs with
  | c :: d :: rest =>
    if c = quote ∧ d = quote then readBody? quote true rest else readBody? quote false cs
  | cs => readBody? quote false cs

def advance (line : Nat) (cs : List Char) : Nat := line + cs.count '\n'

/-! ## Symbols -/

def symbols3 : List (List Char) :=
  ["**=", "...", "//=", "<<=", ">>="].map String.toList

def symbols2 : List (List Char) :=
  ["!=", "%=", "&=", "**", "*=", "+=", "-=", "->", "//", "/=", ":=", "<<", "<=", "<>", "==", ">=",
    ">>", "@=", "^=", "|="].map String.toList

def symbols1 : List Char := "%&()*+,-./:;<=>@[]^\x7b|\x7d~".toList

def readSymbol? (cs : List Char) : Option (List Char × List Char) :=
  if symbols3.contains (cs.take 3) then some (cs.take 3, cs.drop 3)
  else if symbols2.contains (cs.take 2) then some (cs.take 2, cs.drop 2)
  else match cs with
    | c :: rest => if symbols1.contains c then some ([c], rest) else none
    | [] => none

/-- The brackets open after a symbol: at most 200, closed in order. -/
def nest? (symbol : List Char) (brackets : List Char) : Option (List Char) :=
  match symbol with
  | [c] =>
    if c = '(' ∨ c = '[' ∨ c = '\x7b' then
      if 200 ≤ brackets.length then none else some (c :: brackets)
    else if c = ')' ∨ c = ']' ∨ c = '\x7d' then
      match brackets with
      | b :: outer =>
        if (b = '(' ∧ c = ')') ∨ (b = '[' ∧ c = ']') ∨ (b = '\x7b' ∧ c = '\x7d') then some outer
        else none
      | [] => none
    else some brackets
  | _ => some brackets

/-! ## The reader -/

/-- Where the reader stands in a line: at its start, behind the indentation of a line without
tokens, or inside a line with tokens. -/
inductive LinePart where
  | start
  | bare
  | inside
  deriving DecidableEq

def isGap (c : Char) : Bool := c == ' ' || c == '\t' || c == '\x0c'

/-- The spelling of a word is an identifier; in ASCII it always is. -/
def isSpelling (word : List Char) : Bool := word.all (·.val < 0x80) || isIdentifier word

/-- The tokens of a text. Each step reads a token, a line end, a joined line or an indentation. -/
def scanFrom? : (fuel : Nat) → Place → LinePart → List Char → Option (List Token)
  | 0, _, _, _ => none
  | fuel + 1, place, .start, cs => do
    let (column, plain, line, rest) ← measureIndent? place.line 0 0 0 cs
    let place := { place with line }
    let bare := rest.head? = some '#' ∨ rest.head? = some '\n'
    if bare then scanFrom? fuel place .bare rest
    else if !place.brackets.isEmpty then scanFrom? fuel place .inside rest
    else
      let (kinds, indents) ← indentTokens? column plain place.indents
      let tokens ← scanFrom? fuel { place with indents } .inside rest
      return (kinds.map fun kind => ⟨kind, line⟩) ++ tokens
  | fuel + 1, place, part, cs =>
    let cs := cs.dropWhile isGap
    let cs := if cs.head? = some '#' then cs.dropWhile (· ≠ '\n') else cs
    match cs with
    | [] => if place.brackets.isEmpty then some [⟨.finish, place.line⟩] else none
    | '\n' :: rest =>
      let next := { place with line := place.line + 1 }
      if part = .bare ∨ !place.brackets.isEmpty then scanFrom? fuel next .start rest
      else (scanFrom? fuel next .start rest).map (⟨.newline, place.line⟩ :: ·)
    | '\\' :: rest =>
      match rest with
      | '\n' :: c :: rest =>
        scanFrom? fuel { place with line := place.line + 1 } part (c :: rest)
      | _ => none
    | c :: rest =>
      if isWordStart c then
        let word := (c :: rest).takeWhile isWordChar
        let rest := (c :: rest).dropWhile isWordChar
        match rest with
        | q :: rest' =>
          match if q = '"' ∨ q = '\'' then textMark? word else none with
          | some mark => do
            let (body, after) ← readText? q rest'
            let next := { place with line := advance place.line body }
            let tokens ← scanFrom? fuel next .inside after
            return ⟨.text mark body, place.line⟩ :: tokens
          | none =>
            if isSpelling word then
              (scanFrom? fuel place .inside rest).map
                (⟨.word (String.ofList word), place.line⟩ :: ·)
            else none
        | [] =>
          if isSpelling word then
            (scanFrom? fuel place .inside rest).map (⟨.word (String.ofList word), place.line⟩ :: ·)
          else none
      else if c = '"' ∨ c = '\'' then do
        let (body, after) ← readText? c rest
        let next := { place with line := advance place.line body }
        let tokens ← scanFrom? fuel next .inside after
        return ⟨.text {} body, place.line⟩ :: tokens
      else if c.isDigit || (c == '.' && rest.head?.any Char.isDigit) then do
        let (value, after) ← readNumeral? (c :: rest)
        let tokens ← scanFrom? fuel place .inside after
        return ⟨.number value, place.line⟩ :: tokens
      else do
        let (symbol, after) ← readSymbol? (c :: rest)
        let brackets ← nest? symbol place.brackets
        let tokens ← scanFrom? fuel { place with brackets } .inside after
        return ⟨.op (String.ofList symbol), place.line⟩ :: tokens

/-- The tokens of a text, the last one marking its end. -/
def scan? (cs : List Char) : Option (List Token) :=
  scanFrom? (2 * cs.length + 2) {} .start cs

def completeLines (cs : List Char) : List Char :=
  let cs := unifyLines cs
  if cs.getLast? = some '\n' then cs else cs ++ ['\n']

end Sitemap.Source
