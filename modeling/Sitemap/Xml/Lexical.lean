/-!
# Characters, names and references of XML

* `Xml.isChar`, `isNameStart`, `isNameChar`, `isSpace` : the character classes of XML 1.0;
* `Xml.readName?` : a name and what follows it;
* `Xml.readDelimited?` : the text up to a closing delimiter;
* `Xml.characterReference?` : the character of `&#…;`;
* `Xml.predefined?` : the five entities that need no declaration;
* `Xml.Remark` : a finding that does not stop the reading.
-/

namespace Sitemap.Xml

/-- A finding that does not stop the reading. A document is accepted if the last remark on it is no
error. -/
inductive Remark where
  | warning
  | error
  deriving DecidableEq, Repr

def isChar (c : Char) : Bool :=
  let n := c.toNat
  n == 9 || n == 10 || n == 13 || (0x20 ≤ n && n ≤ 0xd7ff) || (0xe000 ≤ n && n ≤ 0xfffd) ||
  0x10000 ≤ n

def isSpace (c : Char) : Bool := c == ' ' || c == '\t' || c == '\n' || c == '\r'

/-- The characters that begin a name. -/
def isNameStart (c : Char) : Bool :=
  let n := c.toNat
  c == ':' || c == '_' || c.isAlpha ||
  (0xc0 ≤ n && n ≤ 0xd6) || (0xd8 ≤ n && n ≤ 0xf6) || (0xf8 ≤ n && n ≤ 0x2ff) ||
  (0x370 ≤ n && n ≤ 0x37d) || (0x37f ≤ n && n ≤ 0x1fff) || (0x200c ≤ n && n ≤ 0x200d) ||
  (0x2070 ≤ n && n ≤ 0x218f) || (0x2c00 ≤ n && n ≤ 0x2fef) || (0x3001 ≤ n && n ≤ 0xd7ff) ||
  (0xf900 ≤ n && n ≤ 0xfdcf) || (0xfdf0 ≤ n && n ≤ 0xfffd) || (0x10000 ≤ n && n ≤ 0xeffff)

def isNameChar (c : Char) : Bool :=
  let n := c.toNat
  isNameStart c || c == '-' || c == '.' || c.isDigit || n == 0xb7 ||
  (0x300 ≤ n && n ≤ 0x36f) || (0x203f ≤ n && n ≤ 0x2040)

def skipSpace (cs : List Char) : List Char := cs.dropWhile isSpace

/-- What follows white space, of which there must be some. -/
def skipSomeSpace? : List Char → Option (List Char)
  | c :: rest => if isSpace c then some (skipSpace rest) else none
  | [] => none

def dropText? : (text : List Char) → List Char → Option (List Char)
  | [], cs => some cs
  | t :: text, c :: cs => if t = c then dropText? text cs else none
  | _ :: _, [] => none

def readName? : List Char → Option (List Char × List Char)
  | [] => none
  | c :: rest =>
    if isNameStart c then some (c :: rest.takeWhile isNameChar, rest.dropWhile isNameChar)
    else none

def readToken? (cs : List Char) : Option (List Char × List Char) :=
  match cs.takeWhile isNameChar with
  | [] => none
  | token => some (token, cs.dropWhile isNameChar)

def readDelimited? (close : List Char) : List Char → Option (List Char × List Char)
  | [] => (dropText? close []).map fun rest => ([], rest)
  | c :: cs =>
    match dropText? close (c :: cs) with
    | some rest => some ([], rest)
    | none => (readDelimited? close cs).map fun (text, rest) => (c :: text, rest)

def readQuoted? : List Char → Option (List Char × List Char)
  | '"' :: cs => readDelimited? ['"'] cs
  | '\'' :: cs => readDelimited? ['\''] cs
  | _ => none

/-- The parts of a qualified name: a prefix and a local part, neither with a colon. -/
def splitQualified? (name : List Char) : Option (Option (List Char) × List Char) :=
  match name.span (· ≠ ':') with
  | (first, []) => if first.isEmpty then none else some (none, first)
  | (first, _ :: second) =>
    match second with
    | [] => none
    | c :: _ =>
      if first.isEmpty || second.contains ':' || !isNameStart c then none
      else some (some first, second)

def digitValue? (hex : Bool) (c : Char) : Option Nat :=
  if c.isDigit then some (c.toNat - 48)
  else if hex && 'a' ≤ c && c ≤ 'f' then some (c.toNat - 87)
  else if hex && 'A' ≤ c && c ≤ 'F' then some (c.toNat - 55)
  else none

/-- The number of digits up to a semicolon, at least one, held below a bound beyond all
characters. -/
def readNumber? (hex : Bool) (value : Nat) (some_ : Bool) :
    List Char → Option (Nat × List Char)
  | [] => none
  | c :: rest =>
    if c = ';' then if some_ then some (value, rest) else none
    else match digitValue? hex c with
      | some d => readNumber? hex (min 0x110000 (value * (if hex then 16 else 10) + d)) true rest
      | none => none

/-- The character of a reference, after `&#`. -/
def characterReference? (cs : List Char) : Option (Char × List Char) := do
  let (n, rest) ← match cs with
    | 'x' :: digits => readNumber? true 0 false digits
    | digits => readNumber? false 0 false digits
  if n < 0x110000 ∧ ¬ (0xd800 ≤ n ∧ n < 0xe000) ∧ n ≠ 0 then
    let c := Char.ofNat n
    if isChar c then some (c, rest) else none
  else none

def entityReference? (cs : List Char) : Option (List Char × List Char) := do
  match ← readName? cs with
  | (name, ';' :: rest) => some (name, rest)
  | _ => none

/-- The entities that need no declaration. -/
def predefined? (name : List Char) : Option Char :=
  if name = ['l', 't'] then some '<'
  else if name = ['g', 't'] then some '>'
  else if name = ['a', 'm', 'p'] then some '&'
  else if name = ['a', 'p', 'o', 's'] then some '\''
  else if name = ['q', 'u', 'o', 't'] then some '"'
  else none

/-- A comment after `<!--`: two hyphens end it. -/
def readComment? (cs : List Char) : Option (List Char) := do
  match ← readDelimited? ['-', '-'] cs with
  | (_, '>' :: rest) => some rest
  | _ => none

/-- A processing instruction after `<?`, with the remark on its target. A target may not be `xml`
in any case, should have no colon and should not begin with `xml`, two known ones apart. -/
def readInstruction? (cs : List Char) : Option (List Remark × List Char) := do
  let (target, rest) ← readName? cs
  let start := (target.take 3).map Char.toLower
  let reserved := start = ['x', 'm', 'l']
  if reserved ∧ target.length = 3 then none
  let known := target = "xml-stylesheet".toList ∨ target = "xml-model".toList
  let remarks := (if reserved ∧ ¬ known then [Remark.warning] else []) ++
    (if target.contains ':' then [Remark.error] else [])
  match dropText? ['?', '>'] rest with
  | some rest => return (remarks, rest)
  | none =>
    let rest ← skipSomeSpace? rest
    let (_, rest) ← readDelimited? ['?', '>'] rest
    return (remarks, rest)

end Sitemap.Xml
