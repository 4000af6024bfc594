import Sitemap.Xml.Lexical

/-!
# Declarations inside a document type

* `Xml.Entity` : what a declared entity stands for;
* `Xml.Subset` : the declarations that bear on the content: entities and default attributes;
* `Xml.Subset.attributeText?` : an attribute value with its references replaced;
* `Xml.Subset.read?` : reads declarations up to the closing bracket.

Element and notation declarations are checked for their form and dropped. A parameter entity may
stand between declarations only.
-/

namespace Sitemap.Xml

/-- What a declared entity stands for: its own text, a resource that is never read, or data that
cannot be referred to. -/
inductive Entity where
  | internal (content : List Char)
  | external
  | unparsed

/-- The declarations of a document. The first declaration of a name counts. `isOpen` says that
there may be declarations that were not read. -/
structure Subset where
  entities : List (List Char × Entity) := []
  parameters : List (List Char × Entity) := []
  defaults : List (List Char × List Char × List Char) := []
  isOpen : Bool := false
  standalone : Bool := false
  remarks : List Remark := []

namespace Subset

def remark (s : Subset) (r : Remark) : Subset := { s with remarks := s.remarks ++ [r] }

def errorIf (s : Subset) (fault : Bool) : Subset := if fault then s.remark .error else s

def entity? (s : Subset) (name : List Char) : Option Entity := s.entities.lookup name

/-- A reference to an undeclared entity is only an error, and not the end, if its declaration may
have been missed. -/
def toleratesUndeclared (s : Subset) : Bool := s.isOpen && !s.standalone

/-! ## Attribute values -/

/-- An attribute value with its references replaced and its white space as spaces. A less-than sign
is refused, also inside an entity; entities nest at most `depth` deep. -/
def expandAttribute (s : Subset) : (depth fuel : Nat) → List Char →
    Option (List Char × List Remark)
  | _, _, [] => some ([], [])
  | _, 0, _ :: _ => none
  | depth, fuel + 1, '&' :: '#' :: rest => do
    let (c, rest) ← characterReference? rest
    let (cs, remarks) ← expandAttribute s depth fuel rest
    return (c :: cs, remarks)
  | depth, fuel + 1, '&' :: rest => do
    let (name, rest) ← entityReference? rest
    let (here, before) ← match predefined? name with
      | some c => some ([c], [])
      | none => match s.entity? name, depth with
        | some (.internal content), depth + 1 => expandAttribute s depth content.length content
        | none, _ => if s.toleratesUndeclared then some ([], [Remark.error]) else none
        | _, _ => none
    let (cs, remarks) ← expandAttribute s depth fuel rest
    return (here ++ cs, before ++ remarks)
  | depth, fuel + 1, c :: rest => do
    if c = '<' then none
    let (cs, remarks) ← expandAttribute s depth fuel rest
    return ((if isSpace c then ' ' else c) :: cs, remarks)

def attributeText? (s : Subset) (written : List Char) : Option (List Char × List Remark) :=
  s.expandAttribute (s.entities.length + 1) written.length written

/-! ## Entity declarations -/

/-- The replacement text of an entity: references to characters are replaced, references to
entities are kept, and a percent sign is refused. -/
def entityText : (fuel : Nat) → List Char → Option (List Char)
  | _, [] => some []
  | 0, _ :: _ => none
  | fuel + 1, '&' :: '#' :: rest => do
    let (c, rest) ← characterReference? rest
    return c :: (← entityText fuel rest)
  | fuel + 1, '&' :: rest => do
    let (name, rest) ← entityReference? rest
    return '&' :: name ++ ';' :: (← entityText fuel rest)
  | fuel + 1, c :: rest => do
    if c = '%' then none
    return c :: (← entityText fuel rest)

def isPublicChar (c : Char) : Bool :=
  c.isAlphanum || " \n-'()+,./:=?;!*#@$_%".toList.contains c

/-- An external identifier; `publicOnly` allows a public identifier without a location. -/
def readExternal? (publicOnly : Bool) (cs : List Char) : Option (List Char) :=
  match dropText? "SYSTEM".toList cs with
  | some rest => do
    let rest ← skipSomeSpace? rest
    return (← readQuoted? rest).2
  | none => do
    let rest ← dropText? "PUBLIC".toList cs
    let rest ← skipSomeSpace? rest
    let (identifier, rest) ← readQuoted? rest
    if !identifier.all isPublicChar then none
    match skipSomeSpace? rest with
    | some after => match readQuoted? after with
      | some (_, rest) => some rest
      | none => if publicOnly then some rest else none
    | none => if publicOnly then some rest else none

def close? (cs : List Char) : Option (List Char) := dropText? ['>'] (skipSpace cs)

/-- An entity declaration after its keyword. -/
def readEntity? (s : Subset) (cs : List Char) : Option (Subset × List Char) := do
  let rest ← skipSomeSpace? cs
  let (parameter, rest) ← match rest with
    | '%' :: rest => (skipSomeSpace? rest).map fun rest => (true, rest)
    | rest => some (false, rest)
  let (name, rest) ← readName? rest
  let s := s.errorIf (name.contains ':')
  let rest ← skipSomeSpace? rest
  let (entity, rest) ← match readQuoted? rest with
    | some (written, rest) => do
      let content ← entityText written.length written
      some (Entity.internal content, rest)
    | none => do
      let rest ← readExternal? false rest
      match if parameter then none else skipSomeSpace? rest with
      | some after => match dropText? "NDATA".toList after with
        | some after => do
          let after ← skipSomeSpace? after
          let (_, after) ← readName? after
          some (Entity.unparsed, after)
        | none => some (Entity.external, rest)
      | none => some (Entity.external, rest)
  let rest ← close? rest
  if parameter then return ({ s with parameters := s.parameters ++ [(name, entity)] }, rest)
  else return ({ s with entities := s.entities ++ [(name, entity)] }, rest)

/-! ## Element declarations -/

def skipRepetition : List Char → List Char
  | c :: rest => if c = '?' ∨ c = '*' ∨ c = '+' then rest else c :: rest
  | [] => []

/-- A group of a content model after its opening bracket: parts between separators of one kind.
`wantPart` says that a part has to come next. -/
def readGroup? : (fuel : Nat) → (separator : Option Char) → (wantPart : Bool) →
    List Char → Option (List Char)
  | 0, _, _, _ => none
  | fuel + 1, separator, true, cs =>
    match skipSpace cs with
    | '(' :: rest => do
      let rest ← readGroup? fuel none true rest
      readGroup? fuel separator false rest
    | cs => do
      let (_, rest) ← readName? cs
      readGroup? fuel separator false (skipRepetition rest)
  | fuel + 1, separator, false, cs =>
    match skipSpace cs with
    | ')' :: rest => some (skipRepetition rest)
    | c :: rest =>
      if (c = ',' ∨ c = '|') ∧ (separator = none ∨ separator = some c) then
        readGroup? fuel (some c) true rest
      else none
    | [] => none

/-- The names of a mixed model up to its end. -/
def readMixed? : (fuel : Nat) → (alone : Bool) → List Char → Option (List Char)
  | 0, _, _ => none
  | fuel + 1, alone, cs =>
    match skipSpace cs with
    | ')' :: '*' :: rest => some rest
    | ')' :: rest => if alone then some rest else none
    | '|' :: rest => do
      let (_, rest) ← readName? (skipSpace rest)
      readMixed? fuel false rest
    | _ => none

/-- An element declaration after its keyword. -/
def readElement? (cs : List Char) : Option (List Char) := do
  let rest ← skipSomeSpace? cs
  let (_, rest) ← readName? rest
  let rest ← skipSomeSpace? rest
  let rest ← match dropText? "EMPTY".toList rest, dropText? "ANY".toList rest, rest with
    | some rest, _, _ => some rest
    | none, some rest, _ => some rest
    | none, none, '(' :: rest =>
      match dropText? "#PCDATA".toList (skipSpace rest) with
      | some rest => readMixed? rest.length true rest
      | none => readGroup? (rest.length + 1) none true rest
    | _, _, _ => none
  close? rest

/-! ## Attribute declarations -/

/-- Words between bars up to a closing bracket. -/
def readWords? : (fuel : Nat) → (names : Bool) → List Char → Option (List (List Char) × List Char)
  | 0, _, _ => none
  | fuel + 1, names, cs => do
    let (word, rest) ← (if names then readName? else readToken?) (skipSpace cs)
    match skipSpace rest with
    | ')' :: rest => some ([word], rest)
    | '|' :: rest => do
      let (words, rest) ← readWords? fuel names rest
      some (word :: words, rest)
    | _ => none

/-- The keywords of attribute types, each before the ones that begin it. -/
def typeWords : List String :=
  ["CDATA", "IDREFS", "IDREF", "ID", "ENTITY", "ENTITIES", "NMTOKENS", "NMTOKEN"]

/-- An attribute type: whether values are plain text, whether a word is repeated, and the rest. -/
def readType? (cs : List Char) : Option (Bool × Bool × List Char) :=
  match typeWords.findSome? fun w => (dropText? w.toList cs).map fun rest => (w, rest) with
  | some (w, rest) => some (w == "CDATA", false, rest)
  | none => do
    let (names, rest) ← match dropText? "NOTATION".toList cs with
      | some rest => (skipSomeSpace? rest).map fun rest => (true, rest)
      | none => some (false, cs)
    let rest ← dropText? ['('] rest
    let (words, rest) ← readWords? (rest.length + 1) names rest
    return (false, words.eraseDups.length ≠ words.length, rest)

/-- Single spaces between words and none around them. -/
def squeezeSpaces (cs : List Char) : List Char :=
  let trimmed := ((cs.dropWhile (· = ' ')).reverse.dropWhile (· = ' ')).reverse
  trimmed.foldr (fun c acc => if c = ' ' ∧ acc.head? = some ' ' then acc else c :: acc) []

/-- The attributes of a declaration up to its end. -/
def readAttributes? : (fuel : Nat) → (element : List Char) → Subset → List Char →
    Option (Subset × List Char)
  | 0, _, _, _ => none
  | fuel + 1, element, s, cs =>
    match dropText? ['>'] (skipSpace cs) with
    | some rest => some (s, rest)
    | none => do
      let rest ← skipSomeSpace? cs
      let (name, rest) ← readName? rest
      let rest ← skipSomeSpace? rest
      let (plain, repeated, rest) ← readType? rest
      let s := s.errorIf repeated
      let rest ← skipSomeSpace? rest
      match dropText? "#REQUIRED".toList rest, dropText? "#IMPLIED".toList rest with
      | some rest, _ => readAttributes? fuel element s rest
      | none, some rest => readAttributes? fuel element s rest
      | none, none =>
        let rest ← match dropText? "#FIXED".toList rest with
          | some rest => skipSomeSpace? rest
          | none => some rest
        let (written, rest) ← readQuoted? rest
        let (value, remarks) ← s.attributeText? written
        let value := if plain then value else squeezeSpaces value
        let known := s.defaults.any fun (e, n, _) => e == element && n == name
        let s := { s with
          defaults := if known then s.defaults else s.defaults ++ [(element, name, value)]
          remarks := s.remarks ++ remarks }
        readAttributes? fuel element s rest

def readNotation? (s : Subset) (cs : List Char) : Option (Subset × List Char) := do
  let rest ← skipSomeSpace? cs
  let (name, rest) ← readName? rest
  let rest ← skipSomeSpace? rest
  let rest ← close? (← readExternal? true rest)
  return (s.errorIf (name.contains ':'), rest)

/-! ## All declarations -/

/-- One declaration, comment or instruction. -/
def readMarkup? (s : Subset) (cs : List Char) : Option (Subset × List Char) :=
  match dropText? "<!--".toList cs, dropText? "<?".toList cs, dropText? "<!ENTITY".toList cs,
    dropText? "<!ELEMENT".toList cs, dropText? "<!ATTLIST".toList cs,
    dropText? "<!NOTATION".toList cs with
  | some rest, _, _, _, _, _ => (readComment? rest).map fun rest => (s, rest)
  | _, some rest, _, _, _, _ => do
    let (remarks, rest) ← readInstruction? rest
    return ({ s with remarks := s.remarks ++ remarks }, rest)
  | _, _, some rest, _, _, _ => readEntity? s rest
  | _, _, _, some rest, _, _ => (readElement? rest).map fun rest => (s, rest)
  | _, _, _, _, some rest, _ => do
    let rest ← skipSomeSpace? rest
    let (element, rest) ← readName? rest
    readAttributes? (rest.length + 1) element s rest
  | _, _, _, _, _, some rest => readNotation? s rest
  | _, _, _, _, _, _ => none

/-- Declarations up to the closing bracket, or up to the end of a parameter entity. -/
def readAll? : (depth fuel : Nat) → (inside : Bool) → Subset → List Char →
    Option (Subset × List Char)
  | _, 0, _, _, _ => none
  | depth, fuel + 1, inside, s, cs =>
    match skipSpace cs with
    | [] => if inside then some (s, []) else none
    | ']' :: rest => if inside then none else some (s, rest)
    | '%' :: rest => do
      let (name, rest) ← entityReference? rest
      let s := { s with isOpen := true }
      let s ← match s.parameters.lookup name, depth with
        | some (.internal content), depth + 1 =>
          (readAll? depth (content.length + 1) true s content).map (·.1)
        | some (.internal _), 0 => none
        | some _, _ => some s
        | none, _ => if s.standalone then none else some (s.remark .warning)
      readAll? depth fuel inside s rest
    | cs => do
      let (s, rest) ← readMarkup? s cs
      readAll? depth fuel inside s rest

/-- Declarations after the opening bracket. Parameter entities may nest 40 deep. -/
def read? (s : Subset) (cs : List Char) : Option (Subset × List Char) :=
  readAll? (min cs.length 40) (cs.length + 1) false s cs

end Subset

end Sitemap.Xml
