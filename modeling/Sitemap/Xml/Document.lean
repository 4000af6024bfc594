import Sitemap.Text.Encoding
import Sitemap.Xml.Content

/-!
# Whole documents

* `Xml.Declaration` : the encoding and the standalone mark at the start of a document;
* `Xml.parse?` : the root element of a text, if the text is well-formed with namespaces.

The bytes of a document are the UTF-8 form of its text. Without a byte order mark they are read
again in the encoding that the declaration names, so a text may differ from what it seems.
-/

namespace Sitemap.Xml

/-- What an XML declaration says. -/
structure Declaration where
  encoding? : Option String := none
  standalone : Bool := false
  remarks : List Remark := []

def readSetting? (cs : List Char) : Option (List Char × List Char) := do
  let rest ← dropText? ['='] (skipSpace cs)
  readQuoted? (skipSpace rest)

/-- A version number: a digit, a point and digits. -/
def isVersion : List Char → Bool
  | c :: '.' :: rest => c.isDigit && rest.all Char.isDigit
  | _ => false

def isEncodingName : List Char → Bool
  | [] => false
  | c :: rest => c.isAlpha && rest.all fun c => c.isAlphanum || c == '.' || c == '_' || c == '-'

/-- A declaration after `<?xml`. Versions are those that begin with 1; white space stands between
its parts. -/
def readDeclaration? (cs : List Char) : Option (Declaration × List Char) := do
  let rest ← skipSomeSpace? cs
  let rest ← dropText? "version".toList rest
  let (version, rest) ← readSetting? rest
  if !isVersion version || version.head? != some '1' then none
  let remarks : List Remark := if version = ['1', '.', '0'] then [] else [.warning]
  let ended (rest : List Char) : Option (List Char) := dropText? ['?', '>'] rest
  match ended rest with
  | some rest => return ({ remarks }, rest)
  | none =>
    let rest ← skipSomeSpace? rest
    let (encoding?, rest) ← match dropText? "encoding".toList rest with
      | some after => do
        let (name, after) ← readSetting? after
        if !isEncodingName name then none
        match ended after with
        | some _ => some (some (String.ofList name), after)
        | none => (skipSomeSpace? after).map fun after => (some (String.ofList name), after)
      | none => some (none, rest)
    let (standalone, rest) ← match dropText? "standalone".toList rest with
      | some after => do
        let (value, after) ← readSetting? after
        if value = "yes".toList then some (true, after)
        else if value = "no".toList then some (false, after)
        else none
      | none => some (false, rest)
    let rest ← ended (skipSpace rest)
    return ({ encoding?, standalone, remarks }, rest)

/-- The text of a document after its byte order mark or its declaration, with what that says. -/
def readHead? (cs : List Char) : Option (Declaration × List Char) :=
  let (marked, cs) := match cs with
    | '\ufeff' :: rest => (true, rest)
    | cs => (false, cs)
  let declared? := match dropText? "<?xml".toList cs with
    | some (c :: rest) => if isSpace c then some (c :: rest) else none
    | _ => none
  match declared? with
  | none => some ({}, cs)
  | some rest => do
    let (declaration, rest) ← readDeclaration? rest
    match if marked then none else declaration.encoding? with
    | none => some (declaration, rest)
    | some label =>
      let rest ← (← Encoding.ofLabel? label).decode (Utf8.encode (String.ofList rest))
      return (declaration, rest)

/-- Comments, instructions and white space. -/
def readMisc? : (fuel : Nat) → List Char → Option (List Remark × List Char)
  | 0, _ => none
  | fuel + 1, cs =>
    match skipSpace cs with
    | '<' :: '!' :: '-' :: '-' :: rest => do
      let rest ← readComment? rest
      readMisc? fuel rest
    | '<' :: '?' :: rest => do
      let (first, rest) ← readInstruction? rest
      let (more, rest) ← readMisc? fuel rest
      return (first ++ more, rest)
    | cs => some ([], cs)

/-- A document type after `<!DOCTYPE`. -/
def readType? (subset : Subset) (cs : List Char) : Option (Subset × List Char) := do
  let rest ← skipSomeSpace? cs
  let (_, rest) ← readName? rest
  let rest := skipSpace rest
  let (subset, rest) := match Subset.readExternal? false rest with
    | some rest => ({ subset with isOpen := true }, rest)
    | none => (subset, rest)
  match skipSpace rest with
  | '>' :: rest => return (subset, rest)
  | '[' :: rest =>
    let (subset, rest) ← Subset.read? subset rest
    return (subset, ← Subset.close? rest)
  | _ => none

/-- The root element of a text: its name and its nodes. -/
def parse? (s : String) : Option (Name × List Node) := do
  let (declaration, cs) ← readHead? (s.toList)
  let cs := unifyLines cs
  if !cs.all isChar then none
  let (before, rest) ← readMisc? (cs.length + 1) cs
  let start : Subset := { standalone := declaration.standalone, remarks := [] }
  let (subset, rest) ← match dropText? "<!DOCTYPE".toList rest with
    | some rest => do
      let (subset, rest) ← readType? start rest
      let (after, rest) ← readMisc? (rest.length + 1) rest
      some ({ subset with remarks := subset.remarks ++ after }, rest)
    | none => some (start, rest)
  let content ← readElement? subset rest
  let (after, rest) ← readMisc? (content.rest.length + 1) content.rest
  let remarks := declaration.remarks ++ before ++ subset.remarks ++ content.remarks ++ after
  match content.nodes, rest with
  | [.element name nodes], [] =>
    if remarks.getLast? = some .error then none else some (name, nodes)
  | _, _ => none

end Sitemap.Xml
