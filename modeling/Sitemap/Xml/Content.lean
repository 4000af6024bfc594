import Sitemap.Text.Lines
import Sitemap.Xml.Subset
import Sitemap.Xml.Tree
import Sitemap.Xml.Uri

/-!
# Elements and their content

* `Xml.Scope` : the namespaces of the prefixes in force;
* `Xml.StartTag` : a start tag as written;
* `Xml.StartTag.resolve?` : the name that a start tag has in its scope, and the scope inside it;
* `Xml.Frame` : an element that is still open, with the nodes read so far;
* `Xml.readContent?` : reads content until all open elements are closed;
* `Xml.readElement?` : reads an element.

Content is read with the open elements on a stack, so each step consumes some of the text.
-/

namespace Sitemap.Xml

def xmlNamespace : String := "http://www.w3.org/XML/1998/namespace"

def xmlnsNamespace : String := "http://www.w3.org/2000/xmlns/"

/-- The namespaces of prefixes, the innermost first. The default namespace has the empty prefix,
and the empty namespace is none. -/
abbrev Scope := List (List Char × String)

/-- The deepest nesting of elements. -/
def maxDepth : Nat := 257

/-! ## Start tags -/

/-- A start tag as written: its name, its attributes with their values, and whether it is also the
end tag. -/
structure StartTag where
  written : List Char
  attributes : List (List Char × List Char)
  empty : Bool

/-- The attributes of a start tag up to its end, at most one for each character of a bound. -/
def readAttributes? (subset : Subset) : (bound : List Char) → List Char →
    Option (List (List Char × List Char) × Bool × List Remark × List Char)
  | [], _ => none
  | _ :: bound, cs =>
    match skipSpace cs with
    | '>' :: rest => some ([], false, [], rest)
    | '/' :: '>' :: rest => some ([], true, [], rest)
    | cs => do
      let (name, rest) ← readName? cs
      let rest ← dropText? ['='] (skipSpace rest)
      let (written, rest) ← readQuoted? (skipSpace rest)
      let (value, before) ← subset.attributeText? written
      if !(rest.head?.any fun c => isSpace c || c == '>' || c == '/') then none
      let (others, empty, after, rest) ← readAttributes? subset bound rest
      return ((name, value) :: others, empty, before ++ after, rest)

def readStartTag? (subset : Subset) (cs : List Char) :
    Option (StartTag × List Remark × List Char) := do
  let (written, rest) ← readName? cs
  let (attributes, empty, remarks, rest) ← readAttributes? subset rest rest
  return (⟨written, attributes, empty⟩, remarks, rest)

/-- The remark on an address that a prefix is bound to: it has to be a reference, and the one of
the default namespace should be absolute. -/
def addressRemarks (isDefault : Bool) (uri : String) : List Remark :=
  if uri.isEmpty then []
  else match uriForm? uri.toList with
    | none => [.error]
    | some true => []
    | some false => if isDefault then [.warning] else []

/-- What an attribute says about namespaces: the prefix it declares, empty for the default. -/
def declaredPrefix? (name : List Char) : Option (List Char) :=
  if name = "xmlns".toList then some []
  else match splitQualified? name with
    | some (some p, localPart) => if p = "xmlns".toList then some localPart else none
    | _ => none

/-- The binding that a declaration adds, and the remarks on it. Reserved prefixes and namespaces
are not bound anew, and a prefix is not bound to the empty namespace. -/
def bind (declared : List Char) (uri : String) : Option (List Char × String) × List Remark :=
  if declared = "xml".toList then
    (none, if uri = xmlNamespace then [] else [.error])
  else if uri = xmlNamespace ∨ uri = xmlnsNamespace ∨ declared = "xmlns".toList ∨
      (uri.isEmpty ∧ ¬ declared.isEmpty) then (none, [.error])
  else (some (declared, uri), addressRemarks declared.isEmpty uri)

/-- The namespace of a prefix in scope; the default namespace may be none. -/
def lookup? (scope : Scope) (p : List Char) : Option String :=
  if p = "xml".toList then some xmlNamespace else scope.lookup p

/-- The default attributes of an element that its tag does not give. -/
def missingDefaults (subset : Subset) (tag : StartTag) : List (List Char × List Char) :=
  subset.defaults.filterMap fun (element, name, value) =>
    if element = tag.written ∧ ¬ tag.attributes.any (·.1 == name) then some (name, value)
    else none

/-- The namespace and the local part of an attribute, with a remark if its prefix is unknown. -/
def attributeName (scope : Scope) (name : List Char) :
    (Option String × List Char) × List Remark :=
  match splitQualified? name with
  | none => ((none, name), [.error])
  | some (none, localPart) => ((none, localPart), [])
  | some (some p, localPart) =>
    match lookup? scope p with
    | some uri => ((some uri, localPart), [])
    | none => ((none, name), [.error])

/-- The name of the element that a tag starts and the scope inside it. No two attributes may have
the same name, as written or in their namespaces. -/
def StartTag.resolve? (subset : Subset) (outer : Scope) (tag : StartTag) :
    Option (Name × Scope × List Remark) := do
  if ¬ (tag.attributes.map (·.1)).Nodup then none
  let qualified := splitQualified? tag.written
  let nameRemarks : List Remark := if qualified.isNone then [.error] else []
  let attributes := tag.attributes ++ missingDefaults subset tag
  let bindings := attributes.filterMap fun (name, value) =>
    (declaredPrefix? name).map fun declared => bind declared (String.ofList value)
  let scope := (bindings.filterMap (·.1)).reverse ++ outer
  let names : List ((Option String × List Char) × List Remark) :=
    (attributes.filter fun (name, _) => (declaredPrefix? name).isNone).map fun (name, _) =>
      attributeName scope name
  if ¬ (names.map (·.1)).Nodup then none
  let remarks := nameRemarks ++ bindings.flatMap (·.2) ++ names.flatMap (·.2)
  let namespaceOf (uri : String) : Option String := if uri.isEmpty then none else some uri
  match qualified with
  | none => return (⟨none, String.ofList tag.written⟩, scope, remarks)
  | some (none, localPart) =>
    return (⟨(lookup? scope []).bind namespaceOf, String.ofList localPart⟩, scope, remarks)
  | some (some p, localPart) =>
    match lookup? scope p with
    | some uri => return (⟨namespaceOf uri, String.ofList localPart⟩, scope, remarks)
    | none => return (⟨none, String.ofList tag.written⟩, scope, remarks ++ [.error])

/-! ## Content -/

/-- An open element: its name as written and resolved, the scope inside it and its nodes so far,
the last first. -/
structure Frame where
  written : List Char
  name : Name
  scope : Scope
  nodes : List Node

def Frame.push (f : Frame) (n : Node) : Frame := { f with nodes := n :: f.nodes }

def Frame.close (f : Frame) : Node := .element f.name f.nodes.reverse

/-- The plain text at the start of content; the mark that ends a section may not stand in it. -/
def readText? : List Char → Option (List Char × List Char)
  | [] => some ([], [])
  | ']' :: ']' :: '>' :: _ => none
  | c :: rest =>
    if c = '<' ∨ c = '&' then some ([], c :: rest)
    else (readText? rest).map fun (text, rest) => (c :: text, rest)

/-- What reading content gives: nodes, remarks and what follows. -/
structure Content where
  nodes : List Node
  remarks : List Remark
  rest : List Char

/-- Reads content with open elements on a stack. A fragment has a frame at the bottom that no tag
closes and ends with its text; an element ends with the tag that closes the last frame. `expand`
gives the nodes of an entity, and `depth` counts the elements open outside. -/
def readContent? (subset : Subset) (expand : List Char → Scope → Nat → Option Content)
    (fragment : Bool) (depth : Nat) :
    (fuel : Nat) → Frame → List Frame → List Remark → List Char → Option Content
  | 0, _, _, _, _ => none
  | fuel + 1, top, below, remarks, cs =>
    match cs with
    | [] => if fragment ∧ below.isEmpty then some ⟨top.nodes.reverse, remarks, []⟩ else none
    | '<' :: '/' :: rest => do
      let rest ← dropText? top.written rest
      let rest ← dropText? ['>'] (skipSpace rest)
      match below with
      | next :: below =>
        readContent? subset expand fragment depth fuel (next.push top.close) below remarks rest
      | [] => if fragment then none else some ⟨[top.close], remarks, rest⟩
    | '<' :: '!' :: rest =>
      match dropText? ['-', '-'] rest, dropText? "[CDATA[".toList rest with
      | some rest, _ => do
        let rest ← readComment? rest
        readContent? subset expand fragment depth fuel (top.push .aside) below remarks rest
      | none, some rest => do
        let (text, rest) ← readDelimited? [']', ']', '>'] rest
        readContent? subset expand fragment depth fuel (top.push (.text text)) below remarks rest
      | none, none => none
    | '<' :: '?' :: rest => do
      let (more, rest) ← readInstruction? rest
      readContent? subset expand fragment depth fuel (top.push .aside) below (remarks ++ more) rest
    | '<' :: rest => do
      if maxDepth ≤ depth + below.length + 1 then none
      let (tag, first, rest) ← readStartTag? subset rest
      let (name, scope, second) ← tag.resolve? subset top.scope
      let remarks := remarks ++ first ++ second
      if tag.empty then
        readContent? subset expand fragment depth fuel (top.push (.element name [])) below remarks
          rest
      else
        readContent? subset expand fragment depth fuel ⟨tag.written, name, scope, []⟩
          (top :: below) remarks rest
    | '&' :: '#' :: rest => do
      let (c, rest) ← characterReference? rest
      readContent? subset expand fragment depth fuel (top.push (.text [c])) below remarks rest
    | '&' :: rest => do
      let (name, rest) ← entityReference? rest
      match predefined? name with
      | some c =>
        readContent? subset expand fragment depth fuel (top.push (.text [c])) below remarks rest
      | none => do
        let inner ← expand name top.scope (depth + below.length)
        readContent? subset expand fragment depth fuel
          { top with nodes := inner.nodes.reverse ++ top.nodes } below (remarks ++ inner.remarks) rest
    | c :: rest => do
      let (text, rest') ← readText? (c :: rest)
      readContent? subset expand fragment depth fuel (top.push (.text text)) below remarks rest'

/-- The nodes of a declared entity, which is read as content of its own; entities nest at most
`level` deep. -/
def expandEntity? (subset : Subset) : (level : Nat) → List Char → Scope → Nat → Option Content
  | 0, _, _, _ => none
  | level + 1, name, scope, depth =>
    match subset.entity? name with
    | some (.internal content) =>
      let text := unifyLines content
      readContent? subset (expandEntity? subset level) true depth (text.length + 1)
        ⟨[], ⟨none, ""⟩, scope, []⟩ [] [] text
    | some _ => none
    | none =>
      if subset.toleratesUndeclared then some ⟨[.aside], [.error], []⟩ else none

/-- An element from its `<` on. -/
def readElement? (subset : Subset) (cs : List Char) : Option Content :=
  match cs with
  | '<' :: rest => do
    let (tag, first, rest) ← readStartTag? subset rest
    let (name, scope, second) ← tag.resolve? subset []
    if tag.empty then some ⟨[.element name []], first ++ second, rest⟩
    else
      readContent? subset (expandEntity? subset (subset.entities.length + 1)) false 0
        (rest.length + 1) ⟨tag.written, name, scope, []⟩ [] (first ++ second) rest
  | _ => none

end Sitemap.Xml
