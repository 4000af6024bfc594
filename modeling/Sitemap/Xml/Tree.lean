/-!
# Documents as trees

* `Xml.Name` : a local name in a namespace, or in none;
* `Xml.Node` : an element, a run of text, or markup that is neither;
* `Xml.Node.leadingText` : the text before the first element, comment or instruction;
* `Xml.Node.children` : the child elements with a given name.
-/

namespace Sitemap.Xml

/-- A name in a namespace. -/
structure Name where
  uri? : Option String
  localName : String
  deriving DecidableEq, Repr

def Name.text (n : Name) : String :=
  match n.uri? with
  | some uri => "\x7b" ++ uri ++ "\x7d" ++ n.localName
  | none => n.localName

/-- A node of a document; `aside` is a comment or an instruction. -/
inductive Node where
  | element (name : Name) (nodes : List Node)
  | text (cs : List Char)
  | aside

namespace Node

def leadingText : List Node → List Char
  | text cs :: rest => cs ++ leadingText rest
  | _ => []

def children (name : Name) (nodes : List Node) : List (List Node) :=
  nodes.filterMap fun
    | element n inner => if n = name then some inner else none
    | _ => none

/-- The text of the first element with a given name, if there is one. -/
def childText? (name : Name) (nodes : List Node) : Option String :=
  (children name nodes).head?.map fun inner => String.ofList (leadingText inner)

end Node

end Sitemap.Xml
