import Sitemap.Document
import Sitemap.Log
import Sitemap.Xml.Document

/-!
# Validation of sitemap documents

* `Validation.Problem` : what is wrong with a document, with its wording;
* `Validation.problem?` : the first problem of a text: its form, its root element, and then for
  each page its location, its frequency and its priority;
* `Validation.check` : whether a text is valid, with a record of its first problem;
* `Validation.isPriority` : the text of a number from 0 to 1.
-/

namespace Sitemap.Validation

/-- What is wrong with a document. -/
inductive Problem where
  | malformed
  | root (name : Xml.Name)
  | noLocation
  | frequency (found? : Option String) (location : String)
  | priority (found? : Option String) (location : String)
  deriving DecidableEq

def quotedOrNone : Option String → String
  | some s => quoted s
  | none => "None"

def Problem.message : Problem → String
  | malformed => "Sitemap is not well-formed XML"
  | root name => "Invalid root element: " ++ name.text
  | noLocation => "URL missing location"
  | frequency found location => "Invalid changefreq " ++ quotedOrNone found ++ " for " ++ location
  | priority found location => "Invalid priority " ++ quotedOrNone found ++ " for " ++ location

def sitemapName (localName : String) : Xml.Name := ⟨some sitemapNamespace, localName⟩

/-- The text reads as a number from 0 to 1. -/
def isPriority (s : String) : Bool :=
  match Binary64.parse? s with
  | some x => (Binary64.zero false).le x && x.le .one
  | none => false

/-- The first problem of one page. -/
def urlProblem? (nodes : List Xml.Node) : Option Problem :=
  match Xml.Node.childText? (sitemapName "loc") nodes with
  | none => some .noLocation
  | some location =>
    if location.isEmpty then some .noLocation
    else
      let frequency := Xml.Node.childText? (sitemapName "changefreq") nodes
      let priority := Xml.Node.childText? (sitemapName "priority") nodes
      if (frequency.bind Frequency.ofKeyword?).isNone then some (.frequency frequency location)
      else if !priority.any isPriority then some (.priority priority location)
      else none

/-- The first problem of a text that should be a sitemap document. -/
def problem? (document : String) : Option Problem :=
  match Xml.parse? document with
  | none => some .malformed
  | some (name, nodes) =>
    if name ≠ sitemapName "urlset" then some (.root name)
    else (Xml.Node.children (sitemapName "url") nodes).findSome? urlProblem?

/-- Whether a text is a valid sitemap document, with a record of its first problem. -/
def check (document : String) : Bool × List Log.Record :=
  match problem? document with
  | none => (true, [])
  | some problem => (false, [⟨.renderer, .error, problem.message⟩])

end Sitemap.Validation
