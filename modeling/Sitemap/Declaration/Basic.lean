import Sitemap.Value

/-!
# Class declarations and their annotations

* `Annotation` : a decorator of a class: its name as written, the name that it resolves to, and
  its arguments;
* `Declaration` : a class with its annotations;
* `routeAnnotation`, `sitemapAnnotation`, `frequencyEnum` : the qualified names that count;
* `canonicalName` : the qualified name behind a name that the package exports again.
-/

namespace Sitemap

/-- A decorator of a class. Arguments that are no literals leave it unresolved and without
arguments; a keyword without a name spreads a mapping. -/
structure Annotation where
  written : String
  name : Option String
  args : List Value := []
  kwargs : List (Option String × Value) := []
  resolved : Bool := true

def Annotation.arity (a : Annotation) : Nat := a.args.length + a.kwargs.length

/-- A class. -/
structure Declaration where
  name : String
  qualname : String
  moduleName : String
  path : String
  line : Nat
  annotations : List Annotation

def routeAnnotation : String := "sitemap_codegen.annotations.route"

def sitemapAnnotation : String := "sitemap_codegen.annotations.sitemap_url"

def frequencyEnum : String := "sitemap_codegen.annotations.ChangeFreq"

/-- Names that the package exports again, with their definitions. -/
def reexports : List (String × String) :=
  [("sitemap_codegen.route", routeAnnotation), ("sitemap_codegen.sitemap_url", sitemapAnnotation),
    ("sitemap_codegen.ChangeFreq", frequencyEnum)]

/-- What follows a name in a qualified name that is the name itself or lies inside it. -/
def insideOf? (name qualified : String) : Option (List Char) :=
  if name.toList.isPrefixOf qualified.toList then
    match qualified.toList.drop name.toList.length with
    | [] => some []
    | c :: rest => if c = '.' then some (c :: rest) else none
  else none

/-- The name with a name that is exported again replaced by its definition. -/
def canonicalName (qualified : String) : String :=
  (reexports.findSome? fun (exported, target) =>
    (insideOf? exported qualified).map fun rest => target ++ String.ofList rest).getD qualified

/-- The part of a name before its first point, and the part after it if there is one. -/
def splitFirst (name : String) : String × Option String :=
  match name.toList.span (· ≠ '.') with
  | (head, []) => (String.ofList head, none)
  | (head, _ :: rest) => (String.ofList head, some (String.ofList rest))

/-- The part of a name before its last point, empty if there is none, and the part after it. -/
def splitLast (name : String) : String × String :=
  let (tail, head) := name.toList.reverse.span (· ≠ '.')
  (String.ofList (head.drop 1).reverse, String.ofList tail.reverse)

def nameParts (name : String) : List String := (splitChars '.' name.toList).map String.ofList

end Sitemap
