import Sitemap.Store.Basic

/-!
# Paths as names

* `Path` : the names of a path; empty names and single points say nothing and are left out, two
  points stay;
* `Path.ofText`, `Path.text` : reading and writing a path;
* `Path.parent`, `Path.name`, `Path.join` : moving up and down;
* `dropSuffix` : a name without the part from its last point;
* `Path.inside?` : the path as seen from a directory on its way;
* `Path.condensed` : the path with every two points resolved by the name before them;
* `Store.at?` : the location of what a path leads to.
-/

namespace Sitemap

/-- The names of a path from the working directory. -/
structure Path where
  names : List String
  deriving DecidableEq, Repr

namespace Path

def ofText (s : String) : Path :=
  ⟨((splitChars '/' s.toList).map String.ofList).filter fun name => name ≠ "" ∧ name ≠ "."⟩

/-- The names between slashes; the working directory is a point. -/
def text (p : Path) : String := if p.names.isEmpty then "." else "/".intercalate p.names

/-- The last name, empty for the working directory. -/
def name (p : Path) : String := p.names.getLastD ""

/-- The path without its last name. -/
def parent (p : Path) : Path := ⟨p.names.dropLast⟩

def join (p : Path) (names : List String) : Path := ⟨p.names ++ names⟩

def inside? (p root : Path) : Option (List String) :=
  if root.names.isPrefixOf p.names then some (p.names.drop root.names.length) else none

/-- Two points take away the name before them; at the working directory they stay. -/
def condensed (p : Path) : Path :=
  ⟨p.names.foldl (fun names name =>
    if name = ".." ∧ names ≠ [] ∧ names.getLast? ≠ some ".." then names.dropLast
    else names ++ [name]) []⟩

end Path

/-- A name without the part from its last point, if something stands before and behind it. -/
def dropSuffix (name : String) : String :=
  let (tail, head) := name.toList.reverse.span (· ≠ '.')
  if tail.isEmpty ∨ head.length ≤ 1 then name else String.ofList (head.drop 1).reverse

namespace Store

def at? (s : Store) (p : Path) : Option Location :=
  match s.follow p.names with
  | .ok at_ => if (s.item? at_).isSome then some at_ else none
  | .error _ => none

end Store

end Sitemap
