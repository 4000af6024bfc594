import Sitemap.Text.CharSet
import Sitemap.Text.Quoted

/-!
# A tree of files

* `Location` : the names from the working directory to a file or directory;
* `Store` : what is at each location; the working directory itself is always there;
* `Store.item?`, `set`, `place`, `append`, `remove` : reading and changing one location;
* `Store.changesFrom` : the files whose content is not what it was;
* `FileFault`, `FileError` : why an operation on a path fails, with its wording;
* `Store.locate` : the location that a path leads to;
* `Store.item`, `isFile`, `isDirectory` : what a path leads to.

A path is followed name by name. Each name but the last has to lead to a directory, a point stays
there and two points leave it. Nothing above the working directory can be reached.
-/

namespace Sitemap

/-- What is at a location. -/
inductive Item where
  | file (content : List UInt8)
  | directory
  deriving DecidableEq, Repr

/-- The names from the working directory to a file or directory. -/
abbrev Location := List String

/-- A tree of files: what is at each location but the working directory itself. -/
structure Store where
  items : List (Location × Item) := []

/-- Why an operation on a path fails. -/
inductive FileFault where
  | missing
  | present
  | notDirectory
  | isDirectory
  deriving DecidableEq, Repr

def FileFault.number : FileFault → Nat
  | missing => 2
  | present => 17
  | notDirectory => 20
  | isDirectory => 21

def FileFault.text : FileFault → String
  | missing => "No such file or directory"
  | present => "File exists"
  | notDirectory => "Not a directory"
  | isDirectory => "Is a directory"

/-- A failed operation with the path that it was given. -/
structure FileError where
  fault : FileFault
  path : String
  deriving DecidableEq, Repr

def FileError.message (e : FileError) : String :=
  "[Errno " ++ toString e.fault.number ++ "] " ++ e.fault.text ++ ": " ++ quoted e.path

namespace Store

/-! ## Locations -/

def item? (s : Store) (at_ : Location) : Option Item :=
  if at_ = [] then some .directory else s.items.lookup at_

/-- Puts something at a location; what is there keeps its place in the list. -/
def set (s : Store) (at_ : Location) (item : Item) : Store :=
  ⟨go s.items⟩
where
  go : List (Location × Item) → List (Location × Item)
    | [] => [(at_, item)]
    | (l, i) :: rest => if l = at_ then (l, item) :: rest else (l, i) :: go rest

/-- The locations on the way to a location, the working directory apart. -/
def ways (at_ : Location) : List Location :=
  (List.range (at_.length - 1)).map fun n => at_.take (n + 1)

/-- Creates a directory unless something is there. -/
def ensure (s : Store) (at_ : Location) : Store :=
  if (s.item? at_).isSome then s else s.set at_ .directory

def place (s : Store) (at_ : Location) (item : Item) : Store :=
  ((ways at_).foldl ensure s).set at_ item

def append (s : Store) (at_ : Location) (bytes : List UInt8) : Store :=
  match s.item? at_ with
  | some (.file content) => s.set at_ (.file (content ++ bytes))
  | _ => s

def remove (s : Store) (at_ : Location) : Store :=
  ⟨s.items.filter fun (l, _) => !at_.isPrefixOf l⟩

def files (s : Store) : List (Location × List UInt8) :=
  s.items.filterMap fun
    | (l, .file content) => some (l, content)
    | _ => none

/-- The files that are new or whose content is not what it was in an earlier store. -/
def changesFrom (s earlier : Store) : List (Location × List UInt8) :=
  s.files.filter fun (at_, content) => earlier.item? at_ != some (.file content)

/-! ## Paths -/

/-- The names of a path; a slash at its end counts as a point. -/
def pathNames (path : String) : List String :=
  let pieces := (splitChars '/' path.toList).map String.ofList
  let names := pieces.filter (!·.isEmpty)
  if pieces.getLast? = some "" then names ++ ["."] else names

/-- Follows one name. -/
def step (s : Store) (at_ : Location) (name : String) : Except FileFault Location :=
  match s.item? at_ with
  | none => .error .missing
  | some (.file _) => .error .notDirectory
  | some .directory =>
    if name = "." then .ok at_
    else if name = ".." then if at_ = [] then .error .missing else .ok at_.dropLast
    else .ok (at_ ++ [name])

/-- The location that names lead to, which may be empty. -/
def follow (s : Store) (names : List String) : Except FileFault Location :=
  names.foldlM s.step []

/-- The location that a path leads to, which may be empty. -/
def locate (s : Store) (path : String) : Except FileFault Location :=
  if path.isEmpty then .error .missing else s.follow (pathNames path)

def item (s : Store) (path : String) : Except FileFault Item := do
  let at_ ← s.locate path
  match s.item? at_ with
  | some item => return item
  | none => .error .missing

def holds (s : Store) (path : String) : Bool := (s.item path).toOption.isSome

def isFile (s : Store) (path : String) : Bool :=
  match s.item path with
  | .ok (.file _) => true
  | _ => false

def isDirectory (s : Store) (path : String) : Bool :=
  match s.item path with
  | .ok .directory => true
  | _ => false

end Store

end Sitemap
