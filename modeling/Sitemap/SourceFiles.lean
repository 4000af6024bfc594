import Sitemap.Path

/-!
# Source files and their modules

* `Stop` : how a computation comes to no result: by a fault, or because it never ends;
* `Store.packagesAround?` : the walk up through the packages that a directory lies in;
* `Store.moduleName` : the name of the module that a file is when it is found from a directory: the
  names on the way, after those of the packages;
* `ModuleNameFault` : why a path has no module name, with its wording;
* `FoundFile`, `SourceFile` : a file as it is found from a directory, and with its module;
* `Store.sourcesBelow` : the sources below a directory, in order of their paths;
* `Store.sourcesOf` : the sources of one given path;
* `Store.sourceFiles` : the sources of all given paths, each listed once.
-/

namespace Sitemap

/-! ## Computations that never end -/

/-- How a computation comes to no result: a fault ends it, or it never ends. -/
inductive Stop (ε : Type) where
  | fault (fault : ε)
  | endless
  deriving DecidableEq

namespace Stop

def map {ε δ : Type} (f : ε → δ) : Stop ε → Stop δ
  | fault e => fault (f e)
  | endless => endless

/-- A result, without which the computation never ends. -/
def orEndless {ε α : Type} : Option α → Except (Stop ε) α
  | some a => .ok a
  | none => .error endless

end Stop

/-! ## Module names -/

/-- Why a path has no module name. -/
inductive ModuleNameFault where
  | outside (path root : String)
  | noName
  deriving DecidableEq

def ModuleNameFault.message : ModuleNameFault → String
  | outside path root => quoted path ++ " is not in the subpath of " ++ quoted root ++
      " OR one path is relative and the other is absolute."
  | noName => "PosixPath('.') has an empty name"

def packageFile : String := "__init__.py"

/-- The last name of a module stands for the package itself. -/
def packageName : String := "__init__"

def Store.isPackage (s : Store) (names : List String) : Bool :=
  s.isFile (Path.mk (names ++ [packageFile])).text

/-- The names of the packages that the directory with some names, the last name first, lies in, as
long as there is no gap. The directory around the working directory is that directory again, so that
the walk never ends if it is a package. -/
def Store.packagesAround? (s : Store) : List String → Option (List String)
  | [] => if s.isPackage [] then none else some []
  | name :: outer =>
    if s.isPackage (name :: outer).reverse then (s.packagesAround? outer).map (· ++ [name])
    else some []

/-- The names that a path below a directory gives to its module. -/
def moduleParts (names : List String) : List String :=
  let parts := names.dropLast ++ [dropSuffix (names.getLastD "")]
  if parts.getLast? = some packageName then parts.dropLast else parts

/-- The name of the module that some names lead to from a directory, unless the walk through the
packages around the directory never ends. -/
def Store.moduleBelow? (s : Store) (root : Path) (names : List String) : Option String :=
  (s.packagesAround? root.names.reverse).map fun packages =>
    let parts := packages ++ moduleParts names
    if parts.isEmpty then dropSuffix (names.getLastD "") else ".".intercalate parts

def Store.moduleName (s : Store) (path root : Path) : Except (Stop ModuleNameFault) String :=
  match path.inside? root with
  | none => .error (.fault (.outside path.text root.text))
  | some [] => .error (.fault .noName)
  | some names => Stop.orEndless (s.moduleBelow? root names)

/-! ## Listing -/

/-- A file as it is found: names that lead to it from a directory, which has a path and a
location. -/
structure FoundFile where
  root : Path
  rootLocation : Location
  names : List String
  deriving DecidableEq

def FoundFile.path (f : FoundFile) : Path := f.root.join f.names

def FoundFile.location (f : FoundFile) : Location := f.rootLocation ++ f.names

/-- A file to be scanned. -/
structure SourceFile where
  path : Path
  location : Location
  moduleName : String
  isPackage : Bool
  deriving DecidableEq

def isSourceName (name : String) : Bool := ".py".toList.isSuffixOf name.toList

/-- A directory is not searched: it is hidden or holds compiled modules. -/
def isSkipped (name : String) : Bool := name.toList.head? == some '.' || name == "__pycache__"

/-- What follows a location in another one below it. -/
def below? (root at_ : Location) : Option Location :=
  if root.isPrefixOf at_ ∧ root.length < at_.length then some (at_.drop root.length) else none

/-- The sources below a directory as seen from there, in order of their paths. -/
def Store.sourcesBelow (s : Store) (root : Location) : List Location :=
  let found := (s.items.filterMap fun (at_, _) => below? root at_).filter fun names =>
    isSourceName (names.getLastD "") && !names.dropLast.any isSkipped
  ((found.map fun names => ("/".intercalate names, names)).mergeSort
    fun a b => !(b.1 < a.1)).map (·.2)

/-- A found file with its module, unless the name of the module takes a walk that never ends. -/
def Store.sourceFile? (s : Store) (f : FoundFile) : Option SourceFile :=
  (s.moduleBelow? f.root f.names).map fun moduleName =>
    ⟨f.path, f.location, moduleName, f.names.getLast? == some packageFile⟩

/-- A given path that leads nowhere. -/
structure MissingSource where
  path : String
  deriving DecidableEq

def MissingSource.message (m : MissingSource) : String :=
  "Source path does not exist: " ++ m.path

/-- The sources of one given path: all below a directory, or the file itself. -/
def Store.sourcesOf (s : Store) (text : String) : Except MissingSource (List FoundFile) :=
  let path := Path.ofText text
  match s.at? path with
  | none => .error ⟨text⟩
  | some at_ =>
    match s.item? at_ with
    | some .directory => .ok ((s.sourcesBelow at_).map (FoundFile.mk path at_))
    | _ => .ok [⟨path.parent, at_.dropLast, [path.name]⟩]

/-- One more source, unless it is listed already. Only a source that is listed gets a module. -/
def Store.addSource? (s : Store) (listed : List SourceFile) (f : FoundFile) :
    Option (List SourceFile) :=
  if listed.any (·.location == f.location) then some listed
  else (s.sourceFile? f).map fun source => listed ++ [source]

/-- The sources that are not listed yet behind those that are. -/
def Store.addSources? (s : Store) (listed : List SourceFile) (found : List FoundFile) :
    Option (List SourceFile) :=
  found.foldlM s.addSource? listed

def Store.addPath (s : Store) (listed : List SourceFile) (text : String) :
    Except (Stop MissingSource) (List SourceFile) := do
  let found ← (s.sourcesOf text).mapError .fault
  Stop.orEndless (s.addSources? listed found)

/-- The sources of all given paths. A file that is reached twice is listed where it is reached
first. -/
def Store.sourceFiles (s : Store) (paths : List String) :
    Except (Stop MissingSource) (List SourceFile) :=
  paths.foldlM s.addPath []

end Sitemap
