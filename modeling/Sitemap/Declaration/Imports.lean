import Sitemap.Declaration.Basic
import Sitemap.Source.Tree

/-!
# Names bound by imports

* `ImportMap` : the names that imports bind, with their targets, in order of first binding;
* `Stmt.moduleScope` : the statements that run when a module is loaded, into `if` and `try`;
* `packageParts`, `importSource?` : the package of a module, and the module that an import starts
  from;
* `ImportMap.ofModule` : the names that the imports of a module bind; the last import of a name
  wins.
-/

namespace Sitemap

open Source

/-- The names that imports bind, with their targets, in order of first binding. -/
abbrev ImportMap := List (String × String)

namespace ImportMap

/-- Binds a name. A name that is bound keeps its place. -/
def bind (name target : String) : ImportMap → ImportMap
  | [] => [(name, target)]
  | (n, t) :: rest => if n = name then (n, target) :: rest else (n, t) :: bind name target rest

end ImportMap

mutual

/-- The statement, and those in it that run when it runs at the top of a module. -/
def Source.Stmt.moduleScope : Stmt → List Stmt
  | .branch body otherwise => .branch body otherwise :: (scopeOf body ++ scopeOf otherwise)
  | .tryBlock body handlers otherwise final =>
    .tryBlock body handlers otherwise final ::
      (scopeOf body ++ scopeOfAll handlers ++ scopeOf otherwise ++ scopeOf final)
  | s => [s]

def Source.Stmt.scopeOf : List Stmt → List Stmt
  | [] => []
  | s :: rest => s.moduleScope ++ scopeOf rest

def Source.Stmt.scopeOfAll : List (List Stmt) → List Stmt
  | [] => []
  | body :: rest => scopeOf body ++ scopeOfAll rest

end

/-- The package that relative imports of a module start from, as parts. A module without a package
has one empty part, and no module has none. -/
def packageParts (moduleName : String) (isPackage : Bool) : List String :=
  if moduleName.isEmpty then []
  else if isPackage then nameParts moduleName
  else nameParts (splitLast moduleName).1

/-- The module that an import takes names from, empty if there is none. Each point after the first
leaves one package, and beyond the outermost there is nothing. -/
def importSource? (moduleName : String) (isPackage : Bool) (level : Nat)
    (source : Option String) : Option String :=
  if level = 0 then some (source.getD "")
  else
    let package := packageParts moduleName isPackage
    if package.length + 1 < level then none
    else
      let kept := package.take (package.length + 1 - level) ++ source.toList
      some (".".intercalate (kept.filter (!·.isEmpty)))

/-- The names that one statement binds, with their targets. -/
def Source.Stmt.importBindings (moduleName : String) (isPackage : Bool) :
    Stmt → List (String × String)
  | .imports names => names.map fun item =>
    match item.asName with
    | some asName => (asName, item.name)
    | none => ((splitFirst item.name).1, (splitFirst item.name).1)
  | .importsFrom source names level =>
    match importSource? moduleName isPackage level source with
    | none => []
    | some source => (names.filter (·.name ≠ "*")).map fun item =>
      (item.asName.getD item.name,
        if source.isEmpty then item.name else source ++ "." ++ item.name)
  | _ => []

/-- The names that the imports of a module bind. -/
def ImportMap.ofModule (moduleName : String) (isPackage : Bool) (body : List Stmt) : ImportMap :=
  ((Stmt.scopeOf body).flatMap (Stmt.importBindings moduleName isPackage)).foldl
    (fun map (name, target) => map.bind name target) []

end Sitemap
