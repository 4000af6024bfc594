import Sitemap.Declaration.Inspection
import Sitemap.Proofs.Except
import Sitemap.Proofs.Source.Places

/-!
# The declarations of a body, class by class

* `Resolver.declare` : the declaration of one class;
* `declarationsOf_eq_mapM` : the declarations of a body are those of its classes;
* `Resolver.ofModule` : how names resolve in a module; `inspect_of_parse` puts this together for a
  source.
-/

namespace Sitemap

open Source

/-- The declaration of a class: its annotations are those of its decorators, and its name stands
behind the scopes around it. -/
def Resolver.declare (r : Resolver) (scopes : List String) (c : ClassSite) :
    Except Inspection.Fault Declaration := do
  let annotations ← c.decorators.mapM r.annotation
  return ⟨c.name, ".".intercalate (scopes ++ c.scopes ++ [c.name]), r.moduleName, r.path, c.line,
    annotations⟩

theorem Resolver.declare_within (r : Resolver) (scopes names : List String) :
    r.declare scopes ∘ ClassSite.within names = r.declare (scopes ++ names) := by
  funext c
  simp [Resolver.declare, ClassSite.within, List.append_assoc]

/-- The declarations of a body are those of its classes: the scopes that are handed down are those
around each class. -/
theorem declarationsOf_eq_mapM (r : Resolver) (scopes : List String) (body : List Stmt) :
    Stmt.declarationsOf r scopes body = (classesOf body).mapM (r.declare scopes) := by
  induction scopes, body using Stmt.declarationsOf.induct
    (motive_1 := fun scopes s => s.declarations r scopes = s.classes.mapM (r.declare scopes))
    (motive_2 := fun scopes bodies =>
      Stmt.declarationsOfAll r scopes bodies = (classesOfAll bodies).mapM (r.declare scopes)) with
  | case1 scopes line name decorators body ih =>
    rw [Stmt.declarations, Stmt.classes, List.mapM_cons, List.mapM_map, Resolver.declare_within, ih]
    simp [Resolver.declare]
  | case2 scopes name parameters body ih =>
    rw [Stmt.declarations, Stmt.classes, List.mapM_map, Resolver.declare_within, ih]
  | case3 scopes body otherwise ihbody ihotherwise =>
    rw [Stmt.declarations, Stmt.classes, List.mapM_append, ihbody, ihotherwise]
  | case4 scopes body otherwise ihbody ihotherwise =>
    rw [Stmt.declarations, Stmt.classes, List.mapM_append, ihbody, ihotherwise]
  | case5 scopes body ih => rw [Stmt.declarations, Stmt.classes, ih]
  | case6 scopes body handlers otherwise final ihbody ihhandlers ihotherwise ihfinal =>
    rw [Stmt.declarations, Stmt.classes, ihbody, ihhandlers, ihotherwise, ihfinal]
    simp [List.mapM_append]
  | case7 scopes bodies ih => rw [Stmt.declarations, Stmt.classes, ih]
  | case8 s scopes hclass hfunction hbranch hloop hwith htry hcases =>
    rw [Stmt.declarations, Stmt.classes]
    · rfl
    all_goals assumption
  | case9 scopes => rfl
  | case10 scopes s rest ih ihrest =>
    rw [Stmt.declarationsOf, classesOf, List.mapM_append, ih, ihrest]
  | case11 scopes => rfl
  | case12 scopes body rest ih ihrest =>
    rw [Stmt.declarationsOfAll, classesOfAll, List.mapM_append, ih, ihrest]

/-- How names resolve in a module whose statements are given. -/
def Resolver.ofModule (moduleName path : String) (isPackage : Bool) (body : List Stmt) : Resolver :=
  ⟨moduleName, path, ImportMap.ofModule moduleName isPackage body, topLevelNames body⟩

theorem inspect_of_parse {source : Input} {body : List Stmt} (h : parseInput? source = some body)
    (moduleName path : String) (isPackage : Bool) : inspect source moduleName path isPackage =
      (classesOf body).mapM ((Resolver.ofModule moduleName path isPackage body).declare []) := by
  rw [inspect, h]
  exact declarationsOf_eq_mapM _ [] body

end Sitemap
