import Mathlib.Data.List.Induction
import Mathlib.Data.List.TakeDrop
import Mathlib.Logic.Function.Iterate
import Sitemap.SourceFiles

/-!
# Modules in packages

* `Store.Climbs` : the walk from a directory up through the packages around it ends;
* `Store.ClimbsForever` : it never ends;
* `Store.climbs_iff`, `climbsForever_iff` : whether the walk ends is whether it has a result;
* `dropSuffix_source`, `moduleParts_source` : what a source gives to the name of its module;
* `Store.moduleName_packaged` : a source in a package has one module name, from wherever it is
  found.
-/

namespace Sitemap

/-! ## The walk through packages -/

namespace Store

/-- The walk up from a directory: from a package it goes on to the directory around it, and it ends
where no package is. The names of the packages are those from the outside in. Around the working
directory there is itself. -/
inductive Climbs (s : Store) : (directory packages : List String) → Prop
  | stop {directory : List String} : s.isPackage directory = false → Climbs s directory []
  | up {directory packages : List String} : s.isPackage directory = true →
      Climbs s directory.dropLast packages →
      Climbs s directory (packages ++ [directory.getLastD ""])

/-- The walk up from a directory never ends: after any number of steps it is in a package. -/
def ClimbsForever (s : Store) (directory : List String) : Prop :=
  ∀ steps : Nat, s.isPackage (List.dropLast^[steps] directory) = true

section Climbs
variable {s : Store} {directory packages outer chain : List String}

theorem packagesAround?_nil (s : Store) :
    s.packagesAround? [] = if s.isPackage [] then none else some [] := rfl

theorem packagesAround?_concat (s : Store) (init : List String) (name : String) :
    s.packagesAround? (init ++ [name]).reverse =
      if s.isPackage (init ++ [name]) then
        (s.packagesAround? init.reverse).map (· ++ [name])
      else some [] := by
  rw [List.reverse_concat, packagesAround?, List.reverse_cons, List.reverse_reverse]

/-- A walk that begins at the working directory ends there at once or never. -/
theorem Climbs.not_isPackage (h : s.Climbs [] packages) : s.isPackage [] = false := by
  generalize hdirectory : ([] : List String) = directory at h
  induction h with
  | stop hstop => exact hstop
  | up _ _ ih =>
    subst hdirectory
    exact ih rfl

/-- The walk ends just if it has a result, which is the packages that the directory lies in. -/
theorem climbs_iff : s.Climbs directory packages ↔
    s.packagesAround? directory.reverse = some packages := by
  constructor
  · intro h
    induction h with
    | @stop directory hstop =>
      cases directory using List.reverseRecOn with
      | nil => rw [List.reverse_nil, packagesAround?_nil, hstop]; rfl
      | append_singleton init name => rw [packagesAround?_concat, hstop]; rfl
    | @up directory packages hpackage hwalk ih =>
      cases directory using List.reverseRecOn with
      | nil =>
        rw [Climbs.not_isPackage hwalk] at hpackage
        cases hpackage
      | append_singleton init name =>
        rw [List.dropLast_concat] at ih
        rw [packagesAround?_concat, if_pos hpackage, ih, List.getLastD_concat, Option.map_some]
  · intro h
    induction directory using List.reverseRecOn generalizing packages with
    | nil =>
      rw [List.reverse_nil, packagesAround?_nil] at h
      split at h
      · cases h
      · rename_i hroot
        cases h
        exact .stop (Bool.eq_false_iff.2 hroot)
    | append_singleton init name ih =>
      rw [packagesAround?_concat] at h
      split at h
      · rename_i hpackage
        obtain ⟨inner, hinner, rfl⟩ := Option.map_eq_some_iff.1 h
        have hup := Climbs.up hpackage (by rw [List.dropLast_concat]; exact ih hinner)
        rwa [List.getLastD_concat] at hup
      · rename_i hother
        cases h
        exact .stop (Bool.eq_false_iff.2 hother)

theorem climbsForever_concat {init : List String} {name : String} :
    s.ClimbsForever (init ++ [name]) ↔
      s.isPackage (init ++ [name]) = true ∧ s.ClimbsForever init := by
  have hstep : ∀ steps : Nat,
      List.dropLast^[steps + 1] (init ++ [name]) = List.dropLast^[steps] init := fun steps => by
    rw [Function.iterate_succ_apply, List.dropLast_concat]
  constructor
  · exact fun h => ⟨h 0, fun steps => hstep steps ▸ h (steps + 1)⟩
  · rintro ⟨hfirst, hrest⟩ steps
    cases steps with
    | zero => exact hfirst
    | succ steps => exact hstep steps ▸ hrest steps

theorem climbsForever_nil : s.ClimbsForever [] ↔ s.isPackage [] = true := by
  refine ⟨fun h => h 0, fun h steps => ?_⟩
  rwa [Function.iterate_fixed rfl]

/-- The walk never ends just if it has no result. -/
theorem climbsForever_iff :
    s.ClimbsForever directory ↔ s.packagesAround? directory.reverse = none := by
  induction directory using List.reverseRecOn with
  | nil => simp [climbsForever_nil, packagesAround?_nil]
  | append_singleton init name ih =>
    rw [climbsForever_concat, packagesAround?_concat, ih]
    split
    · rename_i hpackage
      simp [hpackage]
    · rename_i hother
      simp [hother]

/-- A walk that never ends comes to the working directory. -/
theorem ClimbsForever.isPackage (h : s.ClimbsForever directory) : s.isPackage [] = true := by
  induction directory using List.reverseRecOn with
  | nil => exact h 0
  | append_singleton init name ih => exact ih (climbsForever_concat.1 h).2

/-- From the end of a chain of packages the walk goes to its beginning. -/
theorem climbs_chain (houter : s.isPackage outer = false)
    (hchain : ∀ k < chain.length, s.isPackage (outer ++ chain.take (k + 1)) = true) :
    s.Climbs (outer ++ chain) chain := by
  induction chain using List.reverseRecOn with
  | nil =>
    rw [List.append_nil]
    exact .stop houter
  | append_singleton chain name ih =>
    rw [List.length_append, List.length_singleton] at hchain
    have hlast := hchain chain.length (Nat.lt_succ_self _)
    rw [List.take_of_length_le (by simp)] at hlast
    have hwalk : s.Climbs (outer ++ chain) chain := by
      refine ih fun k hk => ?_
      have hbefore := hchain k (Nat.lt_succ_of_lt hk)
      rwa [List.take_append_of_le_length hk] at hbefore
    have hup := Climbs.up hlast (by rwa [← List.append_assoc, List.dropLast_concat])
    rwa [← List.append_assoc, List.getLastD_concat, List.append_assoc] at hup

end Climbs

end Store

/-! ## Names of sources -/

/-- The name of a source without its ending. -/
theorem dropSuffix_source {n : String} (hn : n ≠ "") : dropSuffix (n ++ ".py") = n := by
  have hne : n.toList ≠ [] := fun hnil => hn (String.toList_eq_nil_iff.1 hnil)
  have hchars : (n ++ ".py").toList.reverse = ['y', 'p'] ++ '.' :: n.toList.reverse := by
    rw [String.toList_append, List.reverse_append]
    rfl
  have hspan : (['y', 'p'] ++ '.' :: n.toList.reverse).span (· ≠ '.') =
      (['y', 'p'], '.' :: n.toList.reverse) := by
    rw [List.span_eq_takeWhile_dropWhile]
    rfl
  have hlength : ¬ ('.' :: n.toList.reverse).length ≤ 1 := by
    have hpos := List.length_pos_iff.2 hne
    rw [List.length_cons, List.length_reverse]
    omega
  rw [dropSuffix, hchars, hspan]
  simp only [List.isEmpty_cons, Bool.false_eq_true, false_or, if_neg hlength, List.drop_succ_cons,
    List.drop_zero, List.reverse_reverse, String.ofList_toList]

/-- A source gives its name, and the names on the way to it, unless it stands for its package. -/
theorem moduleParts_source {n : String} (hn : n ≠ "") (inner : List String) :
    moduleParts (inner ++ [n ++ ".py"]) = inner ++ if n = packageName then [] else [n] := by
  simp only [moduleParts, List.dropLast_concat, List.getLastD_concat, dropSuffix_source hn,
    List.getLast?_concat, Option.some.injEq]
  split
  · rw [List.append_nil]
  · rfl

/-! ## One name for each source -/

namespace Store

/-- A source in the last of some packages, each in the one before and the first in a directory that
is no package, has the same module name from that directory and from each of the packages. From each
of them the walk through the packages ends. -/
theorem moduleName_packaged {s : Store} {outer chain : List String} {n : String}
    (houter : s.isPackage outer = false) (hne : chain ≠ [])
    (hchain : ∀ k < chain.length, s.isPackage (outer ++ chain.take (k + 1)) = true) (hn : n ≠ "") :
    ∀ k ≤ chain.length,
      let root : Path := ⟨outer ++ chain.take k⟩
      let name := ".".intercalate (chain ++ if n = packageName then [] else [n])
      s.Climbs root.names (chain.take k) ∧
        s.moduleName ⟨outer ++ chain ++ [n ++ ".py"]⟩ root = .ok name ∧
        ∀ l, (s.sourceFile? ⟨root, l, chain.drop k ++ [n ++ ".py"]⟩).map (·.moduleName) =
          some name := by
  intro k hk root name
  have hwalk : s.Climbs root.names (chain.take k) := by
    refine climbs_chain houter fun i hi => ?_
    rw [List.length_take, Nat.min_eq_left hk] at hi
    rw [List.take_take, Nat.min_eq_left hi]
    exact hchain i (Nat.lt_of_lt_of_le hi hk)
  have hbelow : s.moduleBelow? root (chain.drop k ++ [n ++ ".py"]) = some name := by
    have hparts : chain.take k ++ moduleParts (chain.drop k ++ [n ++ ".py"]) =
        chain ++ if n = packageName then [] else [n] := by
      rw [moduleParts_source hn, ← List.append_assoc, List.take_append_drop]
    have hsome : (chain ++ if n = packageName then [] else [n]).isEmpty = false := by
      rw [List.isEmpty_eq_false_iff]
      exact List.append_ne_nil_of_left_ne_nil hne _
    simp only [moduleBelow?, climbs_iff.1 hwalk, Option.map_some, hparts, hsome,
      Bool.false_eq_true, if_false, name]
  have hinside : Path.inside? ⟨outer ++ chain ++ [n ++ ".py"]⟩ root =
      some (chain.drop k ++ [n ++ ".py"]) := by
    have hsplit : outer ++ chain ++ [n ++ ".py"] =
        root.names ++ (chain.drop k ++ [n ++ ".py"]) := by
      simp only [root, List.append_assoc]
      rw [← List.append_assoc (chain.take k), List.take_append_drop]
    have hprefix : root.names.isPrefixOf (root.names ++ (chain.drop k ++ [n ++ ".py"])) = true :=
      List.isPrefixOf_iff_prefix.2 (List.prefix_append _ _)
    rw [Path.inside?, hsplit, if_pos hprefix, List.drop_left]
  refine ⟨hwalk, ?_, fun _ => ?_⟩
  · rw [moduleName, hinside]
    split
    · rename_i hnone
      cases hnone
    · rename_i hempty
      exact absurd (Option.some.inj hempty) (List.concat_ne_nil _ _)
    · rename_i names _ hsome
      rw [← Option.some.inj hsome, hbelow]
      rfl
  · simp only [sourceFile?, hbelow, Option.map_some]

end Store

def packagedPage : Store where
  items := [(["src"], .directory), (["src", "app"], .directory),
    (["src", "app", "__init__.py"], .file []), (["src", "app", "pages"], .directory),
    (["src", "app", "pages", "__init__.py"], .file []),
    (["src", "app", "pages", "home.py"], .file [])]

/-- The page has the same name from the package around it as from the directory of all packages. -/
theorem moduleName_packagedPage :
    (packagedPage.isPackage ["src"] = false ∧ ["app", "pages"] ≠ [] ∧
      (∀ k < ["app", "pages"].length,
        packagedPage.isPackage (["src"] ++ ["app", "pages"].take (k + 1)) = true) ∧
      "home" ≠ "") ∧
    packagedPage.moduleName ⟨["src", "app", "pages", "home.py"]⟩ ⟨["src"]⟩ =
      .ok "app.pages.home" ∧
    packagedPage.moduleName ⟨["src", "app", "pages", "home.py"]⟩ ⟨["src", "app", "pages"]⟩ =
      .ok "app.pages.home" := by
  have houter : packagedPage.isPackage ["src"] = false := by decide
  have hchain : ∀ k < ["app", "pages"].length,
      packagedPage.isPackage (["src"] ++ ["app", "pages"].take (k + 1)) = true := by
    decide
  have hname := Store.moduleName_packaged houter (by decide) hchain (n := "home") (by decide)
  exact ⟨⟨houter, by decide, hchain, by decide⟩, (hname 0 (by decide)).2.1,
    (hname 2 (by decide)).2.1⟩

end Sitemap
