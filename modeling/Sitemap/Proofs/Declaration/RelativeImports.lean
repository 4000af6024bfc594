import Mathlib.Data.List.Induction
import Mathlib.Data.List.TakeDrop
import Sitemap.Declaration.Imports
import Sitemap.Proofs.Text.Pieces
import Sitemap.Source.Encoding

/-!
# Relative imports

* `IsPart` : a part of a dotted name; `nameParts_intercalate`, `splitLast_intercalate` take dotted
  names apart again;
* `packageOf` : the package that a module lies in, as parts;
* `ImportMap.bindAll`, `lookup_bindAll_iff` : binding one name after another; the last binding of a
  name counts; `names_bindAll` : the names are in the order of their first bindings;
* `importBindings_relative` : the one name that a relative import binds, or none;
* `lookup_ofModule_relative` : what the name is bound to in the whole module.

Inside the package, every point after the first leaves one part of it. One point more than the
package has parts still counts, as if the package lay in another one without a name; a module
without a package is treated as if it lay in such a one.
-/

namespace Sitemap

open Source

/-! ## Dotted names -/

/-- A part of a dotted name. -/
def IsPart (s : String) : Prop := s ≠ "" ∧ '.' ∉ s.toList

instance (s : String) : Decidable (IsPart s) := by unfold IsPart; infer_instance

theorem nameParts_intercalate {parts : List String} (hne : parts ≠ [])
    (hparts : ∀ p ∈ parts, IsPart p) : nameParts (".".intercalate parts) = parts :=
  map_splitChars_intercalate '.' hne fun p hp => (hparts p hp).2

theorem nameParts_empty : nameParts "" = [""] := by decide

/-- Texts make an empty name only if there are none, or one of them is empty. -/
theorem intercalate_eq_empty {parts : List String} (hparts : ∀ p ∈ parts, p ≠ "") :
    ".".intercalate parts = "" ↔ parts = [] := by
  constructor
  · intro hempty
    match parts with
    | [] => rfl
    | [p] => exact absurd (by simpa using hempty) (hparts p List.mem_cons_self)
    | p :: q :: rest =>
      rw [String.intercalate_cons_cons] at hempty
      have hlength := congrArg String.length hempty
      simp [String.length_append] at hlength
  · rintro rfl
    rfl

/-- The part behind the last point is the last part. -/
theorem splitLast_intercalate (init : List String) {last : String} (hlast : IsPart last) :
    splitLast (".".intercalate (init ++ [last])) = (".".intercalate init, last) := by
  have hplain : ∀ c ∈ last.toList.reverse, decide (c ≠ '.') = true := by
    intro c hc
    rw [decide_eq_true_eq]
    rintro rfl
    exact hlast.2 (List.mem_reverse.1 hc)
  -- what stands before the last part, from the end
  obtain ⟨front, hfront, hinit⟩ : ∃ front, (".".intercalate (init ++ [last])).toList.reverse =
      last.toList.reverse ++ front ∧ (front = [] ∧ init = [] ∨
        front = '.' :: (".".intercalate init).toList.reverse) := by
    by_cases hinit : init = []
    · exact ⟨[], by simp [hinit], .inl ⟨rfl, hinit⟩⟩
    · refine ⟨_, ?_, .inr rfl⟩
      simp [String.intercalate_append_of_ne_nil hinit]
  unfold splitLast
  rw [List.span_eq_takeWhile_dropWhile, hfront, List.takeWhile_append_of_pos hplain,
    List.dropWhile_append_of_pos hplain]
  rcases hinit with ⟨rfl, rfl⟩ | rfl
  · simp only [List.takeWhile_nil, List.dropWhile_nil, List.append_nil, List.drop_nil,
      List.reverse_nil, List.reverse_reverse, String.ofList_toList]
    rfl
  · rw [List.takeWhile_cons_of_neg (by decide), List.dropWhile_cons_of_neg (by decide)]
    simp only [List.append_nil, List.drop_succ_cons, List.drop_zero, List.reverse_reverse,
      String.ofList_toList]

/-! ## Packages -/

/-- The package that a module lies in; a package lies in itself. -/
def packageOf (parts : List String) (isPackage : Bool) : List String :=
  if isPackage then parts else parts.dropLast

/-- Relative imports start from the package of a module. A module with a name but without a package
has one empty part instead. -/
theorem packageParts_intercalate {parts : List String} (hparts : ∀ p ∈ parts, IsPart p)
    (isPackage : Bool) : packageParts (".".intercalate parts) isPackage =
      if parts = [] then [] else if packageOf parts isPackage = [] then [""]
      else packageOf parts isPackage := by
  unfold packageParts packageOf
  by_cases hne : parts = []
  · simp [hne]
  have hname : (".".intercalate parts).isEmpty = false := by
    rw [Bool.eq_false_iff, ne_eq, String.isEmpty_iff]
    exact fun hempty => hne ((intercalate_eq_empty fun p hp => (hparts p hp).1).1 hempty)
  obtain ⟨init, last, rfl⟩ : ∃ init last, parts = init ++ [last] :=
    ⟨_, _, (List.dropLast_concat_getLast hne).symm⟩
  have hinit : ∀ p ∈ init, IsPart p := fun p hp => hparts p (List.mem_append_left _ hp)
  have hlast : IsPart last := hparts last (List.mem_append_right _ List.mem_cons_self)
  simp only [hname, Bool.false_eq_true, if_false, hne]
  cases isPackage with
  | true => simp [nameParts_intercalate hne hparts]
  | false =>
    by_cases hpackage : init = []
    · have hsplit := splitLast_intercalate [] hlast
      subst hpackage
      rw [hsplit]
      simp [nameParts_empty]
    · simp [splitLast_intercalate init hlast, nameParts_intercalate hpackage hinit, hpackage]

/-! ## Binding names -/

namespace ImportMap

theorem lookup_bind (map : ImportMap) (name target n : String) :
    (map.bind name target).lookup n = if n = name then some target else map.lookup n := by
  induction map with
  | nil =>
    by_cases hn : n = name
    · simp [bind, hn]
    · simp [bind, List.lookup_cons, beq_eq_false_iff_ne.2 hn, hn]
  | cons binding rest ih =>
    obtain ⟨m, t⟩ := binding
    rw [bind]
    by_cases hm : m = name
    · subst hm
      by_cases hn : n = m
      · simp [hn]
      · simp [List.lookup_cons, beq_eq_false_iff_ne.2 hn, hn]
    · rw [if_neg hm]
      by_cases hn : n = m
      · simp [hn, hm]
      · simp [List.lookup_cons, beq_eq_false_iff_ne.2 hn, ih]

def bindAll (bindings : List (String × String)) (map : ImportMap) : ImportMap :=
  bindings.foldl (fun map (name, target) => map.bind name target) map

theorem bindAll_append (xs ys : List (String × String)) (map : ImportMap) :
    bindAll (xs ++ ys) map = bindAll ys (bindAll xs map) := List.foldl_append

/-- A name that is not among those bound keeps its target. -/
theorem lookup_bindAll_of_ne {bindings : List (String × String)} {n : String}
    (h : ∀ b ∈ bindings, b.1 ≠ n) (map : ImportMap) :
    (bindAll bindings map).lookup n = map.lookup n := by
  induction bindings generalizing map with
  | nil => rfl
  | cons b rest ih =>
    rw [List.forall_mem_cons] at h
    have hrest : (bindAll rest (map.bind b.1 b.2)).lookup n = (map.bind b.1 b.2).lookup n :=
      ih h.2 _
    rw [show bindAll (b :: rest) map = bindAll rest (map.bind b.1 b.2) from rfl, hrest,
      lookup_bind, if_neg h.1.symm]

theorem lookup_bindAll (before : List (String × String)) (name target : String)
    {after : List (String × String)} (h : ∀ b ∈ after, b.1 ≠ name) (map : ImportMap) :
    (bindAll (before ++ (name, target) :: after) map).lookup name = some target := by
  have hbound : ((bindAll before map).bind name target).lookup name = some target := by
    rw [lookup_bind, if_pos rfl]
  rw [bindAll_append]
  exact (lookup_bindAll_of_ne h _).trans hbound

theorem exists_lookup_iff {map : ImportMap} {n : String} :
    (∃ t, map.lookup n = some t) ↔ n ∈ map.map Prod.fst := by
  rw [← Option.isSome_iff_exists, List.lookup_isSome_iff, List.mem_map]
  exact exists_congr fun binding => and_congr_right fun _ => beq_iff_eq.trans eq_comm

theorem names_bind (map : ImportMap) (name target : String) :
    (map.bind name target).map Prod.fst =
      if name ∈ map.map Prod.fst then map.map Prod.fst else map.map Prod.fst ++ [name] := by
  induction map with
  | nil => rfl
  | cons binding rest ih =>
    obtain ⟨n, t⟩ := binding
    rw [bind]
    by_cases hn : n = name
    · simp [hn]
    · simp only [if_neg hn, List.map_cons, ih, List.mem_cons, Ne.symm hn, false_or]
      split <;> rfl

theorem bindAll_concat (bindings : List (String × String)) (b : String × String)
    (map : ImportMap) : bindAll (bindings ++ [b]) map = (bindAll bindings map).bind b.1 b.2 :=
  bindAll_append bindings [b] map

theorem names_bindAll (bindings : List (String × String)) :
    (bindAll bindings []).map Prod.fst = (bindings.map Prod.fst).eraseDups := by
  induction bindings using List.reverseRecOn with
  | nil => rfl
  | append_singleton bindings b ih =>
    rw [bindAll_concat, names_bind, List.map_append, List.eraseDups_append, List.map_singleton]
    simp only [ih, List.mem_eraseDups]
    by_cases hb : b.1 ∈ bindings.map Prod.fst
    · rw [if_pos hb]
      simp [List.removeAll, hb]
    · rw [if_neg hb]
      simp [List.removeAll, hb, List.eraseDups_cons]

/-- A name is bound to a target just if that is its last binding. -/
theorem lookup_bindAll_iff {bindings : List (String × String)} {n t : String} :
    (bindAll bindings []).lookup n = some t ↔
      ∃ before after, bindings = before ++ (n, t) :: after ∧ ∀ b ∈ after, ¬ b.1 = n := by
  constructor
  · intro h
    induction bindings using List.reverseRecOn with
    | nil => cases h
    | append_singleton bindings b ih =>
      rw [bindAll_concat, lookup_bind] at h
      split at h
      · rename_i hn
        cases h
        exact ⟨bindings, [], by rw [hn], by simp⟩
      · rename_i hn
        obtain ⟨before, after, rfl, hafter⟩ := ih h
        refine ⟨before, after ++ [b], by simp, List.forall_mem_append.2 ⟨hafter, ?_⟩⟩
        simpa using Ne.symm hn
  · rintro ⟨before, after, rfl, hafter⟩
    exact lookup_bindAll before n t hafter []

end ImportMap

/-! ## Relative imports -/

section Relative
variable {parts : List String} {source : Option String} {item : Alias} {level : Nat}

/-- How many points still lead somewhere in a module: one more than its package has parts, where a
module with a name but without a package counts as one part deep. -/
def levelLimit (parts : List String) (isPackage : Bool) : Nat :=
  if parts = [] then 1 else max 1 (packageOf parts isPackage).length + 1

/-- What a relative import in the package starts from: the package without a part for each point
after the first, and what stands behind the points. -/
def relativeSource (parts : List String) (isPackage : Bool) (level : Nat)
    (source : Option String) : List String :=
  (packageOf parts isPackage).take ((packageOf parts isPackage).length - (level - 1)) ++
    source.toList

theorem ne_empty_of_mem_relativeSource (hparts : ∀ p ∈ parts, IsPart p) {isPackage : Bool}
    (hsource : source ≠ some "") : ∀ p ∈ relativeSource parts isPackage level source, p ≠ "" := by
  intro p hp
  rcases List.mem_append.1 hp with hp | hp
  · have hmem := List.mem_of_mem_take hp
    unfold packageOf at hmem
    split at hmem
    · exact (hparts p hmem).1
    · exact (hparts p (List.dropLast_subset parts hmem)).1
  · rintro rfl
    exact hsource (Option.mem_toList.1 hp)

/-- The module that a relative import takes names from. -/
theorem importSource?_relative (hparts : ∀ p ∈ parts, IsPart p) (isPackage : Bool)
    (hsource : source ≠ some "") (hlevel : 0 < level) :
    importSource? (".".intercalate parts) isPackage level source =
      if level ≤ levelLimit parts isPackage then
        some (".".intercalate (relativeSource parts isPackage level source))
      else none := by
  have hkept : (relativeSource parts isPackage level source).filter (!·.isEmpty) =
      relativeSource parts isPackage level source := by
    refine List.filter_eq_self.2 fun p hp => ?_
    simpa using ne_empty_of_mem_relativeSource hparts hsource p hp
  have hlength : ∀ n, n + 1 - level = n - (level - 1) := by
    intro n
    omega
  unfold importSource? levelLimit
  rw [if_neg (Nat.ne_of_gt hlevel), packageParts_intercalate hparts]
  unfold relativeSource at hkept ⊢
  by_cases hnil : parts = []
  · -- no name: no part to leave
    have hroot : packageOf parts isPackage = [] := by
      rw [hnil]
      cases isPackage <;> rfl
    have hfits : (0 + 1 < level) ↔ ¬ level ≤ 1 := by omega
    rw [hroot] at hkept ⊢
    simp only [List.take_nil, List.nil_append] at hkept
    simp only [hnil, if_true, List.length_nil, hfits, List.take_nil, List.nil_append, hkept,
      ite_not]
  by_cases hroot : packageOf parts isPackage = []
  · -- a name without a package: the one empty part is dropped again
    have hfits : (1 + 1 < level) ↔ ¬ level ≤ 1 + 1 := by omega
    have hempty : ∀ n, (([""] : List String).take n).filter (!·.isEmpty) = [] := by
      intro n
      cases n with
      | zero => rfl
      | succ n => simp
    rw [hroot] at hkept ⊢
    simp only [List.take_nil, List.nil_append] at hkept
    simp only [hnil, if_false, if_true, List.length_singleton, List.length_nil, hfits,
      Nat.max_zero, List.take_nil, List.nil_append, List.filter_append, hempty, hkept, ite_not]
  · have hdeep : max 1 (packageOf parts isPackage).length = (packageOf parts isPackage).length :=
      Nat.max_eq_right (List.length_pos_iff.2 hroot)
    have hfits : (packageOf parts isPackage).length + 1 < level ↔
        ¬ level ≤ (packageOf parts isPackage).length + 1 := by omega
    simp only [hnil, hroot, if_false, hdeep, hlength, hkept, hfits, ite_not]

/-- A relative import of one name binds that name or nothing. -/
theorem importBindings_relative (hparts : ∀ p ∈ parts, IsPart p) (isPackage : Bool)
    (hsource : source ≠ some "") (hitem : item.name ≠ "*") (hlevel : 0 < level) :
    (Stmt.importsFrom source [item] level).importBindings (".".intercalate parts) isPackage =
      if level ≤ levelLimit parts isPackage then
        [(item.asName.getD item.name,
          ".".intercalate (relativeSource parts isPackage level source ++ [item.name]))]
      else [] := by
  simp only [Stmt.importBindings, importSource?_relative hparts isPackage hsource hlevel]
  by_cases hl : level ≤ levelLimit parts isPackage
  · have hnames : ∀ p ∈ relativeSource parts isPackage level source, p ≠ "" :=
      ne_empty_of_mem_relativeSource hparts hsource
    simp only [if_pos hl]
    by_cases hnil : relativeSource parts isPackage level source = []
    · simp [hnil, hitem]
    · have hname : (".".intercalate (relativeSource parts isPackage level source)).isEmpty =
          false := by
        rw [Bool.eq_false_iff, ne_eq, String.isEmpty_iff]
        exact fun hempty => hnil ((intercalate_eq_empty hnames).1 hempty)
      simp [hname, hitem, String.intercalate_append_of_ne_nil hnil]
  · simp only [if_neg hl]

/-- A relative import in the scope of a module that is the last one to bind its name. As long as
there are no more points than the package has parts, the name is bound inside the package. With one
point more (two, in a module without a package) it is bound as if the package were left behind, and
beyond that the statement binds nothing. -/
theorem lookup_ofModule_relative (isPackage : Bool) {body before after : List Stmt}
    (hparts : ∀ p ∈ parts, IsPart p) (hsource : source ≠ some "") (hitem : item.name ≠ "*")
    (hlevel : 0 < level)
    (hscope : Stmt.scopeOf body = before ++ .importsFrom source [item] level :: after)
    (hafter : ∀ s ∈ after, ∀ b ∈ s.importBindings (".".intercalate parts) isPackage,
      b.1 ≠ item.asName.getD item.name) :
    (level ≤ (packageOf parts isPackage).length →
      (ImportMap.ofModule (".".intercalate parts) isPackage body).lookup
          (item.asName.getD item.name) =
        some (".".intercalate ((packageOf parts isPackage).take
          ((packageOf parts isPackage).length - (level - 1)) ++ source.toList ++ [item.name]))) ∧
    ((packageOf parts isPackage).length < level → level ≤ levelLimit parts isPackage →
      (ImportMap.ofModule (".".intercalate parts) isPackage body).lookup
          (item.asName.getD item.name) =
        some (".".intercalate (source.toList ++ [item.name]))) ∧
    (levelLimit parts isPackage < level →
      ImportMap.ofModule (".".intercalate parts) isPackage body =
        .bindAll ((before ++ after).flatMap
          (Stmt.importBindings (".".intercalate parts) isPackage)) []) := by
  have hmodule : ImportMap.ofModule (".".intercalate parts) isPackage body =
      .bindAll (before.flatMap (Stmt.importBindings (".".intercalate parts) isPackage) ++
        ((Stmt.importsFrom source [item] level).importBindings (".".intercalate parts) isPackage ++
          after.flatMap (Stmt.importBindings (".".intercalate parts) isPackage))) [] := by
    rw [ImportMap.ofModule, hscope, List.flatMap_append, List.flatMap_cons]
    rfl
  rw [importBindings_relative hparts isPackage hsource hitem hlevel] at hmodule
  have hbound : level ≤ levelLimit parts isPackage →
      (ImportMap.ofModule (".".intercalate parts) isPackage body).lookup
          (item.asName.getD item.name) =
        some (".".intercalate (relativeSource parts isPackage level source ++ [item.name])) := by
    intro hl
    rw [hmodule, if_pos hl]
    refine ImportMap.lookup_bindAll _ _ _ (fun b hb => ?_) []
    obtain ⟨s, hs, hb⟩ := List.mem_flatMap.1 hb
    exact hafter s hs b hb
  refine ⟨fun hl => hbound ?_, fun hl hlimit => ?_, fun hl => ?_⟩
  · unfold levelLimit
    split
    · rename_i hnil
      rw [hnil] at hl
      cases isPackage <;> simp [packageOf] at hl <;> omega
    · omega
  · have hnone : (packageOf parts isPackage).length - (level - 1) = 0 := by omega
    rw [hbound hlimit, relativeSource, hnone, List.take_zero, List.nil_append]
  · rw [hmodule, if_neg (Nat.not_le.2 hl), List.nil_append, List.flatMap_append]

end Relative

def tryingBody (level : Nat) : List Stmt :=
  [.tryBlock [.importsFrom (some "core.urls") [⟨"route", some "path"⟩] level] [[.other]] [] []]

/-- From `app.pages.home`, whose package has two parts, with two to four points. -/
theorem lookup_tryingBody :
    (∀ level, ∃ before after, Stmt.scopeOf (tryingBody level) =
      before ++ .importsFrom (some "core.urls") [⟨"route", some "path"⟩] level :: after) ∧
    (ImportMap.ofModule (".".intercalate ["app", "pages", "home"]) false (tryingBody 2)).lookup
      "path" = some "app.core.urls.route" ∧
    (ImportMap.ofModule (".".intercalate ["app", "pages", "home"]) false (tryingBody 3)).lookup
      "path" = some "core.urls.route" ∧
    ImportMap.ofModule (".".intercalate ["app", "pages", "home"]) false (tryingBody 4) = [] := by
  have hscope : ∀ level, Stmt.scopeOf (tryingBody level) = tryingBody level ++
      .importsFrom (some "core.urls") [⟨"route", some "path"⟩] level :: [.other] := fun _ => rfl
  have htheorem := fun level hlevel => lookup_ofModule_relative false
    (show ∀ p ∈ ["app", "pages", "home"], IsPart p by decide)
    (show some "core.urls" ≠ some "" by decide)
    (show (⟨"route", some "path"⟩ : Alias).name ≠ "*" by decide) hlevel (hscope level)
    (fun s hs b hb => by
      obtain rfl := List.mem_singleton.1 hs
      cases hb)
  exact ⟨fun level => ⟨_, _, hscope level⟩, (htheorem 2 (by decide)).1 (by decide),
    (htheorem 3 (by decide)).2.1 (by decide) (by decide),
    (htheorem 4 (by decide)).2.2 (by decide)⟩

/-- One point more than the package has parts leads out of it, and still binds a name: two points in
a module of the package `app`, and one in a module without a package. -/
theorem ofModule_outsidePackage :
    packageOf ["app", "home"] false = ["app"] ∧
    (parseInput? (.text "from ..m import n")).map (ImportMap.ofModule "app.home" false) =
      some [("n", "m.n")] ∧
    packageOf ["app"] false = [] ∧
    (parseInput? (.text "from . import n")).map (ImportMap.ofModule "app" false) =
      some [("n", "n")] := by
  decide +kernel

end Sitemap
