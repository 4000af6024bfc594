import Mathlib.Data.List.TakeDrop
import Mathlib.Tactic.ByContra
import Sitemap.Declaration.Inspection
import Sitemap.Proofs.Declaration.Listing
import Sitemap.Proofs.Except
import Sitemap.Proofs.Lists
import Sitemap.Proofs.Scan.Partition

/-!
# A source that does not use the package

* `IsForeign` : a name that does not lie in the package whose decorators count;
* `canonicalName_of_isForeign` : such a name is not exported again;
* `Resolver.isForeign_resolve?` : a module outside the package that imports nothing from it resolves
  names to foreign ones only;
* `exists_decorator_of_mem_inspectModule` : the annotations of a class are those of its decorators,
  however deep the class lies;
* `scan_inspect_of_isForeign` : a source of such a module has no entries.
-/

namespace Sitemap

open Source

/-! ## The first part of a name -/

/-- The package whose decorators count. -/
def ownPackage : String := "sitemap_codegen"

/-- A name that does not lie in the package. -/
def IsForeign (name : String) : Prop := (splitFirst name).1 ≠ ownPackage

instance (name : String) : Decidable (IsForeign name) := by unfold IsForeign; infer_instance

theorem splitFirst_fst (name : String) :
    (splitFirst name).1 = String.ofList (name.toList.takeWhile (· ≠ '.')) := by
  unfold splitFirst
  rw [List.span_eq_takeWhile_dropWhile]
  cases name.toList.dropWhile (· ≠ '.') <;> rfl

theorem takeWhile_append_point (cs ds : List Char) :
    (cs ++ '.' :: ds).takeWhile (· ≠ '.') = cs.takeWhile (· ≠ '.') := by
  induction cs with
  | nil => rfl
  | cons c cs ih => rw [List.cons_append, List.takeWhile_cons, List.takeWhile_cons, ih]

theorem splitFirst_fst_append (name rest : String) :
    (splitFirst (name ++ "." ++ rest)).1 = (splitFirst name).1 := by
  have hchars : (name ++ "." ++ rest).toList = name.toList ++ '.' :: rest.toList := by
    simp
  rw [splitFirst_fst, splitFirst_fst, hchars, takeWhile_append_point]

theorem IsForeign.append {name : String} (h : IsForeign name) (rest : String) :
    IsForeign (name ++ "." ++ rest) := by
  rw [IsForeign, splitFirst_fst_append]
  exact h

theorem splitFirst_fst_of_insideOf? {name qualified : String} {rest : List Char}
    (hpoint : '.' ∈ name.toList) (h : insideOf? name qualified = some rest) :
    (splitFirst qualified).1 = (splitFirst name).1 := by
  unfold insideOf? at h
  split at h
  · rename_i hbegins
    obtain ⟨tail, htail⟩ := List.isPrefixOf_iff_prefix.1 hbegins
    obtain ⟨cs, ds, hname⟩ := List.append_of_mem hpoint
    rw [splitFirst_fst, splitFirst_fst, ← htail, hname, List.append_assoc, List.cons_append,
      takeWhile_append_point, takeWhile_append_point]
  · cases h

/-- A foreign name is not exported again. -/
theorem canonicalName_of_isForeign {qualified : String} (h : IsForeign qualified) :
    canonicalName qualified = qualified := by
  have houtside : ∀ item ∈ reexports, insideOf? item.1 qualified = none := by
    intro item hitem
    have hlocal : '.' ∈ item.1.toList ∧ (splitFirst item.1).1 = ownPackage := by
      revert item
      decide
    by_contra hinside
    obtain ⟨rest, hrest⟩ := Option.ne_none_iff_exists'.1 hinside
    exact h ((splitFirst_fst_of_insideOf? hlocal.1 hrest).trans hlocal.2)
  rw [canonicalName, List.findSome?_eq_none_iff.2, Option.getD_none]
  exact fun item hitem => Option.map_eq_none_iff.2 (houtside item hitem)

/-! ## Names in a module -/

namespace Resolver

/-- The module lies outside the package, and so does every name that it imports. -/
structure IsForeign (r : Resolver) : Prop where
  moduleName : Sitemap.IsForeign r.moduleName
  imports : ∀ binding ∈ r.imports, Sitemap.IsForeign binding.2

variable {r : Resolver}

/-- Names resolve to foreign ones: what stands before the first point is kept. -/
theorem isForeign_resolve? (hr : r.IsForeign) {written qualified : String}
    (h : r.resolve? written = some qualified) : Sitemap.IsForeign qualified := by
  unfold resolve? at h
  generalize splitFirst written = parts at h
  obtain ⟨head, rest⟩ := parts
  obtain ⟨base, hbase, hqualified⟩ := Option.map_eq_some_iff.1 h
  have hforeign : Sitemap.IsForeign base := by
    cases hlookup : r.imports.lookup head with
    | some target =>
      obtain ⟨before, after, himports, -⟩ := List.lookup_eq_some_iff.1 hlookup
      obtain rfl : target = base := by simpa [hlookup] using hbase
      exact hr.imports (head, target) (by rw [himports]; simp)
    | none =>
      simp only [hlookup] at hbase
      obtain ⟨-, hdefined⟩ := Option.ite_none_right_eq_some.1 hbase
      cases hdefined
      exact hr.moduleName.append head
  rw [← hqualified]
  split
  · split
    · rwa [canonicalName_of_isForeign hforeign]
    · rw [canonicalName_of_isForeign (hforeign.append _)]
      exact hforeign.append _
  · rwa [canonicalName_of_isForeign hforeign]

/-- An annotation has the name that its decorator resolves to, if it has one. -/
theorem annotation_name {decorator : Expr} {a : Annotation} (h : r.annotation decorator = .ok a)
    {qualified : String} (hname : a.name = some qualified) :
    ∃ written, r.resolve? written = some qualified := by
  unfold annotation at h
  dsimp only at h
  split at h
  · split at h
    · cases h
      cases hname
    · cases h
  · rename_i written _
    refine ⟨written, ?_⟩
    split at h
    · obtain ⟨values, -, hvalues⟩ := bind_eq_ok.1 h
      split at hvalues <;> cases hvalues <;> exact hname
    · cases h
      exact hname

end Resolver

/-! ## Classes at any depth -/

/-- An annotation of a class of a source, however deep the class lies, is that of a decorator. -/
theorem exists_decorator_of_mem_inspectModule {moduleName path : String} {isPackage : Bool}
    {body : List Stmt} {ds : List Declaration}
    (h : inspectModule moduleName path isPackage body = .ok ds) {d : Declaration} (hd : d ∈ ds)
    {a : Annotation} (ha : a ∈ d.annotations) :
    ∃ decorator, Resolver.annotation (.ofModule moduleName path isPackage body) decorator = .ok a := by
  have hclasses : (classesOf body).mapM
      ((Resolver.ofModule moduleName path isPackage body).declare []) = .ok ds :=
    (declarationsOf_eq_mapM _ [] body).symm.trans h
  obtain ⟨c, -, hdeclare⟩ := exists_of_mem_mapM hclasses d hd
  obtain ⟨annotations, hannotations, heq⟩ := bind_eq_ok.1 hdeclare
  cases heq
  obtain ⟨decorator, -, hannotation⟩ := exists_of_mem_mapM hannotations a ha
  exact ⟨decorator, hannotation⟩

/-- A source whose module lies outside the package and imports nothing from it resolves no
decorator to a name of the package. -/
theorem isForeign_of_mem_inspectModule {moduleName path : String} {isPackage : Bool}
    {body : List Stmt} {ds : List Declaration}
    (hmodule : IsForeign moduleName)
    (himports : ∀ binding ∈ ImportMap.ofModule moduleName isPackage body, IsForeign binding.2)
    (h : inspectModule moduleName path isPackage body = .ok ds) :
    ∀ d ∈ ds, ∀ a ∈ d.annotations, ∀ qualified, a.name = some qualified → IsForeign qualified := by
  intro d hd a ha qualified hname
  obtain ⟨decorator, hannotation⟩ := exists_decorator_of_mem_inspectModule h hd ha
  obtain ⟨written, hwritten⟩ := Resolver.annotation_name hannotation hname
  have hforeign : (Resolver.ofModule moduleName path isPackage body).IsForeign :=
    ⟨hmodule, himports⟩
  exact Resolver.isForeign_resolve? hforeign hwritten

/-! ## Entries -/

theorem entry?_eq_none {d : Declaration} (h : ∀ a ∈ d.annotations, a.name ≠ some routeAnnotation) :
    d.entry? = none := by
  have hfirst : d.annotations.find? (·.name == some routeAnnotation) = none := by
    refine List.find?_eq_none.2 fun a ha hname => h a ha ?_
    exact beq_iff_eq.1 hname
  unfold Declaration.entry? Declaration.extract Declaration.firstNamed
  rw [hfirst]
  rfl

theorem scanEntries_eq_nil {names : ScanNames} {ds : List Declaration}
    (h : ∀ d ∈ ds, d.entry? = none) : scanEntries names ds = [] := by
  refine List.filterMap_eq_nil_iff.2 fun d hd => ?_
  cases hscan : d.scan names with
  | entry e =>
    have hentry := (scan_eq_entry.1 hscan).2.2
    rw [h d hd] at hentry
    cases hentry
  | omitted o => rfl
  | silent => rfl

/-- A source of a module outside the package that imports nothing from the package has no entries,
whatever its decorators are called, whatever it defines, and whatever names are asked for. -/
theorem scan_inspect_of_isForeign {source : Input} {body : List Stmt} {moduleName path : String}
    {isPackage : Bool} {ds : List Declaration} (hparse : parseInput? source = some body)
    (hinspect : inspect source moduleName path isPackage = .ok ds)
    (hmodule : IsForeign moduleName)
    (himports : ∀ binding ∈ ImportMap.ofModule moduleName isPackage body, IsForeign binding.2)
    (names : ScanNames) (diagnose : Bool) : (scanDeclarations names diagnose ds).entries = [] := by
  have hbody : inspectModule moduleName path isPackage body = .ok ds := by
    rwa [inspect, hparse] at hinspect
  have hlocal : ¬IsForeign routeAnnotation := by decide
  refine scanEntries_eq_nil fun d hd => entry?_eq_none fun a ha hname => hlocal ?_
  exact isForeign_of_mem_inspectModule hmodule himports hbody d hd a ha _ hname

/-- A source that defines a decorator of its own and imports one of the same name from a module that
only begins like the package. -/
def lookalikeSource : Input := .text ("from sitemap_codegen2.annotations import route\n" ++
  "def sitemap_url(c): return c\n@route('/')\n@sitemap_url\nclass Page: ...\n")

theorem scan_lookalikeSource : ∃ body ds,
    (parseInput? lookalikeSource = some body ∧
      inspect lookalikeSource "site.pages" "pages.py" false = .ok ds ∧
      IsForeign "site.pages" ∧
      ∀ binding ∈ ImportMap.ofModule "site.pages" false body, IsForeign binding.2) ∧
    ds.map (·.qualname) = ["Page"] ∧
    (scanDeclarations ⟨"route", "sitemap_url"⟩ true ds).entries = [] := by
  have hread : (parseInput? lookalikeSource).any fun body =>
      ((inspectModule "site.pages" "pages.py" false body).toOption.map fun ds =>
        ds.map (·.qualname)) == some ["Page"] &&
      (ImportMap.ofModule "site.pages" false body).all fun binding => IsForeign binding.2 := by
    decide +kernel
  obtain ⟨body, hbody, hread⟩ := (Option.any_eq_true _ _).1 hread
  obtain ⟨hfound, himports⟩ := Bool.and_eq_true_iff.1 hread
  obtain ⟨ds, hds, hnames⟩ := Option.map_eq_some_iff.1 (beq_iff_eq.1 hfound)
  have hinspect : inspect lookalikeSource "site.pages" "pages.py" false = .ok ds := by
    rw [inspect, hbody]
    exact mem_toOption.1 hds
  have hmodule : IsForeign "site.pages" := by decide
  have hforeign := forall_mem_of_all himports
  exact ⟨body, ds, ⟨hbody, hinspect, hmodule, hforeign⟩, hnames,
    scan_inspect_of_isForeign hbody hinspect hmodule hforeign _ _⟩

end Sitemap
