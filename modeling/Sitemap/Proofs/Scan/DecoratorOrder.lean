import Mathlib.Data.List.Perm.Basic
import Sitemap.Proofs.Scan.Partition

/-!
# The order of decorators

* `findsBoth_cons`, `findsBoth_iff`, `isCandidate_iff` : the search with two flags finds both names
  just if both are there;
* `asEntry_scan` : the entry of a declaration is looked for only if it is a candidate;
* `asEntry_congr` : it depends on the names that are written, and on the annotations of each of the
  two kinds;
* `Extends` : a list with more elements of a kind, wherever they are put;
* `scanDeclarations_decoratorOrder` : decorators may change places with those of another kind, and
  others may be put between them.
-/

namespace Sitemap

/-! ## Candidates -/

/-- One step of the search: it is over once both names are found. -/
theorem findsBoth_cons (names : ScanNames) {route sitemap : Bool} (h : (route && sitemap) = false)
    (a : Annotation) (rest : List Annotation) : findsBoth names route sitemap (a :: rest) =
      if (route || a.written == names.route) && (sitemap || a.written == names.sitemap) then true
      else findsBoth names (route || a.written == names.route)
        (sitemap || a.written == names.sitemap) rest := by
  rw [findsBoth]
  revert h
  cases route <;> cases sitemap <;> cases a.written == names.route <;>
    cases a.written == names.sitemap <;> simp

/-- A flag that is set stands for a name that was found before. With both of them set, the search
would find nothing in the end, but then it is over. -/
theorem findsBoth_iff (names : ScanNames) {route sitemap : Bool} (h : (route && sitemap) = false)
    (as : List Annotation) : findsBoth names route sitemap as = true ↔
      (route = true ∨ ∃ a ∈ as, a.written = names.route) ∧
        (sitemap = true ∨ ∃ a ∈ as, a.written = names.sitemap) := by
  induction as generalizing route sitemap with
  | nil => simpa [findsBoth] using h
  | cons a rest ih =>
    rw [findsBoth_cons names h]
    cases hboth : (route || a.written == names.route) &&
      (sitemap || a.written == names.sitemap) with
    | true =>
      simp only [Bool.and_eq_true, Bool.or_eq_true, beq_iff_eq] at hboth
      simp only [if_true, true_iff]
      exact ⟨hboth.1.imp_right fun ha => ⟨a, List.mem_cons_self, ha⟩,
        hboth.2.imp_right fun ha => ⟨a, List.mem_cons_self, ha⟩⟩
    | false =>
      rw [if_neg Bool.false_ne_true, ih hboth]
      simp only [Bool.or_eq_true, beq_iff_eq, List.exists_mem_cons_iff, or_assoc]

section Candidate
variable {d d' : Declaration} {names : ScanNames}

theorem isCandidate_iff : d.isCandidate names ↔
    (∃ a ∈ d.annotations, a.written = names.route) ∧
      ∃ a ∈ d.annotations, a.written = names.sitemap := by
  rw [Declaration.isCandidate, findsBoth_iff names rfl]
  simp

theorem isCandidate_of_subset (h : d.annotations ⊆ d'.annotations) (hd : d.isCandidate names) :
    d'.isCandidate names := by
  obtain ⟨⟨a, ha, hroute⟩, b, hb, hsitemap⟩ := isCandidate_iff.1 hd
  exact isCandidate_iff.2 ⟨⟨a, h ha, hroute⟩, b, h hb, hsitemap⟩

/-! ## Entries -/

/-- The annotations that resolve to a name, in order. -/
def annotationsNamed (qualified : String) (as : List Annotation) : List Annotation :=
  as.filter (·.name == some qualified)

theorem firstNamed_congr {qualified : String} (h : annotationsNamed qualified d.annotations =
    annotationsNamed qualified d'.annotations) :
    d.firstNamed qualified = d'.firstNamed qualified := by
  unfold annotationsNamed at h
  unfold Declaration.firstNamed
  rw [← List.head?_filter, ← List.head?_filter, h]

/-- The entry of a declaration is looked for only if it is a candidate. -/
theorem asEntry_scan : (d.scan names).asEntry = if d.isCandidate names then d.entry? else none := by
  refine Option.ext fun e => ?_
  rw [scan_asEntry_eq_some, scan_eq_entry]
  split
  · rename_i hcandidate
    obtain ⟨⟨a, ha, -⟩, -⟩ := isCandidate_iff.1 hcandidate
    simp [hcandidate, List.ne_nil_of_mem ha]
  · rename_i hcandidate
    simp [hcandidate]

theorem asEntry_congr (hcandidate : d.isCandidate names = d'.isCandidate names)
    (hroute : annotationsNamed routeAnnotation d.annotations =
      annotationsNamed routeAnnotation d'.annotations)
    (hsitemap : annotationsNamed sitemapAnnotation d.annotations =
      annotationsNamed sitemapAnnotation d'.annotations) :
    (d.scan names).asEntry = (d'.scan names).asEntry := by
  rw [asEntry_scan, asEntry_scan, hcandidate, Declaration.entry?, Declaration.entry?,
    Declaration.extract, Declaration.extract, firstNamed_congr hroute, firstNamed_congr hsitemap]

theorem scanDeclarations_entries_congr (diagnose : Bool) (before after : List Declaration)
    (h : (d.scan names).asEntry = (d'.scan names).asEntry) :
    (scanDeclarations names diagnose (before ++ d :: after)).entries =
      (scanDeclarations names diagnose (before ++ d' :: after)).entries := by
  simp only [scanDeclarations_entries, List.filterMap_append, List.filterMap_cons, h]

end Candidate

/-! ## More annotations -/

/-- A list with more elements of a kind, wherever they are put. -/
inductive Extends {α : Type} (P : α → Prop) : List α → List α → Prop where
  | nil : Extends P [] []
  | keep {xs ys : List α} (x : α) (h : Extends P xs ys) : Extends P (x :: xs) (x :: ys)
  | insert {xs ys : List α} {y : α} (hy : P y) (h : Extends P xs ys) : Extends P xs (y :: ys)

namespace Extends
variable {α : Type} {P : α → Prop} {xs ys : List α}

theorem subset (h : Extends P xs ys) : xs ⊆ ys := by
  induction h with
  | nil => exact List.Subset.refl []
  | keep x _ ih => exact List.cons_subset_cons x ih
  | insert _ _ ih => exact List.subset_cons_of_subset _ ih

theorem filter_eq (h : Extends P xs ys) {q : α → Bool} (hq : ∀ x, P x → ¬ q x) :
    ys.filter q = xs.filter q := by
  induction h with
  | nil => rfl
  | keep x _ ih => rw [List.filter_cons, List.filter_cons, ih]
  | insert hy _ ih => rw [List.filter_cons_of_neg (hq _ hy), ih]

end Extends

def Annotation.IsOther (a : Annotation) : Prop :=
  a.name ≠ some routeAnnotation ∧ a.name ≠ some sitemapAnnotation

/-! ## The order of decorators -/

/-- A declaration is a candidate just if both names are among those that are written. Its entry
stays the same, or it still has none, when annotations change places but those of each of the two
decorators stay in order; and a candidate's, when annotations that resolve to neither are put
anywhere. -/
theorem scanDeclarations_decoratorOrder (names : ScanNames) (diagnose : Bool) (d : Declaration) :
    (d.isCandidate names ↔ (∃ a ∈ d.annotations, a.written = names.route) ∧
      ∃ a ∈ d.annotations, a.written = names.sitemap) ∧
    (∀ before annotations after, annotations.Perm d.annotations →
      annotationsNamed routeAnnotation annotations =
        annotationsNamed routeAnnotation d.annotations →
      annotationsNamed sitemapAnnotation annotations =
        annotationsNamed sitemapAnnotation d.annotations →
      (scanDeclarations names diagnose (before ++ { d with annotations } :: after)).entries =
        (scanDeclarations names diagnose (before ++ d :: after)).entries) ∧
    ∀ before annotations after, d.isCandidate names →
      Extends Annotation.IsOther d.annotations annotations →
      (scanDeclarations names diagnose (before ++ { d with annotations } :: after)).entries =
        (scanDeclarations names diagnose (before ++ d :: after)).entries := by
  refine ⟨isCandidate_iff, fun before annotations after hperm hroute hsitemap => ?_,
    fun before annotations after hcandidate hextends => ?_⟩
  · have hcandidate : Declaration.isCandidate { d with annotations } names =
        d.isCandidate names := by
      rw [Bool.eq_iff_iff]
      exact ⟨isCandidate_of_subset hperm.subset, isCandidate_of_subset hperm.symm.subset⟩
    exact scanDeclarations_entries_congr diagnose before after
      (asEntry_congr hcandidate hroute hsitemap)
  · have hstill : Declaration.isCandidate { d with annotations } names :=
      isCandidate_of_subset hextends.subset hcandidate
    refine scanDeclarations_entries_congr diagnose before after
      (asEntry_congr (hstill.trans hcandidate.symm) ?_ ?_)
    · exact hextends.filter_eq fun a ha hname => ha.1 (eq_of_beq hname)
    · exact hextends.filter_eq fun a ha hname => ha.2 (eq_of_beq hname)

def homeRoute : Annotation :=
  { written := routeAnnotation, name := routeAnnotation, args := [.str "/"] }

def homeSitemap : Annotation := { written := "sitemap_url", name := sitemapAnnotation }

def homeLogin : Annotation := { written := "login", name := "auth.login" }

def homePage (annotations : List Annotation) : Declaration :=
  ⟨"Home", "Home", "app", "app.py", 3, annotations⟩

/-- The two decorators of a page in either order, and with others around them. -/
theorem scanDeclarations_homePage :
    (homePage [homeRoute, homeSitemap]).isCandidate {} ∧
    (scanDeclarations {} false [homePage [homeSitemap, homeRoute]]).entries =
      (scanDeclarations {} false [homePage [homeRoute, homeSitemap]]).entries ∧
    (scanDeclarations {} false [homePage [homeRoute, homeLogin, homeSitemap, homeLogin]]).entries =
      (scanDeclarations {} false [homePage [homeRoute, homeSitemap]]).entries := by
  have hother : homeLogin.IsOther := by
    unfold Annotation.IsOther
    decide
  obtain ⟨hcandidate, horder, hmore⟩ :=
    scanDeclarations_decoratorOrder {} false (homePage [homeRoute, homeSitemap])
  have hhome : (homePage [homeRoute, homeSitemap]).isCandidate {} :=
    hcandidate.2 ⟨⟨homeRoute, by simp [homePage], rfl⟩, homeSitemap, by simp [homePage], rfl⟩
  refine ⟨hhome, horder [] _ [] (.swap _ _ _) ?_ ?_, hmore [] _ [] hhome ?_⟩
  · simp [annotationsNamed, homePage, homeRoute, homeSitemap, routeAnnotation, sitemapAnnotation]
  · simp [annotationsNamed, homePage, homeRoute, homeSitemap, routeAnnotation, sitemapAnnotation]
  · exact .keep _ (.insert hother (.keep _ (.insert hother .nil)))

end Sitemap
