import Sitemap.Proofs.Document.Reading
import Sitemap.Proofs.Lists
import Sitemap.Proofs.Scan.Rescan

/-!
# What is rendered is read back, and valid if its locations are

* `Entry.IsReadFrom` : the nodes of a page say what its entry says, and nothing else;
* `Document.parse?_render` : every document is read back as its entries, in order;
* `Validation.urlProblem?_page` : a page is at fault if and only if its location is empty;
* `Validation.check_render` : a document is valid if and only if its locations are.
-/

namespace Sitemap

open Validation (sitemapName)

/-! ## Reading back -/

/-- The nodes of a page say what its entry says: the location with unified line ends, the word of
the frequency, and a number equal to the priority. The two zeros are equal, and only the negative
one is not read back as itself. -/
def Entry.IsReadFrom (base : String) (e : Entry) (nodes : List Xml.Node) : Prop :=
  ∃ loc changefreq priority text number,
    Xml.Node.markup nodes = [.element (sitemapName "loc") loc,
      .element (sitemapName "changefreq") changefreq, .element (sitemapName "priority") priority] ∧
    Xml.Node.plainText? loc = some (unifyLines (joinLocation base e.template).toList) ∧
    Xml.Node.plainText? changefreq = some e.frequency.keyword.toList ∧
    Xml.Node.plainText? priority = some text ∧ Binary64.ofChars? text = some number ∧
    number.eq e.priority = true ∧ (e.priority ≠ .zero true → number = e.priority)

theorem Entry.IsPage.isReadFrom {base : String} {e : Entry} {nodes : List Xml.Node}
    (h : e.IsPage (unifyLines (e.location base)) nodes) (he : Priority.InRange e.priority) :
    e.IsReadFrom base nodes := by
  obtain ⟨loc, changefreq, priority, hmarkup, hloc, hchangefreq, hpriority⟩ := h
  refine ⟨loc, changefreq, priority, _, _, hmarkup, hloc, hchangefreq, hpriority,
    Priority.parse?_text he.isFinite, Priority.eq_readBack he.isFinite, fun hne => ?_⟩
  rw [if_neg hne]

theorem all_isChar_location_iff {base : String} {entries : List Entry} :
    (entries.all fun e => (e.location base).all Xml.isChar) = true ↔
      ∀ e ∈ entries, ∀ c ∈ (joinLocation base e.template).toList, Xml.IsXmlChar c := by
  simp only [List.all_eq_true, Xml.isChar_iff, Entry.location]

/-- Every document is read back as its entries, in order, if the locations hold allowed characters
only. -/
theorem Document.parse?_render (base : String) {entries : List Entry}
    (hpriority : ∀ e ∈ entries, Priority.InRange e.priority)
    (hlocation : ∀ e ∈ entries, ∀ c ∈ (joinLocation base e.template).toList, Xml.IsXmlChar c) :
    ∃ document nodes pages, Document.render base (entries.map Entry.toRow) true = .ok document ∧
      Xml.parse? document = some (sitemapName "urlset", nodes) ∧
      Xml.Node.markup nodes = pages.map (.element (sitemapName "url")) ∧
      List.Forall₂ (Entry.IsReadFrom base) entries pages := by
  have hfinite : ∀ e ∈ entries, e.priority.IsFinite := fun e he => (hpriority e he).isFinite
  obtain ⟨nodes, pages, hparse, hmarkup, hpages⟩ :=
    parse?_ofEntries base hfinite (all_isChar_location_iff.2 hlocation)
  have hboth := (List.forall₂_and_left _ _).2 ⟨hpriority, hpages⟩
  exact ⟨_, nodes, pages, render_toRow base entries true, hparse, hmarkup,
    hboth.imp fun e page h => h.2.isReadFrom h.1⟩

/-- Two pages: a location full of markup and line ends, and the base itself with a priority of
negative zero. -/
def Document.markupEntries : List Entry :=
  [⟨"/a&b]]>\r\n<c>&amp;", .daily, .finite false (2 ^ 52) 1021 (by decide)⟩,
    ⟨"", .never, .zero true⟩]

theorem Document.inRange_of_mem_markupEntries :
    ∀ e ∈ markupEntries, Priority.InRange e.priority := by
  decide +kernel

theorem Document.isXmlChar_of_mem_markupEntries : ∀ e ∈ markupEntries,
    ∀ c ∈ (joinLocation "https://e.org/" e.template).toList, Xml.IsXmlChar c :=
  all_isChar_location_iff.1 (by decide)

theorem Document.parse?_markupEntries :
    (∀ e ∈ markupEntries, Priority.InRange e.priority) ∧
      (∀ e ∈ markupEntries, ∀ c ∈ (joinLocation "https://e.org/" e.template).toList,
        Xml.IsXmlChar c) ∧
      ∃ document nodes pages,
        Document.render "https://e.org/" (markupEntries.map Entry.toRow) true = .ok document ∧
        Xml.parse? document = some (sitemapName "urlset", nodes) ∧
        Xml.Node.markup nodes = pages.map (.element (sitemapName "url")) ∧
        List.Forall₂ (Entry.IsReadFrom "https://e.org/") markupEntries pages := by
  exact ⟨inRange_of_mem_markupEntries, isXmlChar_of_mem_markupEntries,
    parse?_render "https://e.org/" inRange_of_mem_markupEntries isXmlChar_of_mem_markupEntries⟩

/-! ## Validity -/

namespace Validation

/-- The texts of a page are found by the names of their elements. -/
theorem childText?_page {e : Entry} {location : List Char} {nodes : List Xml.Node}
    (h : e.IsPage location nodes) :
    Xml.Node.childText? (sitemapName "loc") nodes = some (String.ofList location) ∧
      Xml.Node.childText? (sitemapName "changefreq") nodes = some e.frequency.keyword ∧
      Xml.Node.childText? (sitemapName "priority") nodes = some (Priority.text e.priority) := by
  obtain ⟨loc, changefreq, priority, hmarkup, hloc, hchangefreq, hpriority⟩ := h
  have hchild (name : Xml.Name) : Xml.Node.childText? name nodes =
      (Xml.Node.children name [.element (sitemapName "loc") loc,
        .element (sitemapName "changefreq") changefreq,
        .element (sitemapName "priority") priority]).head?.map fun inner =>
          String.ofList (Xml.Node.leadingText inner) := by
    rw [← hmarkup, Xml.Node.children_markup]
    rfl
  rw [hchild, hchild, hchild, ← Xml.Node.leadingText_of_plainText? hloc,
    ← String.ofList_toList (s := e.frequency.keyword),
    ← Xml.Node.leadingText_of_plainText? hchangefreq,
    ← String.ofList_toList (s := Priority.text e.priority),
    ← Xml.Node.leadingText_of_plainText? hpriority]
  exact ⟨rfl, rfl, rfl⟩

/-- A page is at fault if and only if its location is empty. -/
theorem urlProblem?_page {e : Entry} {location : List Char} {nodes : List Xml.Node}
    (h : e.IsPage location nodes) (he : Priority.InRange e.priority) :
    urlProblem? nodes = none ↔ location ≠ [] := by
  obtain ⟨hloc, hchangefreq, hpriority⟩ := childText?_page h
  rw [urlProblem?, hloc, hchangefreq, hpriority]
  simp [Priority.isPriority_text he]

theorem check_eq_true (document : String) :
    (check document).1 = true ↔ problem? document = none := by
  unfold check
  split <;> simp_all

/-- A document of entries with priorities from 0 to 1, such as those of a scan, is valid if and only
if every location is there and holds allowed characters only. -/
theorem check_render (base : String) {entries : List Entry}
    (h : (∀ e ∈ entries, Priority.InRange e.priority) ∨
      ∃ names ds, entries = scanEntries names ds) :
    ∃ document, Document.render base (entries.map Entry.toRow) true = .ok document ∧
      ((check document).1 = true ↔ ∀ e ∈ entries, joinLocation base e.template ≠ "" ∧
        ∀ c ∈ (joinLocation base e.template).toList, Xml.IsXmlChar c) := by
  have hpriority : ∀ e ∈ entries, Priority.InRange e.priority := by
    rcases h with h | ⟨names, ds, rfl⟩
    · exact h
    · exact fun e he => inRange_of_mem_scanEntries he
  have hfinite : ∀ e ∈ entries, e.priority.IsFinite := fun e he => (hpriority e he).isFinite
  refine ⟨_, Document.render_toRow base entries true, ?_⟩
  rw [check_eq_true, problem?]
  by_cases hchars : (entries.all fun e => (e.location base).all Xml.isChar) = true
  · obtain ⟨nodes, pages, hparse, hmarkup, hpages⟩ := Document.parse?_ofEntries base hfinite hchars
    have hchildren : Xml.Node.children (sitemapName "url") nodes = pages := by
      rw [← Xml.Node.children_markup, hmarkup, Xml.Node.children, List.filterMap_map]
      simp
    have hboth := (List.forall₂_and_left _ _).2 ⟨hpriority, hpages⟩
    have hpage := forall_mem_iff_of_forall₂ hboth fun _ _ h => (urlProblem?_page h.2 h.1).symm
    have hempty (e : Entry) :
        unifyLines (e.location base) ≠ [] ↔ joinLocation base e.template ≠ "" := by
      rw [ne_eq, unifyLines_eq_nil, Entry.location, String.toList_eq_nil_iff]
    have hlocation := all_isChar_location_iff.1 hchars
    rw [hparse]
    simp only [ne_eq, not_true, if_false, hchildren, List.findSome?_eq_none_iff]
    rw [← hpage]
    constructor
    · exact fun hall e he => ⟨(hempty e).1 (hall e he), hlocation e he⟩
    · exact fun hall e he => (hempty e).2 (hall e he).1
  · have hnone := Document.parse?_eq_none base hfinite (Bool.eq_false_iff.2 hchars)
    rw [all_isChar_location_iff] at hchars
    rw [hnone]
    refine ⟨fun h => absurd h (Option.some_ne_none _), fun hall => absurd (fun e he => (hall e he).2) hchars⟩

/-- The pages full of markup are valid. -/
theorem check_markupEntries :
    (∀ e ∈ Document.markupEntries, Priority.InRange e.priority) ∧
      ∃ document, Document.render "https://e.org/" (Document.markupEntries.map Entry.toRow) true =
        .ok document ∧ (check document).1 = true := by
  have hpriority := Document.inRange_of_mem_markupEntries
  have hempty : ∀ e ∈ Document.markupEntries, joinLocation "https://e.org/" e.template ≠ "" := by
    decide
  obtain ⟨document, hrender, hcheck⟩ := check_render "https://e.org/" (.inl hpriority)
  exact ⟨hpriority, document, hrender, hcheck.2 fun e he =>
    ⟨hempty e he, Document.isXmlChar_of_mem_markupEntries e he⟩⟩

end Validation

end Sitemap
