import Sitemap.Proofs.Document.Validity

/-!
# What validation finds

* `Xml.Node.FirstChild`, `Xml.Node.BeginsWith` : the first child with a name, and the text that
  nodes begin with; `childText?_eq_some_iff` : these are what is looked up;
* `Validation.ValidPage`, `Validation.PageFails` : what a page has to say, and the first of it that
  one does not; `urlProblem?_eq_none_iff`, `urlProblem?_eq_some_iff`;
* `Validation.IsSitemap`, `Validation.FirstProblem` : the same for documents;
  `problem?_eq_none_iff`, `problem?_eq_some_iff`;
* `Validation.check_decides` : a document is accepted exactly if it is a sitemap, and its first
  problem is recorded if it is none.
-/

namespace Sitemap

/-! ## Children and their texts -/

namespace Xml.Node

variable {name : Name} {nodes inner : List Node} {cs : List Char}

/-- The first element with a name among some nodes, and its contents. -/
def FirstChild (name : Name) (nodes inner : List Node) : Prop :=
  ∃ before after, nodes = before ++ element name inner :: after ∧
    ∀ other, element name other ∉ before

/-- The text that nodes begin with: it goes on to the first node that is no text. -/
def BeginsWith (nodes : List Node) (cs : List Char) : Prop :=
  ∃ (runs : List (List Char)) (rest : List Node), nodes = runs.map text ++ rest ∧
    (∀ ds, rest.head? ≠ some (text ds)) ∧ cs = runs.flatten

theorem mem_children : inner ∈ children name nodes ↔ element name inner ∈ nodes := by
  unfold children
  rw [List.mem_filterMap]
  constructor
  · rintro ⟨node, hmem, hnode⟩
    split at hnode
    · rename_i n inner'
      split at hnode
      · rename_i hname
        cases hnode
        rwa [← hname]
      · cases hnode
    · cases hnode
  · exact fun hmem => ⟨_, hmem, by simp⟩

/-- Where a child stands among the nodes. -/
theorem children_eq_append_cons {before after : List (List Node)} :
    children name nodes = before ++ inner :: after ↔
      ∃ nodesBefore nodesAfter, nodes = nodesBefore ++ element name inner :: nodesAfter ∧
        children name nodesBefore = before ∧ children name nodesAfter = after := by
  constructor
  · intro h
    obtain ⟨first, rest, rfl, hbefore, hrest⟩ := List.filterMap_eq_append_iff.1 h
    obtain ⟨skipped, node, nodesAfter, rfl, hskipped, hnode, hafter⟩ :=
      List.filterMap_eq_cons_iff.1 hrest
    have helement : node = element name inner := by
      split at hnode
      · split at hnode
        · rename_i hname
          cases hnode
          rw [hname]
        · cases hnode
      · cases hnode
    refine ⟨first ++ skipped, nodesAfter, by rw [helement, List.append_assoc], ?_, hafter⟩
    have hnone : children name skipped = [] := List.filterMap_eq_nil_iff.2 hskipped
    rw [children, List.filterMap_append, hbefore, ← children, hnone, List.append_nil]
  · rintro ⟨nodesBefore, nodesAfter, rfl, rfl, rfl⟩
    simp [children, List.filterMap_append]

theorem children_eq_nil : children name nodes = [] ↔ ∀ other, element name other ∉ nodes := by
  rw [List.eq_nil_iff_forall_not_mem]
  exact forall_congr' fun other => not_congr mem_children

theorem firstChild_iff :
    FirstChild name nodes inner ↔ (children name nodes).head? = some inner := by
  rw [List.head?_eq_some_iff]
  constructor
  · rintro ⟨before, after, hsplit, hbefore⟩
    exact ⟨_, children_eq_append_cons.2 ⟨before, after, hsplit, children_eq_nil.2 hbefore, rfl⟩⟩
  · rintro ⟨others, h⟩
    have hfirst : children name nodes = [] ++ inner :: others := h
    obtain ⟨before, after, hsplit, hbefore, -⟩ := children_eq_append_cons.1 hfirst
    exact ⟨before, after, hsplit, children_eq_nil.1 hbefore⟩

theorem beginsWith_iff : BeginsWith nodes cs ↔ leadingText nodes = cs := by
  constructor
  · rintro ⟨runs, rest, rfl, hrest, rfl⟩
    induction runs with
    | nil =>
      cases rest with
      | nil => rfl
      | cons node rest =>
        cases node with
        | text ds => exact absurd rfl (hrest ds)
        | element _ _ => rfl
        | aside => rfl
    | cons run runs ih => exact congrArg (run ++ ·) ih
  · rintro rfl
    induction nodes with
    | nil => exact ⟨[], [], rfl, nofun, rfl⟩
    | cons node nodes ih =>
      cases node with
      | text ds =>
        obtain ⟨runs, rest, hnodes, hrest, hflatten⟩ := ih
        exact ⟨ds :: runs, rest, congrArg (text ds :: ·) hnodes, hrest,
          congrArg (ds ++ ·) hflatten⟩
      | element name inner => exact ⟨[], element name inner :: nodes, rfl, nofun, rfl⟩
      | aside => exact ⟨[], aside :: nodes, rfl, nofun, rfl⟩

theorem childText?_eq_some_iff {found : String} : childText? name nodes = some found ↔
    ∃ inner, FirstChild name nodes inner ∧ BeginsWith inner found.toList := by
  unfold childText?
  rw [Option.map_eq_some_iff]
  refine exists_congr fun inner => and_congr firstChild_iff.symm ?_
  rw [beginsWith_iff]
  constructor
  · rintro rfl
    rw [String.toList_ofList]
  · intro h
    rw [h, String.ofList_toList]

end Xml.Node

namespace Validation

open Xml.Node (FirstChild BeginsWith)

/-! ## Pages -/

section Pages
variable {nodes : List Xml.Node} {problem : Problem}

/-- The text of the first child of a page with a given name. -/
def Says (nodes : List Xml.Node) (localName text : String) : Prop :=
  ∃ inner, FirstChild (sitemapName localName) nodes inner ∧ BeginsWith inner text.toList

/-- A text reads as a number from 0 to 1, which is `2 ^ 1074` of the units that numbers have. -/
def ReadsAsPriority (text : String) : Prop :=
  ∃ x, Binary64.parse? text = some x ∧ x.IsFinite ∧ 0 ≤ x.units ∧ x.units ≤ 2 ^ 1074

/-- A page says where it is, how often it changes and how important it is. -/
structure ValidPage (nodes : List Xml.Node) : Prop where
  location : ∃ text, Says nodes "loc" text ∧ text ≠ ""
  frequency : ∃ f : Frequency, Says nodes "changefreq" f.keyword
  priority : ∃ text, Says nodes "priority" text ∧ ReadsAsPriority text

/-- What a page fails to say first: its location, its frequency or its priority. -/
inductive PageFails (nodes : List Xml.Node) : Problem → Prop
  | location (h : ∀ text, Says nodes "loc" text → text = "") : PageFails nodes .noLocation
  | frequency {location : String} {found? : Option String}
      (hlocation : Says nodes "loc" location) (hne : location ≠ "")
      (hfound : ∀ text, found? = some text ↔ Says nodes "changefreq" text)
      (h : ∀ f : Frequency, ¬ Says nodes "changefreq" f.keyword) :
      PageFails nodes (.frequency found? location)
  | priority {location : String} {f : Frequency} {found? : Option String}
      (hlocation : Says nodes "loc" location) (hne : location ≠ "")
      (hfrequency : Says nodes "changefreq" f.keyword)
      (hfound : ∀ text, found? = some text ↔ Says nodes "priority" text)
      (h : ∀ text, Says nodes "priority" text → ¬ ReadsAsPriority text) :
      PageFails nodes (.priority found? location)

theorem says_iff {localName text : String} : Says nodes localName text ↔
    Xml.Node.childText? (sitemapName localName) nodes = some text :=
  Xml.Node.childText?_eq_some_iff.symm

theorem found_iff {localName : String} {found? : Option String} :
    (∀ text, found? = some text ↔ Says nodes localName text) ↔
      found? = Xml.Node.childText? (sitemapName localName) nodes := by
  simp only [says_iff]
  exact ⟨fun h => Option.ext fun text => h text, fun h text => by rw [h]⟩

theorem isPriority_iff {text : String} : isPriority text = true ↔ ReadsAsPriority text := by
  unfold isPriority
  split
  · rename_i x hx
    rw [Bool.and_eq_true]
    constructor
    · exact fun h => ⟨x, hx, Priority.inRange_iff.1 h⟩
    · rintro ⟨y, hy, hrange⟩
      cases hx.symm.trans hy
      exact Priority.inRange_iff.2 hrange
  · rename_i hnone
    refine iff_of_false Bool.false_ne_true ?_
    rintro ⟨x, hx, -⟩
    cases hnone.symm.trans hx

theorem frequency_isNone_iff :
    ((Xml.Node.childText? (sitemapName "changefreq") nodes).bind
      Frequency.ofKeyword?).isNone = true ↔
        ∀ f : Frequency, ¬ Says nodes "changefreq" f.keyword := by
  simp only [says_iff, Option.isNone_iff_eq_none, Option.bind_eq_none_iff]
  constructor
  · intro h f hf
    have hnone := h _ hf
    rw [Frequency.ofKeyword?_keyword] at hnone
    cases hnone
  · intro h text htext
    unfold Frequency.ofKeyword?
    rw [List.find?_eq_none]
    intro f _ hf
    rw [beq_iff_eq] at hf
    exact h f (hf ▸ htext)

theorem any_isPriority_iff :
    (Xml.Node.childText? (sitemapName "priority") nodes).any isPriority = true ↔
      ∃ text, Says nodes "priority" text ∧ ReadsAsPriority text := by
  simp only [says_iff, Option.any_eq_true, isPriority_iff]

theorem urlProblem?_of_no_location (h : ∀ text, Says nodes "loc" text → text = "") :
    urlProblem? nodes = some .noLocation := by
  unfold urlProblem?
  split
  · rfl
  · rename_i location hlocation
    rw [if_pos (String.isEmpty_iff.2 (h location (says_iff.2 hlocation)))]

theorem urlProblem?_of_location {location : String} (h : Says nodes "loc" location)
    (hne : location ≠ "") : urlProblem? nodes =
      let frequency := Xml.Node.childText? (sitemapName "changefreq") nodes
      let priority := Xml.Node.childText? (sitemapName "priority") nodes
      if (frequency.bind Frequency.ofKeyword?).isNone then some (.frequency frequency location)
      else if !priority.any isPriority then some (.priority priority location)
      else none := by
  unfold urlProblem?
  rw [says_iff.1 h]
  exact if_neg fun hempty => hne (String.isEmpty_iff.1 hempty)

/-- The problem of a page is what it fails to say first. -/
theorem urlProblem?_eq_some_iff : urlProblem? nodes = some problem ↔ PageFails nodes problem := by
  constructor
  · intro h
    by_cases hloc : ∃ text, Says nodes "loc" text ∧ text ≠ ""
    · obtain ⟨location, hlocation, hne⟩ := hloc
      rw [urlProblem?_of_location hlocation hne] at h
      dsimp only at h
      split at h
      case isTrue hfrequency =>
        cases h
        exact .frequency hlocation hne (found_iff.2 rfl) (frequency_isNone_iff.1 hfrequency)
      case isFalse hfrequency =>
        rw [frequency_isNone_iff, not_forall] at hfrequency
        obtain ⟨f, hf⟩ := hfrequency
        split at h
        case isTrue hpriority =>
          cases h
          rw [Bool.not_eq_true', ← Bool.not_eq_true, any_isPriority_iff, not_exists] at hpriority
          exact .priority hlocation hne (not_not.1 hf) (found_iff.2 rfl)
            fun text htext hreads => hpriority text ⟨htext, hreads⟩
        case isFalse => cases h
    · have hnone : ∀ text, Says nodes "loc" text → text = "" :=
        fun text htext => not_not.1 fun hne => hloc ⟨text, htext, hne⟩
      rw [urlProblem?_of_no_location hnone] at h
      cases h
      exact .location hnone
  · rintro (hnone | ⟨hlocation, hne, hfound, hfrequency⟩ |
      ⟨hlocation, hne, hfrequency, hfound, hpriority⟩)
    · exact urlProblem?_of_no_location hnone
    · rw [urlProblem?_of_location hlocation hne, found_iff.1 hfound]
      exact if_pos (frequency_isNone_iff.2 hfrequency)
    · rw [urlProblem?_of_location hlocation hne, found_iff.1 hfound]
      refine (if_neg fun hnone => frequency_isNone_iff.1 hnone _ hfrequency).trans (if_pos ?_)
      rw [Bool.not_eq_true', ← Bool.not_eq_true, any_isPriority_iff]
      rintro ⟨text, htext, hreads⟩
      exact hpriority text htext hreads

/-- A page without a problem says everything. -/
theorem urlProblem?_eq_none_iff : urlProblem? nodes = none ↔ ValidPage nodes := by
  constructor
  · intro h
    have hfails : ∀ problem, ¬ PageFails nodes problem := by
      intro problem hproblem
      rw [urlProblem?_eq_some_iff.2 hproblem] at h
      cases h
    have hlocation : ∃ text, Says nodes "loc" text ∧ text ≠ "" := by
      by_contra hnone
      exact hfails _ (.location fun text htext => not_not.1 fun hne => hnone ⟨text, htext, hne⟩)
    obtain ⟨location, hloc, hne⟩ := hlocation
    have hfrequency : ∃ f : Frequency, Says nodes "changefreq" f.keyword := by
      by_contra hnone
      exact hfails _ (.frequency hloc hne (found_iff.2 rfl) (not_exists.1 hnone))
    obtain ⟨f, hf⟩ := hfrequency
    refine ⟨⟨location, hloc, hne⟩, ⟨f, hf⟩, ?_⟩
    by_contra hnone
    exact hfails _ (.priority hloc hne hf (found_iff.2 rfl)
      fun text htext hreads => hnone ⟨text, htext, hreads⟩)
  · rintro ⟨⟨location, hlocation, hne⟩, ⟨f, hf⟩, hpriority⟩
    rw [urlProblem?_of_location hlocation hne]
    refine (if_neg fun hnone => frequency_isNone_iff.1 hnone f hf).trans (if_neg ?_)
    rw [any_isPriority_iff.2 hpriority]
    nofun

end Pages

/-! ## Documents -/

section Documents
variable {document : String} {problem : Problem}

/-- A text is a sitemap: it is well-formed, its root element is the set of pages in the namespace of
sitemaps, and every page directly in it is valid. -/
def IsSitemap (document : String) : Prop :=
  ∃ nodes, Xml.parse? document = some (sitemapName "urlset", nodes) ∧
    ∀ page, .element (sitemapName "url") page ∈ nodes → ValidPage page

/-- The first problem of a text: it is not well-formed, or its root element is another one, or a
page fails and those before it are valid. -/
inductive FirstProblem (document : String) : Problem → Prop
  | malformed (h : Xml.parse? document = none) : FirstProblem document .malformed
  | root {name : Xml.Name} {nodes : List Xml.Node}
      (hparse : Xml.parse? document = some (name, nodes)) (h : name ≠ sitemapName "urlset") :
      FirstProblem document (.root name)
  | page {nodes before page after : List Xml.Node} {problem : Problem}
      (hparse : Xml.parse? document = some (sitemapName "urlset", nodes))
      (hsplit : nodes = before ++ .element (sitemapName "url") page :: after)
      (hbefore : ∀ earlier, .element (sitemapName "url") earlier ∈ before → ValidPage earlier)
      (h : PageFails page problem) : FirstProblem document problem

theorem problem?_of_urlset {nodes : List Xml.Node}
    (h : Xml.parse? document = some (sitemapName "urlset", nodes)) :
    problem? document = (Xml.Node.children (sitemapName "url") nodes).findSome? urlProblem? := by
  unfold problem?
  rw [h]
  exact if_neg fun hne => hne rfl

theorem problem?_of_root {name : Xml.Name} {nodes : List Xml.Node}
    (h : Xml.parse? document = some (name, nodes)) (hname : name ≠ sitemapName "urlset") :
    problem? document = some (.root name) := by
  unfold problem?
  rw [h]
  exact if_pos hname

theorem forall_children_iff {nodes : List Xml.Node} :
    (∀ page ∈ Xml.Node.children (sitemapName "url") nodes, urlProblem? page = none) ↔
      ∀ page, .element (sitemapName "url") page ∈ nodes → ValidPage page := by
  simp only [Xml.Node.mem_children, urlProblem?_eq_none_iff]

/-- The problem that is found is the first one. -/
theorem problem?_eq_some_iff :
    problem? document = some problem ↔ FirstProblem document problem := by
  constructor
  · intro h
    cases hparse : Xml.parse? document with
    | none =>
      rw [problem?, hparse] at h
      cases h
      exact .malformed hparse
    | some root =>
      obtain ⟨name, nodes⟩ := root
      by_cases hname : name = sitemapName "urlset"
      · subst hname
        rw [problem?_of_urlset hparse, List.findSome?_eq_some_iff] at h
        obtain ⟨earlier, page, later, hchildren, hpage, hearlier⟩ := h
        obtain ⟨before, after, hsplit, rfl, -⟩ := Xml.Node.children_eq_append_cons.1 hchildren
        exact .page hparse hsplit (forall_children_iff.1 hearlier) (urlProblem?_eq_some_iff.1 hpage)
      · rw [problem?_of_root hparse hname] at h
        cases h
        exact .root hparse hname
  · rintro (hparse | ⟨hparse, hname⟩ | ⟨hparse, rfl, hbefore, hpage⟩)
    · rw [problem?, hparse]
    · exact problem?_of_root hparse hname
    · rw [problem?_of_urlset hparse, List.findSome?_eq_some_iff]
      exact ⟨_, _, _, Xml.Node.children_eq_append_cons.2 ⟨_, _, rfl, rfl, rfl⟩,
        urlProblem?_eq_some_iff.2 hpage, forall_children_iff.2 hbefore⟩

/-- Nothing is found in a sitemap only. -/
theorem problem?_eq_none_iff : problem? document = none ↔ IsSitemap document := by
  constructor
  · intro h
    cases hparse : Xml.parse? document with
    | none =>
      rw [problem?, hparse] at h
      cases h
    | some root =>
      obtain ⟨name, nodes⟩ := root
      by_cases hname : name = sitemapName "urlset"
      · subst hname
        rw [problem?_of_urlset hparse, List.findSome?_eq_none_iff] at h
        exact ⟨nodes, hparse, forall_children_iff.1 h⟩
      · rw [problem?_of_root hparse hname] at h
        cases h
  · rintro ⟨nodes, hparse, hpages⟩
    rw [problem?_of_urlset hparse, List.findSome?_eq_none_iff]
    exact forall_children_iff.2 hpages

theorem FirstProblem.unique {other : Problem} (h : FirstProblem document problem)
    (hother : FirstProblem document other) : other = problem :=
  Option.some.inj ((problem?_eq_some_iff.2 hother).symm.trans (problem?_eq_some_iff.2 h))

end Documents

/-- Validation decides whether a text is a sitemap. It records nothing if it is one, and the first
problem, which is the only one of that kind, if it is none. -/
theorem check_decides (document : String) :
    ((check document).1 = true ↔ IsSitemap document) ∧
    match check document with
    | (true, records) => records = []
    | (false, records) => ∃ problem, FirstProblem document problem ∧
        (∀ other, FirstProblem document other → other = problem) ∧
        records = [⟨.renderer, .error, problem.message⟩] := by
  refine ⟨(check_eq_true document).trans problem?_eq_none_iff, ?_⟩
  cases hproblem : problem? document with
  | none =>
    rw [check, hproblem]
  | some problem =>
    have hfirst := problem?_eq_some_iff.1 hproblem
    rw [check, hproblem]
    exact ⟨problem, hfirst, fun _ => hfirst.unique, rfl⟩

/-- A location behind a comment is none. -/
example : (urlProblem? [.element (sitemapName "loc") [.aside, .text ['/']],
    .element (sitemapName "changefreq") [.text "daily".toList],
    .element (sitemapName "priority") [.text ['1']]]) = some .noLocation := by decide

end Validation

end Sitemap
