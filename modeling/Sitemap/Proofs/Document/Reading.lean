import Sitemap.Proofs.Document.Characters
import Sitemap.Proofs.Text.Utf8

/-!
# A document is read back as its pages

* `Document.exists_reads_escape` : escaped text is read as the text that was escaped;
* `Entry.exists_reads_page` : a page is read as one element with the texts of its entry;
* `Document.readStartTag?_root`, `readHead?_declaration` : so are the root and the declaration;
* `Document.parse?_ofEntries` : a document is read as its pages, in order;
* `Document.parse?_eq_none` : and not at all if a location holds a character that is not allowed.
-/

namespace Sitemap

open Validation (sitemapName)

namespace Document

section
variable {scope : Xml.Scope} {height : Nat} {P : List Char → Prop} {cs : List Char}
  {nodes : List Xml.Node}

/-! ## Escaped text -/

theorem exists_reads_plain (h : ∀ c ∈ cs, Xml.IsPlain c) :
    ∃ nodes, Xml.Reads scope height Xml.BeginsMarkup cs nodes ∧
      Xml.Node.plainText? nodes = some cs := by
  by_cases hne : cs = []
  · subst hne
    exact ⟨[], .nil, rfl⟩
  · exact ⟨_, .text hne h, by simp [Xml.Node.plainText?]⟩

/-- Escaped text is read as the text that was escaped, also behind plain text. The induction moves
what is plain behind the text that is already there, up to the next reference. -/
theorem exists_reads_append_escape (cs before : List Char) (hbefore : ∀ c ∈ before, Xml.IsPlain c) :
    ∃ nodes, Xml.Reads scope height Xml.BeginsMarkup (before ++ cs.flatMap escapeChar) nodes ∧
      Xml.Node.plainText? nodes = some (before ++ cs) := by
  induction cs generalizing before with
  | nil => simpa using exists_reads_plain hbefore
  | cons c cs ih =>
    rw [List.flatMap_cons]
    rcases escapeChar_cases c with ⟨hc, h⟩ | ⟨name, hname, hc, h⟩
    · obtain ⟨nodes, hnodes, htext⟩ := ih (before ++ [c])
        (List.forall_mem_append.2 ⟨hbefore, by simpa using hc⟩)
      rw [List.append_assoc] at hnodes htext
      rw [h]
      exact ⟨nodes, hnodes, htext⟩
    · obtain ⟨nodes, hnodes, htext⟩ := exists_reads_plain hbefore
      obtain ⟨others, hothers, hrest⟩ := ih [] (by simp)
      have hreference : Xml.Reads scope height Xml.BeginsMarkup
          (('&' :: name ++ [';']) ++ cs.flatMap escapeChar) ([.text [c]] ++ others) :=
        .append_any (.reference hname hc) hothers
      rw [h]
      refine ⟨nodes ++ ([.text [c]] ++ others), hnodes.append hreference ?_, ?_⟩
      · exact fun rest _ => ⟨'&', _, rfl, .inr rfl⟩
      · refine Xml.Node.plainText?_append htext ?_
        rw [List.singleton_append, Xml.Node.plainText?, hrest]
        rfl

theorem exists_reads_escape (cs : List Char) :
    ∃ nodes, Xml.Reads scope height Xml.BeginsMarkup (cs.flatMap escapeChar) nodes ∧
      Xml.Node.plainText? nodes = some cs :=
  exists_reads_append_escape cs [] (by simp)

/-! ## Pages -/

/-- An indented element behind a line end is read, before anything. -/
theorem reads_line (indent : Nat) (name : String) (hname : Xml.IsLocalName name.toList)
    (hscope : Xml.lookup? scope [] = some sitemapNamespace)
    (h : Xml.Reads scope height Xml.BeginsMarkup cs nodes) :
    Xml.Reads scope (height + 1) P (line indent name.toList cs)
      [.text ('\n' :: List.replicate indent ' '), .element (sitemapName name) nodes] := by
  have hblank : ∀ c ∈ '\n' :: List.replicate indent ' ', Xml.IsPlain c := by
    intro c hc
    rcases List.mem_cons.1 hc with rfl | hc
    · decide
    · rw [(List.mem_replicate.1 hc).2]
      decide
  have helement := Xml.Reads.element (P := P) hname hscope (by decide) h
  rw [String.ofList_toList] at helement
  exact .append (.text (List.cons_ne_nil _ _) hblank) helement fun rest _ => ⟨'<', _, rfl, .inl rfl⟩

end

end Document

namespace Entry

/-- The nodes of a page: a location, a frequency and a priority, each with its text. -/
def IsPage (e : Entry) (location : List Char) (nodes : List Xml.Node) : Prop :=
  ∃ loc changefreq priority,
    Xml.Node.markup nodes = [.element (sitemapName "loc") loc,
      .element (sitemapName "changefreq") changefreq, .element (sitemapName "priority") priority] ∧
    Xml.Node.plainText? loc = some location ∧
    Xml.Node.plainText? changefreq = some e.frequency.keyword.toList ∧
    Xml.Node.plainText? priority = some (Priority.text e.priority).toList

section
variable {scope : Xml.Scope} {P : List Char → Prop}

/-- A page is read as one element with the texts of its entry. -/
theorem exists_reads_page {e : Entry} (he : e.priority.IsFinite)
    (hscope : Xml.lookup? scope [] = some sitemapNamespace) (location : List Char) :
    ∃ indent nodes, e.IsPage location nodes ∧ Xml.Reads scope 2 P (e.page location)
      [.text indent, .element (sitemapName "url") nodes] := by
  have hfrequency : ∀ c ∈ e.frequency.keyword.toList, Xml.IsPlain c :=
    fun c hc => (Document.isSafe_of_mem_keyword _ c hc).2.2
  have hpriority : ∀ c ∈ (Priority.text e.priority).toList, Xml.IsPlain c :=
    fun c hc => (Document.isSafe_of_mem_text he c hc).2.2
  obtain ⟨loc, hloc, hloctext⟩ : ∃ nodes, Xml.Reads scope 0 _ _ nodes ∧ _ :=
    Document.exists_reads_escape location
  obtain ⟨changefreq, hchangefreq, hchangefreqtext⟩ : ∃ nodes, Xml.Reads scope 0 _ _ nodes ∧ _ :=
    Document.exists_reads_plain hfrequency
  obtain ⟨priority, hprio, hpriotext⟩ : ∃ nodes, Xml.Reads scope 0 _ _ nodes ∧ _ :=
    Document.exists_reads_plain hpriority
  have hend : Xml.Reads scope 1 Xml.BeginsMarkup "\n    ".toList [.text "\n    ".toList] :=
    .text (by decide) (forall_mem_of_all (by decide))
  have hinner := (Document.reads_line 8 "loc" (by decide) hscope hloc).append_any
    ((Document.reads_line 8 "changefreq" (by decide) hscope hchangefreq).append_any
      ((Document.reads_line 8 "priority" (by decide) hscope hprio).append_any hend))
  refine ⟨_, _, ⟨loc, changefreq, priority, ?_, hloctext, hchangefreqtext, hpriotext⟩,
    Document.reads_line 4 "url" (by decide) hscope hinner⟩
  simp

end

/-- Pages are read as one element for each entry, in order. -/
theorem exists_reads_pages {scope : Xml.Scope} {entries : List Entry}
    (h : ∀ e ∈ entries, e.priority.IsFinite)
    (hscope : Xml.lookup? scope [] = some sitemapNamespace) (location : Entry → List Char) :
    ∃ nodes pages, Xml.Reads scope 2 (fun _ => True)
        (entries.flatMap fun e => e.page (location e)) nodes ∧
      Xml.Node.markup nodes = pages.map (.element (sitemapName "url")) ∧
      List.Forall₂ (fun e page => e.IsPage (location e) page) entries pages := by
  induction entries with
  | nil => exact ⟨[], [], .nil, rfl, .nil⟩
  | cons e entries ih =>
    obtain ⟨he, hentries⟩ := List.forall_mem_cons.1 h
    obtain ⟨indent, page, hpage, hread⟩ := exists_reads_page he hscope (location e)
    obtain ⟨nodes, pages, hreads, hmarkup, hpages⟩ := ih hentries
    refine ⟨_, page :: pages, hread.append_any hreads, ?_, .cons hpage hpages⟩
    simp [hmarkup]

end Entry

namespace Document

/-! ## The root -/

def rootScope : Xml.Scope := [([], sitemapNamespace), ("xsi".toList, instanceNamespace)]

def rootTag : Xml.StartTag where
  written := "urlset".toList
  attributes := [("xmlns:xsi".toList, instanceNamespace.toList),
    ("xsi:schemaLocation".toList, sitemapNamespace.toList ++ ' ' :: schemaLocation.toList),
    ("xmlns".toList, sitemapNamespace.toList)]
  empty := false

/-- The attributes of the root as they are written, from the blank before the first on. -/
def attributesText (rest : List Char) : List Char :=
  [' '] ++ ("xmlns:xsi".toList ++ '=' :: '"' :: (instanceNamespace.toList ++
    '"' :: ('\n' :: List.replicate 8 ' ' ++ ("xsi:schemaLocation".toList ++ '=' :: '"' ::
      ((sitemapNamespace.toList ++ ' ' :: schemaLocation.toList) ++ '"' ::
        ('\n' :: List.replicate 8 ' ' ++ ("xmlns".toList ++ '=' :: '"' ::
          (sitemapNamespace.toList ++ '"' :: '>' :: rest))))))))

/-- The start tag consists of its name and its attributes. -/
theorem rootStart_append (rest : List Char) :
    rootStart ++ rest = "urlset".toList ++ attributesText rest := by
  have hfirst : "urlset xmlns:xsi=\"".toList =
      "urlset".toList ++ ' ' :: ("xmlns:xsi".toList ++ ['=', '"']) := by decide
  have hsecond : "        xsi:schemaLocation=\"".toList =
      List.replicate 8 ' ' ++ ("xsi:schemaLocation".toList ++ ['=', '"']) := by decide
  have hthird : "        xmlns=\"".toList =
      List.replicate 8 ' ' ++ ("xmlns".toList ++ ['=', '"']) := by decide
  have hline : "\"\n".toList = ['"', '\n'] := by decide
  have hblank : " ".toList = [' '] := by decide
  have hend : "\">".toList = ['"', '>'] := by decide
  unfold rootStart attributesText
  simp only [String.toList_append, hfirst, hsecond, hthird, hline, hblank, hend, List.append_assoc,
    List.cons_append, List.nil_append]

theorem isValueChar_addresses :
    (∀ c ∈ instanceNamespace.toList, Xml.IsValueChar c) ∧
      (∀ c ∈ sitemapNamespace.toList, Xml.IsValueChar c) ∧
      ∀ c ∈ schemaLocation.toList, Xml.IsValueChar c := by
  refine ⟨forall_mem_toList _ ?_, forall_mem_toList _ ?_, forall_mem_toList _ ?_⟩
  all_goals exact forall_mem_of_all (by decide)

/-- The attributes of the root are read, each of them taking one character of the bound. -/
theorem readAttributes?_root {bound : List Char} (h : 3 < bound.length) (rest : List Char) :
    Xml.readAttributes? {} bound (attributesText rest) =
      some (rootTag.attributes, false, [], rest) := by
  obtain ⟨hinstance, hsitemap, hschema⟩ := isValueChar_addresses
  have hboth : ∀ c ∈ sitemapNamespace.toList ++ ' ' :: schemaLocation.toList, Xml.IsValueChar c :=
    List.forall_mem_append.2 ⟨hsitemap, List.forall_mem_cons.2 ⟨by decide, hschema⟩⟩
  have hpad : ('\n' :: List.replicate 8 ' ').all Xml.isSpace := by decide
  have hblank : [' '].all Xml.isSpace := by decide
  have hfirst : Xml.isName "xmlns:xsi".toList := by decide
  have hsecond : Xml.isName "xsi:schemaLocation".toList := by decide
  have hthird : Xml.isName "xmlns".toList := by decide
  match bound, h with
  | _ :: _ :: _ :: _ :: _, _ =>
    rw [attributesText, Xml.readAttributes?_attribute hblank hfirst hinstance rfl,
      Xml.readAttributes?_attribute hpad hsecond hboth rfl,
      Xml.readAttributes?_attribute hpad hthird hsitemap rfl]
    rfl

theorem readStartTag?_root (rest : List Char) :
    Xml.readStartTag? {} (rootStart ++ rest) = some (rootTag, [], rest) := by
  have hlong : 3 < (attributesText rest).length := by
    have hlength : "xmlns:xsi".toList.length = 9 := by decide
    rw [attributesText, List.length_append, List.length_append, hlength]
    omega
  have hname : Xml.isName "urlset".toList := by decide
  rw [rootStart_append]
  exact Xml.readStartTag?_eq (Xml.readName?_append hname (by decide) _)
    (readAttributes?_root hlong rest)

theorem resolve?_root :
    rootTag.resolve? {} [] = some (sitemapName "urlset", rootScope, []) := by
  decide

/-- The declaration is read. -/
theorem readHead?_declaration (rest : List Char) :
    Xml.readHead? (declarationText ++ rest) = some ({ encoding? := some "utf-8" }, rest) := by
  have hstart : declarationText =
      "<?xml".toList ++ " version=\"1.0\" encoding=\"utf-8\"?>".toList := by
    unfold declarationText
    rw [← String.toList_append]
    rfl
  have hread : Xml.readDeclaration? (" version=\"1.0\" encoding=\"utf-8\"?>".toList ++ rest) =
      some ({ encoding? := some "utf-8" }, rest) := rfl
  have hlabel : Encoding.ofLabel? "utf-8" = some .utf8 := rfl
  have hdecode : Encoding.utf8.decode (Utf8.encode (String.ofList rest)) = some rest := by
    rw [Encoding.decode, Utf8.decode_encode, Except.toOption, Option.map_some, String.toList_ofList]
  have hblank : " version=\"1.0\" encoding=\"utf-8\"?>".toList =
      ' ' :: "version=\"1.0\" encoding=\"utf-8\"?>".toList := by decide
  have hmark : "<?xml".toList = '<' :: "?xml".toList := by decide
  rw [hblank, List.cons_append] at hread
  rw [hstart, List.append_assoc, hblank, List.cons_append]
  generalize "version=\"1.0\" encoding=\"utf-8\"?>".toList ++ rest = after at *
  have hdrop := Xml.dropText?_append "<?xml".toList (' ' :: after)
  have hspace : Xml.isSpace ' ' = true := by decide
  rw [Xml.readHead?]
  · simp only [hdrop, hspace, if_true, hread, hlabel, hdecode, Option.bind_eq_bind,
      Option.bind_some, Bool.false_eq_true, if_false]
    rfl
  · intro tail heq
    rw [hmark] at heq
    exact absurd (List.cons.inj heq).1 (by decide)

/-- The root is read with its pages. -/
theorem exists_readElement? {entries : List Entry} (h : ∀ e ∈ entries, e.priority.IsFinite)
    (location : Entry → List Char) :
    ∃ nodes pages, Xml.readElement? {}
        ('<' :: rootText (entries.flatMap fun e => e.page (location e))) =
          some ⟨[.element (sitemapName "urlset") nodes], [], ['\n']⟩ ∧
      Xml.Node.markup nodes = pages.map (.element (sitemapName "url")) ∧
      List.Forall₂ (fun e page => e.IsPage (location e) page) entries pages := by
  have hscope : Xml.lookup? rootScope [] = some sitemapNamespace := rfl
  obtain ⟨nodes, pages, hreads, hmarkup, hpages⟩ := Entry.exists_reads_pages h hscope location
  have hend : Xml.Reads rootScope 2 Xml.BeginsMarkup ['\n'] [.text ['\n']] :=
    .text (by decide) (forall_mem_of_all (by decide))
  refine ⟨nodes ++ [Xml.Node.text ['\n']], pages, ?_, by simp [hmarkup], hpages⟩
  exact Xml.readElement?_eq (readStartTag?_root _) rfl resolve?_root (hreads.append_any hend)
    (by decide)

theorem exists_rootText_eq_cons (pages : List Char) :
    ∃ c tail, rootText pages = c :: tail ∧ Xml.isNameStart c := by
  have hname : "urlset".toList = 'u' :: "rlset".toList := by decide
  rw [rootText, rootStart_append, hname]
  exact ⟨_, _, rfl, by decide⟩

/-! ## The document -/

/-- A document is not read if its text holds a character that is not allowed. -/
theorem parse?_of_not_allowed {document : String} {cs : List Char}
    (hhead : Xml.readHead? document.toList = some ({ encoding? := some "utf-8" }, cs))
    (hchars : (unifyLines cs).all Xml.isChar = false) : Xml.parse? document = none := by
  rw [Xml.parse?, hhead]
  simp only [Option.bind_eq_bind, Option.bind_some, hchars]
  rfl

/-- A document with nothing but line ends around its root is read as the root. -/
theorem parse?_of_root {document : String} {cs rest : List Char} {name : Xml.Name}
    {nodes : List Xml.Node}
    (hhead : Xml.readHead? document.toList = some ({ encoding? := some "utf-8" }, cs))
    (hchars : (unifyLines cs).all Xml.isChar) (hcs : unifyLines cs = '\n' :: '<' :: rest)
    (hrest : ∃ c tail, rest = c :: tail ∧ Xml.isNameStart c)
    (hroot : Xml.readElement? {} ('<' :: rest) = some ⟨[.element name nodes], [], ['\n']⟩) :
    Xml.parse? document = some (name, nodes) := by
  obtain ⟨c, rest, rfl, hc⟩ := hrest
  have hne : c ≠ '!' ∧ c ≠ '?' := by
    constructor <;> rintro rfl <;> cases hc
  have htype : Xml.dropText? "<!DOCTYPE".toList ('<' :: c :: rest) = none := by
    have hmark : "<!DOCTYPE".toList = '<' :: '!' :: "DOCTYPE".toList := by decide
    rw [hmark, Xml.dropText?, if_pos rfl, Xml.dropText?, if_neg (Ne.symm hne.1)]
  have hmisc (fuel : Nat) :
      Xml.readMisc? (fuel + 1) ('\n' :: '<' :: c :: rest) = some ([], '<' :: c :: rest) := by
    have hskip : Xml.skipSpace ('\n' :: '<' :: c :: rest) = '<' :: c :: rest := rfl
    rw [Xml.readMisc?, hskip]
    split
    · rename_i heq
      simp [hne.1] at heq
    · rename_i heq
      simp [hne.2] at heq
    · rfl
  have hafter : Xml.readMisc? (['\n'].length + 1) ['\n'] = some ([], []) := rfl
  rw [hcs] at hchars
  rw [Xml.parse?, hhead]
  simp only [Option.bind_eq_bind, Option.bind_some, hcs, hchars, Bool.not_true, Bool.false_eq_true,
    if_false, hmisc, htype, hroot, hafter]
  rfl

section
variable (base : String) {entries : List Entry}

theorem readHead?_ofEntries : Xml.readHead? (ofEntries base entries true).toList =
    some ({ encoding? := some "utf-8" },
      body (entries.flatMap fun e => e.page (e.location base))) := by
  rw [toList_ofEntries, readHead?_declaration]

/-- The text behind the declaration is allowed if and only if the locations are. -/
theorem all_isChar_unifyLines_body (h : ∀ e ∈ entries, e.priority.IsFinite) :
    (unifyLines (body (entries.flatMap fun e => e.page (e.location base)))).all Xml.isChar =
      entries.all fun e => (e.location base).all Xml.isChar := by
  rw [Xml.all_isChar_unifyLines, all_isChar_body h]

theorem parse?_ofEntries (h : ∀ e ∈ entries, e.priority.IsFinite)
    (hchars : entries.all fun e => (e.location base).all Xml.isChar) :
    ∃ nodes pages, Xml.parse? (ofEntries base entries true) = some (sitemapName "urlset", nodes) ∧
      Xml.Node.markup nodes = pages.map (.element (sitemapName "url")) ∧
      List.Forall₂ (fun e page => e.IsPage (unifyLines (e.location base)) page) entries pages := by
  obtain ⟨nodes, pages, hroot, hmarkup, hpages⟩ :=
    exists_readElement? h fun e => unifyLines (e.location base)
  exact ⟨nodes, pages, parse?_of_root (readHead?_ofEntries base)
    ((all_isChar_unifyLines_body base h).trans hchars) (unifyLines_body h _)
    (exists_rootText_eq_cons _) hroot, hmarkup, hpages⟩

/-- A document is not read if a location holds a character that is not allowed. -/
theorem parse?_eq_none (h : ∀ e ∈ entries, e.priority.IsFinite)
    (hchars : (entries.all fun e => (e.location base).all Xml.isChar) = false) :
    Xml.parse? (ofEntries base entries true) = none :=
  parse?_of_not_allowed (readHead?_ofEntries base)
    ((all_isChar_unifyLines_body base h).trans hchars)

end

end Document

end Sitemap
