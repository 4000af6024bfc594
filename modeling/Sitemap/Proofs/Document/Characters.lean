import Sitemap.Proofs.Lists
import Sitemap.Proofs.Number.Reading
import Sitemap.Proofs.Text.Lines
import Sitemap.Proofs.Xml.Content

/-!
# The characters of a document

* `Xml.IsXmlChar` : the characters that a document may hold;
* `Document.unifyLines_escape` : line ends can be unified before or after escaping;
* `Document.pageText`, `Document.rootText`, `Document.body` : a page, the root, and all that stands
  behind the declaration;
* `Document.toList_ofEntries` : the text of a document consists of these parts;
* `Document.unifyLines_body` : unified line ends only change the locations;
* `Document.all_isChar_body` : only a location can hold a character that is not allowed.
-/

namespace Sitemap

/-! ## Characters -/

namespace Xml

/-- The characters that a document may hold: tab, line feed, carriage return, and what is neither
another control character, nor a surrogate, nor one of the two last of the first plane. -/
def IsXmlChar (c : Char) : Prop :=
  c = '\t' ∨ c = '\n' ∨ c = '\r' ∨ (0x20 ≤ c.toNat ∧ c.toNat ≤ 0xd7ff) ∨
    (0xe000 ≤ c.toNat ∧ c.toNat ≤ 0xfffd) ∨ 0x10000 ≤ c.toNat

theorem isChar_iff (c : Char) : isChar c = true ↔ IsXmlChar c := by
  have htoNat : ∀ d : Char, c = d ↔ c.toNat = d.toNat := fun d => Char.toNat_inj.symm
  simp only [isChar, IsXmlChar, htoNat, Bool.or_eq_true, Bool.and_eq_true, beq_iff_eq,
    decide_eq_true_eq, or_assoc]
  rfl

instance (c : Char) : Decidable (IsXmlChar c) := decidable_of_iff _ (isChar_iff c)

/-- Unified line ends hold a character that is not allowed if and only if the text does. -/
theorem all_isChar_unifyLines (cs : List Char) : (unifyLines cs).all isChar = cs.all isChar := by
  rw [Bool.eq_iff_iff, List.all_eq_true, List.all_eq_true]
  constructor
  · intro h c hc
    by_cases hreturn : c = '\r'
    · rw [hreturn]
      decide
    · exact h c (mem_unifyLines_of_mem hc hreturn)
  · intro h c hc
    rcases mem_unifyLines hc with hc | rfl
    · exact h c hc
    · decide

end Xml

namespace Document

/-! ## Escaped text -/

/-- A character is kept, or it is markup and becomes a reference. -/
theorem escapeChar_cases (c : Char) :
    (Xml.IsPlain c ∧ escapeChar c = [c]) ∨ ∃ name, Xml.isName name ∧
      Xml.predefined? name = some c ∧ escapeChar c = '&' :: name ++ [';'] := by
  unfold escapeChar
  split
  · rename_i hc
    subst hc
    exact .inr ⟨"amp".toList, by decide, by decide, rfl⟩
  · rename_i hamp
    split
    · rename_i hc
      subst hc
      exact .inr ⟨"lt".toList, by decide, by decide, rfl⟩
    · rename_i hlt
      split
      · rename_i hc
        subst hc
        exact .inr ⟨"gt".toList, by decide, by decide, rfl⟩
      · rename_i hgt
        exact .inl ⟨⟨hlt, hgt, hamp⟩, rfl⟩

theorem head?_escapeChar (c : Char) :
    (escapeChar c).head? = some c ∨ (escapeChar c).head? = some '&' := by
  rcases escapeChar_cases c with ⟨-, h⟩ | ⟨name, -, -, h⟩
  · exact .inl (by rw [h]; rfl)
  · exact .inr (by rw [h]; rfl)

theorem not_mem_escapeChar {c : Char} (hc : c ≠ '\r') : '\r' ∉ escapeChar c := by
  unfold escapeChar
  split
  · decide
  · split
    · decide
    · split
      · decide
      · simpa using hc.symm

/-- Line ends can be unified before or after escaping. -/
theorem unifyLines_escape (cs : List Char) :
    unifyLines (cs.flatMap escapeChar) = (unifyLines cs).flatMap escapeChar := by
  fun_induction unifyLines cs with
  | case1 => rfl
  | case2 rest ih =>
    rw [List.flatMap_cons, List.flatMap_cons, List.flatMap_cons, ← ih]
    rfl
  | case3 c rest hpair ih =>
    rw [List.flatMap_cons, List.flatMap_cons, ← ih]
    by_cases hc : c = '\r'
    · subst hc
      refine unifyLines_append ['\r'] ?_
      cases rest with
      | nil => simp
      | cons d rest =>
        have hd : d ≠ '\n' := fun h => hpair rest rfl (by rw [h])
        rw [List.flatMap_cons, List.head?_append]
        rcases head?_escapeChar d with h | h <;> rw [h] <;> simp [hd]
    · rw [if_neg hc, unifyLines_append_of_not_mem (not_mem_escapeChar hc)]

theorem all_isChar_escapeChar (c : Char) : (escapeChar c).all Xml.isChar = Xml.isChar c := by
  unfold escapeChar
  split
  · rename_i hc
    subst hc
    decide
  · split
    · rename_i hc
      subst hc
      decide
    · split
      · rename_i hc
        subst hc
        decide
      · simp

theorem all_isChar_escape (cs : List Char) :
    (cs.flatMap escapeChar).all Xml.isChar = cs.all Xml.isChar := by
  rw [List.all_flatMap]
  congr 1
  funext c
  exact all_isChar_escapeChar c

/-! ## The parts of a document -/

def line (indent : Nat) (name cs : List Char) : List Char :=
  '\n' :: (List.replicate indent ' ' ++ Xml.tagged name cs)

def pageText (location frequency priority : List Char) : List Char :=
  line 4 "url".toList (line 8 "loc".toList location ++ (line 8 "changefreq".toList frequency ++
    (line 8 "priority".toList priority ++ "\n    ".toList)))

def beforeLocation : List Char :=
  '\n' :: (List.replicate 4 ' ' ++ '<' :: ("url".toList ++ '>' :: '\n' :: (List.replicate 8 ' ' ++
    '<' :: ("loc".toList ++ ['>']))))

/-- A page between its location and its frequency, behind the first `<`. -/
def afterLocation : List Char :=
  '/' :: ("loc".toList ++ '>' :: '\n' :: (List.replicate 8 ' ' ++ '<' :: ("changefreq".toList ++
    ['>'])))

def afterFrequency : List Char :=
  '<' :: '/' :: ("changefreq".toList ++ '>' :: '\n' :: (List.replicate 8 ' ' ++
    '<' :: ("priority".toList ++ ['>'])))

def afterPriority : List Char :=
  '<' :: '/' :: ("priority".toList ++ '>' :: ("\n    ".toList ++ '<' :: '/' :: ("url".toList ++
    ['>'])))

theorem pageText_eq (location frequency priority : List Char) :
    pageText location frequency priority = beforeLocation ++ (location ++ '<' :: (afterLocation ++
      (frequency ++ (afterFrequency ++ (priority ++ afterPriority))))) := by
  simp only [pageText, beforeLocation, afterLocation, afterFrequency, afterPriority, line,
    Xml.tagged, List.append_assoc, List.cons_append, List.nil_append]

theorem toList_url (u : Url) :
    '\n' :: (url u).toList = pageText u.location.toList u.frequency.toList u.priority.toList := by
  unfold url
  simp only [String.toList_append]
  simp [pageText, line, Xml.tagged, List.replicate]

def declarationText : List Char := "<?xml version=\"1.0\" encoding=\"utf-8\"?>".toList

def rootStart : List Char :=
  ("urlset xmlns:xsi=\"" ++ instanceNamespace ++ "\"\n" ++
  "        xsi:schemaLocation=\"" ++ sitemapNamespace ++ " " ++ schemaLocation ++ "\"\n" ++
  "        xmlns=\"" ++ sitemapNamespace ++ "\">").toList

theorem toList_header :
    header.toList = declarationText ++ '\n' :: '<' :: (rootStart ++ ['\n']) := by
  have hdeclaration : "<?xml version=\"1.0\" encoding=\"utf-8\"?>\n" =
      "<?xml version=\"1.0\" encoding=\"utf-8\"?>" ++ "\n" := by decide
  have hstart : "<urlset xmlns:xsi=\"" = "<" ++ "urlset xmlns:xsi=\"" := by decide
  have hend : "\">\n" = "\">" ++ "\n" := by decide
  have hline : "\n".toList = ['\n'] := by decide
  have hmark : "<".toList = ['<'] := by decide
  unfold header declarationText rootStart
  rw [hdeclaration, hstart, hend]
  simp only [String.toList_append, hline, hmark, List.append_assoc, List.cons_append,
    List.nil_append]

theorem toList_footer :
    "</urlset>\n".toList = '<' :: '/' :: ("urlset".toList ++ ['>', '\n']) := by
  decide

/-- The root with its pages, behind its first `<`, with the line end behind it. -/
def rootText (pages : List Char) : List Char :=
  rootStart ++ (pages ++ ['\n'] ++ '<' :: '/' :: ("urlset".toList ++ ['>', '\n']))

def body (pages : List Char) : List Char := '\n' :: '<' :: rootText pages

theorem toList_join_url (urls : List Url) :
    '\n' :: (String.join (urls.map fun u => url u ++ "\n")).toList =
      (urls.flatMap fun u => pageText u.location.toList u.frequency.toList u.priority.toList) ++
        ['\n'] := by
  rw [String.toList_join]
  induction urls with
  | nil => rfl
  | cons u urls ih =>
    have hline : "\n".toList = ['\n'] := by decide
    rw [List.map_cons, List.flatMap_cons, List.flatMap_cons, ← toList_url, List.append_assoc, ← ih,
      String.toList_append, hline]
    simp only [List.append_assoc, List.cons_append, List.nil_append]

theorem toList_ofUrls (urls : List Url) :
    (ofUrls urls).toList = declarationText ++ body (urls.flatMap fun u =>
      pageText u.location.toList u.frequency.toList u.priority.toList) := by
  rw [ofUrls, String.toList_append, String.toList_append, toList_header, toList_footer, body,
    rootText, ← toList_join_url]
  rw [List.append_assoc, List.append_assoc, List.cons_append, List.cons_append, List.append_assoc,
    List.singleton_append, List.cons_append]

end Document

/-! ## The pages of entries -/

namespace Entry

def location (base : String) (e : Entry) : List Char := (joinLocation base e.template).toList

def page (location : List Char) (e : Entry) : List Char :=
  Document.pageText (location.flatMap Document.escapeChar) e.frequency.keyword.toList
    (Priority.text e.priority).toList

end Entry

namespace Document

theorem toList_ofEntries (base : String) (entries : List Entry) :
    (ofEntries base entries true).toList =
      declarationText ++ body (entries.flatMap fun e => e.page (e.location base)) := by
  rw [ofEntries, toList_ofUrls, List.flatMap_map]
  simp [Entry.url, Entry.page, Entry.location, escape]

/-! ### Line ends and allowed characters -/

/-- A character that is allowed and is neither a carriage return nor markup. -/
def IsSafe (c : Char) : Prop := Xml.isChar c ∧ c ≠ '\r' ∧ Xml.IsPlain c

instance (c : Char) : Decidable (IsSafe c) :=
  inferInstanceAs (Decidable (Xml.isChar c ∧ c ≠ '\r' ∧ Xml.IsPlain c))

theorem isSafe_of_mem_keyword (f : Frequency) : ∀ c ∈ f.keyword.toList, IsSafe c := by
  cases f <;> exact forall_mem_of_all (by decide)

theorem isSafe_of_isNumeralChar {c : Char} (h : IsNumeralChar c) : IsSafe c := by
  rcases h with hdigit | rfl | rfl | rfl | rfl
  · have hrange := toNat_of_isDigit hdigit
    have hne : ∀ d : Char, d.isDigit = false → c ≠ d := by
      rintro d hd rfl
      rw [hd] at hdigit
      cases hdigit
    refine ⟨?_, hne _ (by decide), hne _ (by decide), hne _ (by decide), hne _ (by decide)⟩
    rw [Xml.isChar_iff]
    exact .inr (.inr (.inr (.inl (by omega))))
  all_goals decide

theorem isSafe_of_mem_text {x : Binary64} (hx : x.IsFinite) :
    ∀ c ∈ (Priority.text x).toList, IsSafe c :=
  fun _ hc => isSafe_of_isNumeralChar (Priority.isNumeralChar_of_mem_text hx hc)

section
variable {frequency priority : List Char}

theorem return_not_mem_page (hfrequency : ∀ c ∈ frequency, IsSafe c)
    (hpriority : ∀ c ∈ priority, IsSafe c) :
    '\r' ∉ '<' :: (afterLocation ++
      (frequency ++ (afterFrequency ++ (priority ++ afterPriority)))) := by
  have hfrequency' : '\r' ∉ frequency := fun h => (hfrequency _ h).2.1 rfl
  have hpriority' : '\r' ∉ priority := fun h => (hpriority _ h).2.1 rfl
  have hfixed : '\r' ∉ afterLocation ∧ '\r' ∉ afterFrequency ∧ '\r' ∉ afterPriority := by decide
  simp only [List.mem_cons, List.mem_append, hfrequency', hpriority', hfixed, or_false]
  decide

theorem unifyLines_pageText (hfrequency : ∀ c ∈ frequency, IsSafe c)
    (hpriority : ∀ c ∈ priority, IsSafe c) (location rest : List Char) :
    unifyLines (pageText location frequency priority ++ rest) =
      pageText (unifyLines location) frequency priority ++ unifyLines rest := by
  have hbefore : '\r' ∉ beforeLocation := by decide
  have hafter := return_not_mem_page hfrequency hpriority
  rw [pageText_eq, pageText_eq, List.append_assoc, List.append_assoc,
    unifyLines_append_of_not_mem hbefore, unifyLines_append _ (by simp),
    unifyLines_append_of_not_mem hafter, List.append_assoc, List.append_assoc]

/-- Only the location of a page can hold a character that is not allowed. -/
theorem all_isChar_pageText (hfrequency : ∀ c ∈ frequency, IsSafe c)
    (hpriority : ∀ c ∈ priority, IsSafe c) (location : List Char) :
    (pageText location frequency priority).all Xml.isChar = location.all Xml.isChar := by
  have hfrequency' : frequency.all Xml.isChar := List.all_eq_true.2 fun c hc => (hfrequency c hc).1
  have hpriority' : priority.all Xml.isChar := List.all_eq_true.2 fun c hc => (hpriority c hc).1
  have hbefore : beforeLocation.all Xml.isChar := by decide
  have hlocation : afterLocation.all Xml.isChar := by decide
  have hfrequency'' : afterFrequency.all Xml.isChar := by decide
  have hpriority'' : afterPriority.all Xml.isChar := by decide
  have hmark : Xml.isChar '<' := by decide
  rw [pageText_eq]
  simp only [List.all_append, List.all_cons, *, Bool.and_true, Bool.true_and]

end

theorem forall_mem_toList {P : Char → Prop} (cs : List Char) (h : ∀ c ∈ cs, P c) :
    ∀ c ∈ (String.ofList cs).toList, P c := by
  rwa [String.toList_ofList]

theorem isFixed_rootStart : ∀ c ∈ rootStart, Xml.isChar c ∧ c ≠ '\r' := by
  unfold rootStart instanceNamespace sitemapNamespace schemaLocation
  simp only [String.toList_append, List.forall_mem_append]
  refine ⟨⟨⟨⟨⟨⟨⟨⟨⟨⟨?_, ?_⟩, ?_⟩, ?_⟩, ?_⟩, ?_⟩, ?_⟩, ?_⟩, ?_⟩, ?_⟩, ?_⟩
  all_goals exact forall_mem_toList _ (forall_mem_of_all (by decide))

/-- Unified line ends only change the locations of a document. -/
theorem unifyLines_body {entries : List Entry} (h : ∀ e ∈ entries, e.priority.IsFinite)
    (location : Entry → List Char) :
    unifyLines (body (entries.flatMap fun e => e.page (location e))) =
      body (entries.flatMap fun e => e.page (unifyLines (location e))) := by
  have hpages : ∀ rest, unifyLines ((entries.flatMap fun e => e.page (location e)) ++ rest) =
      (entries.flatMap fun e => e.page (unifyLines (location e))) ++ unifyLines rest := by
    intro rest
    induction entries with
    | nil => rfl
    | cons e entries ih =>
      obtain ⟨he, hentries⟩ := List.forall_mem_cons.1 h
      rw [List.flatMap_cons, List.flatMap_cons, List.append_assoc, List.append_assoc, Entry.page,
        unifyLines_pageText (isSafe_of_mem_keyword _) (isSafe_of_mem_text he), unifyLines_escape,
        ih hentries]
      rfl
  have hstart : '\r' ∉ rootStart := fun hmem => (isFixed_rootStart _ hmem).2 rfl
  have hend : '\r' ∉ ['\n'] ++ '<' :: '/' :: ("urlset".toList ++ ['>', '\n']) := by decide
  rw [body, body, rootText, rootText, unifyLines_cons (by decide), unifyLines_cons (by decide),
    unifyLines_append_of_not_mem hstart, List.append_assoc, hpages, unifyLines_eq_self hend,
    List.append_assoc]

/-- Only a location can hold a character that is not allowed. -/
theorem all_isChar_body {entries : List Entry} (h : ∀ e ∈ entries, e.priority.IsFinite)
    (location : Entry → List Char) :
    (body (entries.flatMap fun e => e.page (location e))).all Xml.isChar =
      entries.all fun e => (location e).all Xml.isChar := by
  have hpages : (entries.flatMap fun e => e.page (location e)).all Xml.isChar =
      entries.all fun e => (location e).all Xml.isChar := by
    induction entries with
    | nil => rfl
    | cons e entries ih =>
      obtain ⟨he, hentries⟩ := List.forall_mem_cons.1 h
      rw [List.flatMap_cons, List.all_append, List.all_cons, ih hentries, Entry.page,
        all_isChar_pageText (isSafe_of_mem_keyword _) (isSafe_of_mem_text he), all_isChar_escape]
  have hstart : rootStart.all Xml.isChar :=
    List.all_eq_true.2 fun c hc => (isFixed_rootStart c hc).1
  have hfeed : Xml.isChar '\n' := by decide
  have hmark : Xml.isChar '<' := by decide
  have hend : ('<' :: '/' :: ("urlset".toList ++ ['>', '\n'])).all Xml.isChar := by decide
  rw [body, rootText, List.all_cons, List.all_cons, List.all_append, List.all_append,
    List.all_append, hpages, hstart, hend, hfeed, hmark, List.all_cons, hfeed]
  simp

end Document

end Sitemap
