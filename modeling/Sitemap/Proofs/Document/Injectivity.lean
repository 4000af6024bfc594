import Sitemap.Proofs.Document.Characters

/-!
# Documents are equal only if their pages are

* `Document.escape_injective` : escaped texts are equal only if the texts are;
* `Document.Url.chars_append_inj` : a page is taken apart again;
* `Document.ofUrls_inj` : documents of pages whose texts hold no `<` are equal just if the pages
  are;
* `Document.render_eq_iff` : escaped documents of entries are equal just if the entries agree, one
  by one, on what is written of them.
-/

namespace Sitemap

namespace Document

/-! ## Escaped text -/

theorem not_mem_of_isName {name : List Char} (h : Xml.isName name) {c : Char}
    (hc : Xml.isNameChar c = false) : c ∉ name := by
  intro hmem
  simp only [Xml.isName, Bool.and_eq_true, List.all_eq_true] at h
  rw [h.2 c hmem] at hc
  cases hc

/-- The text of a character ends where it ends, whatever stands behind it. -/
theorem escapeChar_append_inj {c d : Char} {rest rest' : List Char}
    (h : escapeChar c ++ rest = escapeChar d ++ rest') : c = d ∧ rest = rest' := by
  rcases escapeChar_cases c with ⟨hc, hcs⟩ | ⟨name, hname, hentity, hcs⟩ <;>
    rcases escapeChar_cases d with ⟨hd, hds⟩ | ⟨name', hname', hentity', hds⟩ <;>
    rw [hcs, hds] at h
  · exact List.cons.inj h
  · exact absurd (List.head_eq_of_cons_eq h) hc.2.2
  · exact absurd (List.head_eq_of_cons_eq h).symm hd.2.2
  · have hends : Xml.isNameChar ';' = false := by decide
    simp only [List.cons_append, List.append_assoc, List.nil_append, List.cons.injEq,
      true_and] at h
    obtain ⟨rfl, hrest⟩ := append_cons_inj_of_not_mem (not_mem_of_isName hname hends)
      (not_mem_of_isName hname' hends) h
    exact ⟨Option.some.inj (hentity.symm.trans hentity'), hrest⟩

theorem escapeChar_ne_nil (c : Char) : escapeChar c ≠ [] := by
  rcases escapeChar_cases c with ⟨-, h⟩ | ⟨name, -, -, h⟩ <;> rw [h] <;> exact List.cons_ne_nil _ _

theorem eq_of_flatMap_escapeChar {cs ds : List Char}
    (h : cs.flatMap escapeChar = ds.flatMap escapeChar) : cs = ds := by
  induction cs generalizing ds with
  | nil =>
    cases ds with
    | nil => rfl
    | cons d ds =>
      rw [List.flatMap_nil, List.flatMap_cons] at h
      exact absurd (List.append_eq_nil_iff.1 h.symm).1 (escapeChar_ne_nil d)
  | cons c cs ih =>
    cases ds with
    | nil =>
      rw [List.flatMap_nil, List.flatMap_cons] at h
      exact absurd (List.append_eq_nil_iff.1 h).1 (escapeChar_ne_nil c)
    | cons d ds =>
      rw [List.flatMap_cons, List.flatMap_cons] at h
      obtain ⟨rfl, hrest⟩ := escapeChar_append_inj h
      rw [ih hrest]

/-- Escaped texts are equal only if the texts are. -/
theorem escape_injective : Function.Injective escape := by
  intro s t h
  rw [escape, escape, String.ofList_inj] at h
  exact String.toList_inj.1 (eq_of_flatMap_escapeChar h)

theorem not_mem_escape (s : String) : '<' ∉ (escape s).toList := by
  rw [escape, String.toList_ofList, List.mem_flatMap]
  rintro ⟨c, -, hc⟩
  rcases escapeChar_cases c with ⟨hplain, h⟩ | ⟨name, hname, -, h⟩ <;> rw [h] at hc
  · exact hplain.1 (List.mem_singleton.1 hc).symm
  · have hinside := not_mem_of_isName hname (c := '<') (by decide)
    simp [hinside] at hc

/-! ## Pages -/

/-- A page whose texts hold no markup. -/
structure Url.HasNoMark (u : Url) : Prop where
  location : '<' ∉ u.location.toList
  frequency : '<' ∉ u.frequency.toList
  priority : '<' ∉ u.priority.toList

def Url.chars (u : Url) : List Char :=
  pageText u.location.toList u.frequency.toList u.priority.toList

theorem Url.chars_eq (u : Url) : ∃ rest, u.chars = '\n' :: ' ' :: rest := ⟨_, rfl⟩

/-- A page is taken apart again: every text of it ends at a mark. -/
theorem Url.chars_append_inj {u v : Url} (hu : u.HasNoMark) (hv : v.HasNoMark)
    {rest rest' : List Char} (h : u.chars ++ rest = v.chars ++ rest') : u = v ∧ rest = rest' := by
  obtain ⟨afterFrequency', hfrequency⟩ : ∃ cs, afterFrequency = '<' :: cs := ⟨_, rfl⟩
  obtain ⟨afterPriority', hpriority⟩ : ∃ cs, afterPriority = '<' :: cs := ⟨_, rfl⟩
  simp only [Url.chars, pageText_eq, hfrequency, hpriority, List.append_assoc,
    List.cons_append] at h
  obtain ⟨hlocations, hbehind⟩ := append_cons_inj_of_not_mem hu.location hv.location
    (List.append_cancel_left h)
  obtain ⟨hfrequencies, hbehind'⟩ := append_cons_inj_of_not_mem hu.frequency hv.frequency
    (List.append_cancel_left hbehind)
  obtain ⟨hpriorities, hrests⟩ := append_cons_inj_of_not_mem hu.priority hv.priority
    (List.append_cancel_left hbehind')
  refine ⟨?_, List.append_cancel_left hrests⟩
  cases u
  cases v
  rw [Url.mk.injEq]
  exact ⟨String.toList_inj.1 hlocations, String.toList_inj.1 hfrequencies,
    String.toList_inj.1 hpriorities⟩

/-- The pages before the end of the root are taken apart again. A page begins with a blank, where
the end of the root has its mark. -/
theorem eq_of_flatMap_chars {us vs : List Url} (hus : ∀ u ∈ us, u.HasNoMark)
    (hvs : ∀ v ∈ vs, v.HasNoMark) {tail : List Char}
    (h : us.flatMap Url.chars ++ '\n' :: '<' :: tail =
      vs.flatMap Url.chars ++ '\n' :: '<' :: tail) : us = vs := by
  induction us generalizing vs with
  | nil =>
    cases vs with
    | nil => rfl
    | cons v vs =>
      obtain ⟨rest, hrest⟩ := v.chars_eq
      simp [hrest] at h
  | cons u us ih =>
    cases vs with
    | nil =>
      obtain ⟨rest, hrest⟩ := u.chars_eq
      simp [hrest] at h
    | cons v vs =>
      rw [List.forall_mem_cons] at hus hvs
      rw [List.flatMap_cons, List.flatMap_cons, List.append_assoc, List.append_assoc] at h
      obtain ⟨rfl, hpages⟩ := Url.chars_append_inj hus.1 hvs.1 h
      rw [ih hus.2 hvs.2 hpages]

/-- Documents are equal only if their pages are. -/
theorem ofUrls_inj {us vs : List Url} (hus : ∀ u ∈ us, u.HasNoMark)
    (hvs : ∀ v ∈ vs, v.HasNoMark) : ofUrls us = ofUrls vs ↔ us = vs := by
  refine ⟨fun h => ?_, congrArg ofUrls⟩
  have hchars := congrArg String.toList h
  rw [toList_ofUrls, toList_ofUrls] at hchars
  have hbody := List.append_cancel_left hchars
  simp only [body, rootText, List.cons.injEq, true_and, List.append_assoc,
    List.append_cancel_left_eq] at hbody
  exact eq_of_flatMap_chars hus hvs hbody

/-! ## Entries -/

/-- The text of a priority holds no markup, even if it is no number. -/
theorem not_mem_text (x : Binary64) : '<' ∉ (Priority.text x).toList := by
  cases x with
  | nan => decide
  | infinite negative => cases negative <;> decide
  | finite negative significand exponent canonical =>
    intro hmem
    exact (isSafe_of_mem_text ⟨_, _, _, canonical, rfl⟩ _ hmem).2.2.1 rfl

theorem hasNoMark_url (base : String) (e : Entry) : (e.url base true).HasNoMark where
  location := not_mem_escape _
  frequency := fun hmem => (isSafe_of_mem_keyword _ _ hmem).2.2.1 rfl
  priority := not_mem_text _

theorem url_eq_iff {base base' : String} {e e' : Entry} : e.url base true = e'.url base' true ↔
    joinLocation base e.template = joinLocation base' e'.template ∧
      e.frequency.keyword = e'.frequency.keyword ∧
      Priority.text e.priority = Priority.text e'.priority := by
  simp [Entry.url, escape_injective.eq_iff]

/-- Whatever characters the base addresses and the templates hold, both lists of entries can be
rendered, and the escaped documents are equal just if there are as many entries in both and they
agree, one by one, on the location, the keyword and the text of the priority. -/
theorem render_eq_iff (base base' : String) (entries entries' : List Entry) :
    ∃ document document', render base (entries.map Entry.toRow) true = .ok document ∧
      render base' (entries'.map Entry.toRow) true = .ok document' ∧
      (document = document' ↔ List.Forall₂ (fun e e' =>
        joinLocation base e.template = joinLocation base' e'.template ∧
          e.frequency.keyword = e'.frequency.keyword ∧
          Priority.text e.priority = Priority.text e'.priority) entries entries') := by
  refine ⟨_, _, render_toRow base entries true, render_toRow base' entries' true, ?_⟩
  have hclosed : ∀ (base : String) (entries : List Entry),
      ∀ u ∈ entries.map (Entry.url base true), u.HasNoMark := by
    intro base entries u hu
    obtain ⟨e, -, rfl⟩ := List.mem_map.1 hu
    exact hasNoMark_url base e
  rw [ofEntries, ofEntries, ofUrls_inj (hclosed base entries) (hclosed base' entries'),
    ← List.forall₂_eq_eq_eq, List.forall₂_map_left_iff, List.forall₂_map_right_iff]
  simp only [url_eq_iff]

end Document

end Sitemap
