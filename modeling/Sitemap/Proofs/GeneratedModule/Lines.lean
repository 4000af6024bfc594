import Sitemap.GeneratedModule
import Sitemap.Proofs.Lists
import Sitemap.Proofs.Number.Numerals
import Sitemap.Proofs.Source.Quoted
import Sitemap.Proofs.Text.Pieces

/-!
# The lines of a generated module

* `joinLines` : lines, each with its end;
* `moduleLines` : the lines of the module, of which each entry has one;
* `ofEntries_eq_joinLines` : the text for entries has these lines;
* `splitChars_ofEntries` : it splits into them and nothing after the last;
* `isShown_of_mem_ofEntries` : it has no control character but the ends of its lines.
-/

namespace Sitemap.GeneratedModule

open Source

/-! ## Lines -/

def joinLines (lines : List String) : String := String.join (lines.map (· ++ "\n"))

theorem joinLines_append (before after : List String) :
    joinLines (before ++ after) = joinLines before ++ joinLines after := by
  simp [joinLines]

theorem toList_joinLines_cons (line : String) (lines : List String) :
    (joinLines (line :: lines)).toList = line.toList ++ '\n' :: (joinLines lines).toList := by
  simp [joinLines]

theorem splitChars_joinLines {lines : List String} (h : ∀ line ∈ lines, '\n' ∉ line.toList) :
    splitChars '\n' (joinLines lines).toList = lines.map String.toList ++ [[]] := by
  induction lines with
  | nil => rfl
  | cons line lines ih =>
    have hrest := ih fun line hmem => h line (List.mem_cons_of_mem _ hmem)
    rw [splitChars_eq_splitOn] at hrest ⊢
    rw [toList_joinLines_cons, List.splitOn_append_cons_self_of_not_mem (h line List.mem_cons_self),
      hrest]
    rfl

/-! ## The lines of the module -/

def entryLine (e : Entry) : String := "    " ++ entryText e ++ ","

def headerLines : List String :=
  ["# Generated by sitemap-codegen. Do not edit.", "",
    "from sitemap_codegen.endpoint import register_sitemap", ""]

/-- The lines of the assignment: one for each entry between two, or one if there is no entry. -/
def assignmentLines (entries : List Entry) : List String :=
  match entries with
  | [] => ["SITEMAP_ENTRIES = ()"]
  | entries => "SITEMAP_ENTRIES = (" :: (entries.map entryLine ++ [")"])

def footerLines (escaped : Bool) : List String :=
  ["", "", "def map_sitemap(app, url):",
    "    \"\"\"Serve sitemap.xml for the annotated components under ``url``.\"\"\"",
    "    return register_sitemap(app, url, SITEMAP_ENTRIES, escape=" ++
      (if escaped then "True" else "False") ++ ")"]

def moduleLines (entries : List Entry) (escaped : Bool) : List String :=
  headerLines ++ (assignmentLines entries ++ footerLines escaped)

theorem header_eq : header = joinLines headerLines := by
  rw [← String.toList_inj]
  unfold header headerLines
  -- the texts are compared by their characters, which is faster than by their bytes
  repeat rw [toList_joinLines_cons]
  repeat rw [String.toList_append]
  repeat rw [String.toList_ofList]
  rfl

theorem footer_eq (escaped : Bool) : footer escaped = joinLines (footerLines escaped) := by
  rw [← String.toList_inj]
  unfold footer footerLines
  generalize (if escaped then "True" else "False") = switch
  repeat rw [toList_joinLines_cons]
  repeat rw [String.toList_append]
  repeat rw [String.toList_ofList]
  simp only [List.append_assoc, List.cons_append, List.nil_append]
  rfl

theorem rowLine_eq (e : Entry) : rowLine (entryText e) = entryLine e ++ "\n" := by
  rw [← String.toList_inj]
  simp [rowLine, entryLine]

theorem join_rowLine (entries : List Entry) :
    String.join ((entries.map entryText).map rowLine) = joinLines (entries.map entryLine) := by
  have hrow : rowLine ∘ entryText = (· ++ "\n") ∘ entryLine := funext rowLine_eq
  rw [joinLines, List.map_map, List.map_map, hrow]

theorem assignment_eq (entries : List Entry) :
    assignment (entries.map entryText) = joinLines (assignmentLines entries) := by
  rw [← String.toList_inj]
  cases entries with
  | nil =>
    have htext : assignment ([].map entryText) = "SITEMAP_ENTRIES = ()\n" := rfl
    have hlines : assignmentLines [] = ["SITEMAP_ENTRIES = ()"] := rfl
    rw [htext, hlines, toList_joinLines_cons]
    repeat rw [String.toList_ofList]
    rfl
  | cons e entries =>
    have htext : assignment ((e :: entries).map entryText) = "SITEMAP_ENTRIES = (\n" ++
        String.join (((e :: entries).map entryText).map rowLine) ++ ")\n" := rfl
    have hlines : assignmentLines (e :: entries) =
        "SITEMAP_ENTRIES = (" :: ((e :: entries).map entryLine ++ [")"]) := rfl
    rw [htext, hlines, join_rowLine, toList_joinLines_cons, joinLines_append]
    repeat rw [String.toList_append]
    repeat rw [toList_joinLines_cons]
    repeat rw [String.toList_ofList]
    simp only [List.cons_append, List.nil_append]
    rfl

theorem ofEntries_eq_joinLines (entries : List Entry) (escaped : Bool) :
    ofEntries entries escaped = joinLines (moduleLines entries escaped) := by
  rw [ofEntries, ofTexts, header_eq, assignment_eq, footer_eq, moduleLines, joinLines_append,
    joinLines_append, String.append_assoc]

/-! ## Characters -/

theorem isShown_of_isDigit {c : Char} (hc : c.isDigit) : IsShown c := by
  simp only [Char.isDigit, Bool.and_eq_true, decide_eq_true_eq, ge_iff_le,
    UInt32.le_iff_toNat_le] at hc
  exact (show (0x20 : Nat) ≤ 48 by decide).trans hc.1

/-- A finite number is written in shown characters. -/
theorem isShown_of_mem_text {x : Binary64} (hx : x.IsFinite) {c : Char}
    (hc : c ∈ x.text.toList) : IsShown c := by
  obtain ⟨s, m, q, hcanonical, rfl⟩ := hx
  have hchars : ∀ c ∈ (Binary64.finite false m q hcanonical).text.toList, IsShown c := by
    obtain ⟨n, hn, -⟩ := exists_numeral_text hcanonical
    rw [hn]
    intro c hc
    rcases n.mem_chars hc with hdigit | hmark
    · exact isShown_of_isDigit hdigit
    · rcases hmark with rfl | rfl | rfl | rfl <;> decide
  cases s with
  | false => exact hchars c hc
  | true =>
    rw [text_of_negative] at hc
    rcases List.mem_cons.1 hc with rfl | hc
    · decide
    · exact hchars c hc

theorem toList_entryText (e : Entry) :
    (entryText e).toList = '(' :: ((quoted e.template).toList ++ ',' :: ' ' ::
      ((quoted e.frequency.keyword).toList ++ ',' :: ' ' :: (e.priority.text.toList ++ [')']))) := by
  have hjoin : Value.commaSeparated [quoted e.template, quoted e.frequency.keyword,
      e.priority.text] = quoted e.template ++ ", " ++ quoted e.frequency.keyword ++ ", " ++
        e.priority.text := rfl
  simp [entryText, hjoin]

theorem isShown_of_mem_entryLine {e : Entry} (he : e.priority.IsFinite) :
    ∀ c ∈ (entryLine e).toList, IsShown c := by
  have htext : ∀ c ∈ (entryText e).toList, IsShown c := by
    rw [toList_entryText]
    simp only [List.forall_mem_cons, List.forall_mem_append]
    exact ⟨by decide, fun c => isShown_of_mem_quoted, by decide, by decide,
      fun c => isShown_of_mem_quoted, by decide, by decide, fun c => isShown_of_mem_text he,
      by decide, nofun⟩
  rw [entryLine, String.toList_append, String.toList_append, List.forall_mem_append,
    List.forall_mem_append]
  exact ⟨⟨forall_mem_of_all (by decide), htext⟩, forall_mem_of_all (by decide)⟩

theorem isShown_of_all {lines : List String}
    (h : lines.all fun line => line.toList.all fun c => decide (IsShown c)) :
    ∀ line ∈ lines, ∀ c ∈ line.toList, IsShown c :=
  fun line hline => forall_mem_of_all (List.all_eq_true.1 h line hline)

/-- Every line of the module is written in shown characters. -/
theorem isShown_of_mem_moduleLines {entries : List Entry}
    (hentries : ∀ e ∈ entries, e.priority.IsFinite) (escaped : Bool) :
    ∀ line ∈ moduleLines entries escaped, ∀ c ∈ line.toList, IsShown c := by
  have hheader : ∀ line ∈ headerLines, ∀ c ∈ line.toList, IsShown c := by
    refine isShown_of_all ?_
    unfold headerLines
    repeat rw [List.all_cons]
    repeat rw [String.toList_ofList]
    decide
  have hfooter : ∀ line ∈ footerLines escaped, ∀ c ∈ line.toList, IsShown c := by
    refine isShown_of_all ?_
    unfold footerLines
    repeat rw [List.all_cons]
    repeat rw [String.toList_append]
    repeat rw [String.toList_ofList]
    cases escaped <;> decide
  have hassignment : ∀ line ∈ assignmentLines entries, ∀ c ∈ line.toList, IsShown c := by
    cases entries with
    | nil => exact isShown_of_all (by decide)
    | cons e entries =>
      have hrows : ∀ line ∈ (e :: entries).map entryLine, ∀ c ∈ line.toList, IsShown c := by
        intro line hline
        obtain ⟨e, hmem, rfl⟩ := List.mem_map.1 hline
        exact isShown_of_mem_entryLine (hentries e hmem)
      have hlines : assignmentLines (e :: entries) =
          "SITEMAP_ENTRIES = (" :: ((e :: entries).map entryLine ++ [")"]) := rfl
      rw [hlines, List.forall_mem_cons, List.forall_mem_append]
      exact ⟨forall_mem_of_all (by decide), hrows, isShown_of_all (by decide)⟩
  rw [moduleLines, List.forall_mem_append, List.forall_mem_append]
  exact ⟨hheader, hassignment, hfooter⟩

theorem splitChars_ofEntries {entries : List Entry} (hentries : ∀ e ∈ entries, e.priority.IsFinite)
    (escaped : Bool) :
    splitChars '\n' (ofEntries entries escaped).toList =
      (moduleLines entries escaped).map String.toList ++ [[]] := by
  rw [ofEntries_eq_joinLines]
  exact splitChars_joinLines fun line hline hmem =>
    absurd (isShown_of_mem_moduleLines hentries escaped line hline _ hmem) (by decide)

theorem isShown_of_mem_ofEntries {entries : List Entry}
    (hentries : ∀ e ∈ entries, e.priority.IsFinite) (escaped : Bool) {c : Char}
    (hc : c ∈ (ofEntries entries escaped).toList) : IsShown c ∨ c = '\n' := by
  rw [ofEntries_eq_joinLines, joinLines, String.toList_join] at hc
  obtain ⟨line, hline, hc⟩ := List.mem_flatMap.1 hc
  obtain ⟨line, hmem, rfl⟩ := List.mem_map.1 hline
  rw [String.toList_append] at hc
  rcases List.mem_append.1 hc with hc | hc
  · exact .inl (isShown_of_mem_moduleLines hentries escaped line hmem c hc)
  · exact .inr (by simpa using hc)

end Sitemap.GeneratedModule
