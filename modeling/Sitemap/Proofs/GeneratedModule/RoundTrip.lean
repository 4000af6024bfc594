import Sitemap.GeneratedModule.Loading
import Sitemap.Proofs.GeneratedModule.Lines
import Sitemap.Proofs.GeneratedModule.Parsing

/-!
# Reading a generated module back

* `Entry.literal` : the three fields of an entry as one value;
* `literal_valueExpr` : the literal of all entries has their fields as its value;
* `completeLines_ofEntries` : the text for entries has every line ended, and no carriage return;
* `emit_roundtrip` : what is emitted for entries reads back as the entries.
-/

namespace Sitemap

open Source

def Entry.literal (e : Entry) : Value :=
  .tuple [.str e.template, .str e.frequency.keyword, .float e.priority]

namespace GeneratedModule

/-! ## Values -/

theorem literal_textExpr (s : String) : (textExpr s).literal = .ok (.str s) := by
  simp [textExpr, Expr.literal, Constant.value]

theorem literal_numberExpr {x : Binary64} (hx : x.IsFinite) :
    (numberExpr x).literal = .ok (.float x) := by
  obtain ⟨s, m, q, hcanonical, rfl⟩ := hx
  cases s with
  | false => simp [numberExpr, Expr.literal, Constant.value]
  | true =>
    simp only [numberExpr, Expr.literal, Expr.signedNumber?, Expr.number?, Constant.number?]
    rfl

theorem literal_entryExpr {e : Entry} (he : e.priority.IsFinite) :
    (entryExpr e).literal = .ok e.literal := by
  simp only [entryExpr, Expr.literal, Expr.literals, literal_textExpr, literal_numberExpr he]
  rfl

theorem literal_valueExpr {entries : List Entry} (hentries : ∀ e ∈ entries, e.priority.IsFinite) :
    (valueExpr entries).literal = .ok (.tuple (entries.map Entry.literal)) := by
  have hitems : Expr.literals (entries.map entryExpr) = .ok (entries.map Entry.literal) := by
    induction entries with
    | nil => simp [Expr.literals]
    | cons e entries ih =>
      have hrest := ih fun e hmem => hentries e (List.mem_cons_of_mem _ hmem)
      simp only [List.map_cons, Expr.literals, literal_entryExpr (hentries e List.mem_cons_self),
        hrest]
      rfl
  simp only [valueExpr, Expr.literal, hitems]
  rfl

/-! ## The text as a source -/

section Text
variable {entries : List Entry}

theorem carriageReturn_not_mem_ofEntries (hentries : ∀ e ∈ entries, e.priority.IsFinite)
    (escaped : Bool) : '\r' ∉ (ofEntries entries escaped).toList := fun hmem =>
  (isShown_of_mem_ofEntries hentries escaped hmem).elim (absurd · (by decide))
    (absurd · (by decide))

theorem zero_not_mem_ofEntries (hentries : ∀ e ∈ entries, e.priority.IsFinite)
    (escaped : Bool) : '\x00' ∉ (ofEntries entries escaped).toList := fun hmem =>
  (isShown_of_mem_ofEntries hentries escaped hmem).elim (absurd · (by decide))
    (absurd · (by decide))

theorem getLast?_ofEntries (entries : List Entry) (escaped : Bool) :
    (ofEntries entries escaped).toList.getLast? = some '\n' := by
  have hfooter : (footer escaped).toList.getLast? = some '\n' := by
    unfold footer
    rw [String.toList_append, List.getLast?_append, String.toList_ofList]
    rfl
  rw [ofEntries, ofTexts, String.toList_append, List.getLast?_append, hfooter]
  rfl

theorem completeLines_ofEntries (hentries : ∀ e ∈ entries, e.priority.IsFinite) (escaped : Bool) :
    completeLines (ofEntries entries escaped).toList = (ofEntries entries escaped).toList := by
  simp only [completeLines, unifyLines_eq_self (carriageReturn_not_mem_ofEntries hentries escaped),
    getLast?_ofEntries, if_true]

theorem parseInput?_ofEntries (hentries : ∀ e ∈ entries, e.priority.IsFinite) (escaped : Bool) :
    parseInput? (.text (ofEntries entries escaped)) = some (moduleBody entries escaped) := by
  have hzero : (ofEntries entries escaped).toList.contains '\x00' = false := by
    rw [← Bool.not_eq_true, List.contains_iff_mem]
    exact zero_not_mem_ofEntries hentries escaped
  simp only [parseInput?, hzero, Bool.false_eq_true, if_false, parseModule?,
    completeLines_ofEntries hentries, parseLines?_ofEntries hentries]

end Text

/-- What is emitted for entries is read as an import, the assignment of a literal and the function
that serves it with the switch; the literal has the fields of the entries as its value, each entry
takes one line, and no line ends with a carriage return. -/
theorem emit_roundtrip (entries : List Entry) (escaped : Bool)
    (hentries : ∀ e ∈ entries, e.priority.IsFinite) :
    ∃ text value,
      emit (entries.map Entry.toRow) escaped = .ok text ∧
      parseInput? (.text text) = some
        [.importsFrom (some "sitemap_codegen.endpoint") [⟨"register_sitemap", none⟩] 0,
          .assign [.name "SITEMAP_ENTRIES"] value,
          .function "map_sitemap" [.plain "app" none, .plain "url" none]
            [.expression (.constant (.text docstring false)),
              .ret (some (.call (.name "register_sitemap")
                [.name "app", .name "url", .name "SITEMAP_ENTRIES"]
                [.mk (some "escape") (.constant (.bool escaped))]))]] ∧
      value.literal = .ok (.tuple (entries.map Entry.literal)) ∧
      splitChars '\n' text.toList = (moduleLines entries escaped).map String.toList ++ [[]] ∧
      '\r' ∉ text.toList :=
  ⟨ofEntries entries escaped, valueExpr entries, emit_toRow entries escaped,
    parseInput?_ofEntries hentries escaped, literal_valueExpr hentries,
    splitChars_ofEntries hentries escaped, carriageReturn_not_mem_ofEntries hentries escaped⟩

/-- Two entries: a template with both quotes and a line end, and a negative priority. -/
def quotedEntries : List Entry :=
  [⟨"/it's\n\"new\"", .daily, .one⟩, ⟨"", .never, .finite true 1 0 (by decide)⟩]

theorem emit_quotedEntries :
    (∀ e ∈ quotedEntries, e.priority.IsFinite) ∧
    ∃ text value, emit (quotedEntries.map Entry.toRow) true = .ok text ∧
      (parseInput? (.text text)).bind assignedRows? = some value ∧
      value.literal = .ok (.tuple
        [.tuple [.str "/it's\n\"new\"", .str "daily", .float .one],
          .tuple [.str "", .str "never", .float (.finite true 1 0 (by decide))]]) := by
  have hfinite : ∀ e ∈ quotedEntries, e.priority.IsFinite := by
    intro e he
    simp only [quotedEntries, List.mem_cons, List.not_mem_nil, or_false] at he
    rcases he with rfl | rfl <;> exact ⟨_, _, _, _, rfl⟩
  obtain ⟨text, value, htext, hparse, hliteral, -⟩ := emit_roundtrip quotedEntries true hfinite
  exact ⟨hfinite, text, value, htext, by rw [hparse]; rfl, hliteral⟩

end GeneratedModule

end Sitemap
