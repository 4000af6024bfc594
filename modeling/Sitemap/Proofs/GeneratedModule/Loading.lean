import Sitemap.Proofs.Except
import Sitemap.Proofs.GeneratedModule.RoundTrip

/-!
# Running a generated module

* `Entry.literalRow` : the row of an entry as a bare tuple;
* `evaluate_valueExpr` : the literal of all entries has their fields as its value when it runs;
* `load_ofEntries` : a generated module offers its entries as bare tuples, with its switch.
-/

namespace Sitemap

open Source

def Entry.literalRow (e : Entry) : Row :=
  .literal [.str e.template, .str e.frequency.keyword, .float e.priority]

theorem Entry.fields_literalRow (e : Entry) : e.literalRow.fields = e.toRow.fields := rfl

namespace GeneratedModule

/-! ## Values -/

theorem evaluate_textExpr (s : String) : (textExpr s).evaluate = .ok (.str s) := by
  simp [textExpr, Expr.evaluate, Expr.operandName?, Expr.literal, Constant.value, mapError_ok]

/-- A number has its literal as value: no name stands among its operands. -/
theorem evaluate_numberExpr {x : Binary64} (hx : x.IsFinite) :
    (numberExpr x).evaluate = .ok (.float x) := by
  have hliteral := literal_numberExpr hx
  obtain ⟨s, m, q, hcanonical, rfl⟩ := hx
  cases s with
  | false =>
    unfold numberExpr at hliteral ⊢
    simp [Expr.evaluate, Expr.operandName?, hliteral, mapError_ok]
  | true =>
    unfold numberExpr at hliteral ⊢
    simp [Expr.evaluate, Expr.operandName?, hliteral, mapError_ok]

theorem evaluate_entryExpr {e : Entry} (he : e.priority.IsFinite) :
    (entryExpr e).evaluate = .ok e.literal := by
  simp only [entryExpr, Expr.evaluate, Expr.evaluateAll, evaluate_textExpr, evaluate_numberExpr he]
  rfl

section Entries
variable {entries : List Entry}

theorem evaluate_valueExpr (hentries : ∀ e ∈ entries, e.priority.IsFinite) :
    (valueExpr entries).evaluate = .ok (.tuple (entries.map Entry.literal)) := by
  have hitems : Expr.evaluateAll (entries.map entryExpr) = .ok (entries.map Entry.literal) := by
    induction entries with
    | nil => simp [Expr.evaluateAll]
    | cons e entries ih =>
      rw [List.forall_mem_cons] at hentries
      simp only [List.map_cons, Expr.evaluateAll, evaluate_entryExpr hentries.1, ih hentries.2]
      rfl
  simp only [valueExpr, Expr.evaluate, hitems]
  rfl

/-! ## Rows -/

theorem rowsOf?_literals (entries : List Entry) :
    rowsOf? (.tuple (entries.map Entry.literal)) = some (entries.map Entry.literalRow) := by
  unfold rowsOf?
  induction entries with
  | nil => rfl
  | cons e entries ih =>
    dsimp only at ih
    simp only [List.map_cons, List.mapM_cons, ih]
    rfl

theorem load_ofEntries (hentries : ∀ e ∈ entries, e.priority.IsFinite) (escaped : Bool) :
    load (ofEntries entries escaped) = .ok ⟨entries.map Entry.literalRow, escaped⟩ := by
  have hassigned : assignedRows? (moduleBody entries escaped) = some (valueExpr entries) := rfl
  have hescapes : escapes? (moduleBody entries escaped) = some escaped := rfl
  unfold load
  simp only [parseInput?_ofEntries hentries, hassigned, hescapes, evaluate_valueExpr hentries,
    rowsOf?_literals]

end Entries

end GeneratedModule

end Sitemap
