import Sitemap.Proofs.Source.Lexing
import Sitemap.Proofs.Source.Parsing

/-!
# Reading statements

* `Reads.starExpressions`, `expressionStatement_run`, `assignment_run` : statements of one line;
* `Grammar.ReadsLines` : a statement is read from tokens of given kinds, whatever follows;
* `run_statements` : statements one after another, up to the end of a block;
* `parseLines?_of_scans` : the statements of a whole text.
-/

namespace Sitemap.Source

open Sitemap.Source.Parser

/-! ## Statements of one line -/

/-- The words that begin statements which are no expressions and no assignments. -/
def statementWords : List String :=
  ["return", "import", "from", "raise", "pass", "break", "continue", "del", "yield", "assert",
    "global", "nonlocal", "def", "class", "if", "for", "while", "try", "with", "async", "match"]

def TokenKind.beginsExpression : TokenKind → Bool
  | .word w => !statementWords.contains w
  | .op symbol => symbol != "@"
  | _ => true

section Lines
variable {g : Grammar} {kinds : List TokenKind} {k : TokenKind} {e : Expr}

theorem statement_beginsExpression {t : Token} (ht : t.kind.beginsExpression)
    (inner : Parser (List Stmt)) (rest : List Token) :
    (g.statement inner).run (t :: rest) = g.simpleLine.run (t :: rest) := by
  unfold Grammar.statement
  rw [run_bind, run_peek, Option.bind_some]
  obtain ⟨kind, line⟩ := t
  cases kind with
  | word w =>
    simp only [TokenKind.beginsExpression, statementWords] at ht
    simp only [List.head?_cons, Option.map_some]
    split <;> simp_all
  | op symbol =>
    simp only [TokenKind.beginsExpression] at ht
    simp only [List.head?_cons, Option.map_some]
    split <;> simp_all
  | _ => rfl

theorem simpleStatement_beginsExpression {t : Token} (ht : t.kind.beginsExpression)
    (rest : List Token) :
    g.simpleStatement.run (t :: rest) = g.expressionStatement.run (t :: rest) := by
  unfold Grammar.simpleStatement
  rw [run_bind, run_peek, Option.bind_some]
  obtain ⟨kind, line⟩ := t
  cases kind with
  | word w =>
    simp only [TokenKind.beginsExpression, statementWords] at ht
    simp only [List.head?_cons, Option.map_some]
    split <;> simp_all
  | _ => rfl

/-- An expression before a stop other than a comma is no tuple without brackets. -/
theorem Reads.starExpressions {r : Rules} (h : Reads r.expression (k :: kinds) e)
    (hstar : k.isOp "*" = false) {given : List Token} (hgiven : given.map (·.kind) = k :: kinds)
    {t : Token} (ht : t.kind.IsStop) (hcomma : t.kind.isOp "," = false) (rest : List Token) :
    r.starExpressions.run (given ++ t :: rest) = some (e, t :: rest) := by
  have hread := h given t rest hgiven ht
  obtain ⟨first, others, rfl, rfl, -⟩ := exists_cons_of_map_kind hgiven
  rw [List.cons_append] at hread ⊢
  have hstop : (do op ","; r.starExpression : Parser Expr).run (t :: rest) = none := by
    simp [hcomma]
  have hfirst : r.starExpression.run (first :: (others ++ t :: rest)) = some (e, t :: rest) := by
    unfold Rules.starExpression
    simp [hstar, hread]
  unfold Rules.starExpressions commaList
  simp [hfirst, run_many_stop hstop, hcomma]

theorem simpleLine_run {s : Stmt} {given : List Token} {t : Token} {rest : List Token}
    (hgiven : g.simpleStatement.run given = some (s, t :: rest)) (ht : t.kind = .newline) :
    g.simpleLine.run given = some ([s], rest) := by
  have hstop : (do op ";"; g.simpleStatement : Parser Stmt).run (t :: rest) = none := by
    simp [ht]
  unfold Grammar.simpleLine sepBy
  simp [hgiven, run_many_stop hstop, ht]

theorem expressionStatement_run (h : Reads g.rules.expression (k :: kinds) e)
    (hstar : k.isOp "*" = false) {given : List Token} (hgiven : given.map (·.kind) = k :: kinds)
    {t : Token} (ht : t.kind = .newline) (rest : List Token) :
    g.expressionStatement.run (given ++ t :: rest) = some (.expression e, t :: rest) := by
  have hread := h.starExpressions hstar hgiven (t := t) (.inl ht) (by rw [ht]; rfl) rest
  unfold Grammar.expressionStatement
  simp [hread, ht]

/-- An assignment to one target. -/
theorem assignment_run {target : Expr} {first : TokenKind} {targetKinds : List TokenKind}
    (htarget : Reads g.rules.expression (first :: targetKinds) target)
    (hfirst : first.isOp "*" = false) (hplace : target.isTarget true)
    (h : Reads g.rules.expression (k :: kinds) e) (hstar : k.isOp "*" = false)
    (hyield : k.isWord "yield" = false) {given : List Token}
    (hgiven : given.map (·.kind) = first :: targetKinds ++ .op "=" :: k :: kinds)
    {t : Token} (ht : t.kind = .newline) (rest : List Token) :
    g.expressionStatement.run (given ++ t :: rest) = some (.assign [target] e, t :: rest) := by
  obtain ⟨left, others, rfl, hleft, hothers⟩ := List.map_eq_append_iff.1 hgiven
  obtain ⟨equals, right, rfl, hequals, hright⟩ := exists_cons_of_map_kind hothers
  have htargetRead := htarget.starExpressions hfirst hleft (t := equals)
    (.inr (.inr (.inr hequals))) (by rw [hequals]; rfl) (right ++ t :: rest)
  have hvalue : g.assigned.run (right ++ t :: rest) = some (e, t :: rest) := by
    have hread := h.starExpressions hstar hright (t := t) (.inl ht) (by rw [ht]; rfl) rest
    obtain ⟨value, more, rfl, rfl, -⟩ := exists_cons_of_map_kind hright
    rw [List.cons_append] at hread ⊢
    unfold Grammar.assigned
    simp [hyield, hread]
  have hstop : (do op "="; g.assigned : Parser Expr).run (t :: rest) = none := by simp [ht]
  have hsides : g.assignedSides.run (equals :: (right ++ t :: rest)) = some ([e], t :: rest) := by
    unfold Grammar.assignedSides some1
    simp [hequals, hvalue, run_many_stop hstop]
  rw [List.append_assoc, List.cons_append]
  unfold Grammar.expressionStatement
  simp [htargetRead, hequals, hsides, hplace]

theorem statement_end {t : Token} (ht : t.kind.IsEnd) (hrule : ∀ rest,
    g.rules.expression.run (t :: rest) = none) (inner : Parser (List Stmt)) (rest : List Token) :
    (g.statement inner).run (t :: rest) = none := by
  have hbegins : t.kind.beginsExpression = true := by rcases ht with h | h | h <;> rw [h] <;> rfl
  have hstar : t.kind.isOp "*" = false := by rcases ht with h | h | h <;> rw [h] <;> rfl
  have hsimple : g.simpleStatement.run (t :: rest) = none := by
    rw [simpleStatement_beginsExpression hbegins]
    unfold Grammar.expressionStatement Rules.starExpressions commaList Rules.starExpression
    simp [hstar, hrule]
  rw [statement_beginsExpression hbegins]
  unfold Grammar.simpleLine sepBy
  simp [hsimple]

end Lines

/-! ## Statements one after another -/

/-- Tokens of given kinds are read as statements, whatever follows. -/
def Grammar.ReadsLines (g : Grammar) (inner : Parser (List Stmt)) (kinds : List TokenKind)
    (body : List Stmt) : Prop :=
  ∀ given rest, given.map (·.kind) = kinds →
    (g.statement inner).run (given ++ rest) = some (body, rest)

section Blocks
variable {g : Grammar} {inner : Parser (List Stmt)} {t : Token}

/-- Statements one after another, up to the end of a block. -/
theorem repeats_statements {parts : List (List TokenKind × List Stmt)}
    (hparts : ∀ part ∈ parts, g.ReadsLines inner part.1 part.2 ∧ part.1 ≠ [])
    {tail : List Token} (htail : (g.statement inner).run tail = none)
    {given : List Token} (hgiven : given.map (·.kind) = parts.flatMap (·.1)) :
    Repeats (g.statement inner) (given ++ tail) (parts.map (·.2)) tail := by
  induction parts generalizing given with
  | nil =>
    obtain rfl := List.map_eq_nil_iff.1 hgiven
    exact .stop htail
  | cons part parts ih =>
    obtain ⟨hreads, hnonempty⟩ := hparts part List.mem_cons_self
    obtain ⟨first, others, rfl, hfirst, hothers⟩ := List.map_eq_append_iff.1 hgiven
    have hlength : first ≠ [] := by
      rintro rfl
      exact hnonempty hfirst.symm
    refine .more ?_ ?_ (ih (fun part hmem => hparts part (List.mem_cons_of_mem _ hmem)) hothers)
    · rw [List.append_assoc]
      exact hreads first (others ++ tail) hfirst
    · have hpos := List.length_pos_iff.2 hlength
      simp only [List.length_append]
      omega

/-- A block of at least one statement. -/
theorem run_statements {depth : Nat} (part : List TokenKind × List Stmt)
    (parts : List (List TokenKind × List Stmt))
    (hparts : ∀ p ∈ part :: parts, g.ReadsLines (statements g depth) p.1 p.2 ∧ p.1 ≠ [])
    (ht : t.kind.IsEnd) (hrule : ∀ rest, g.rules.expression.run (t :: rest) = none)
    {given : List Token} (hgiven : given.map (·.kind) = (part :: parts).flatMap (·.1))
    (rest : List Token) :
    (statements g (depth + 1)).run (given ++ t :: rest) =
      some ((part :: parts).flatMap (·.2), t :: rest) := by
  obtain ⟨first, others, rfl, hfirst, hothers⟩ := List.map_eq_append_iff.1 hgiven
  have hstop := statement_end ht hrule (statements g depth) rest
  have hread := (hparts part List.mem_cons_self).1 first (others ++ t :: rest) hfirst
  have hmany := (repeats_statements
    (fun p hmem => hparts p (List.mem_cons_of_mem _ hmem)) hstop hothers).run_many
  rw [List.append_assoc, statements]
  unfold some1
  simp [hread, hmany, List.flatMap]

end Blocks

/-- The statements of a text, by the kinds of its tokens. -/
theorem parseLines?_of_scans {text : List Char} {kinds : List TokenKind} {body : List Stmt}
    (hscans : Scans [] [] .start text (kinds ++ [TokenKind.finish]))
    (hkinds : ∃ k rest, kinds = k :: rest ∧ k ≠ .finish)
    (hbody : ∀ given t, given.map (·.kind) = kinds → t.kind = .finish →
      (statements ⟨rulesFor text.length, min (text.length + 2) maxNesting⟩ maxBlocks).run
        (given ++ [t]) = some (body, [t])) :
    parseLines? text = some body := by
  obtain ⟨tokens, hscan, hmap⟩ := hscans.scan?
  obtain ⟨given, last, rfl, hgiven, hlast⟩ := List.map_eq_append_iff.1 hmap
  obtain ⟨t, nothing, rfl, ht, hnothing⟩ := exists_cons_of_map_kind hlast
  obtain rfl := List.map_eq_nil_iff.1 hnothing
  obtain ⟨k, rest, rfl, hk⟩ := hkinds
  have hread := hbody given t hgiven ht
  obtain ⟨first, others, rfl, rfl, -⟩ := exists_cons_of_map_kind hgiven
  have hfinish : finish.run [t] = some ((), []) := by
    unfold finish
    rw [run_token, ht]
    rfl
  unfold parseLines?
  rw [hscan, Option.bind_eq_bind, Option.bind_some]
  simp only [run_bind, run_peek, Option.bind_some, List.cons_append, List.head?_cons,
    Option.map_some, Option.any_some]
  split
  · rename_i heq
    cases heq
  · rw [List.cons_append] at hread
    simp [hread, hfinish]

end Sitemap.Source
