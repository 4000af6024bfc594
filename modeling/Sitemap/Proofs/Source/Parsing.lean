import Sitemap.Source.Statement

/-!
# Running parsers

* `run_bind`, `run_token`, `run_tryOp`, … : what a combinator does to a token list;
* `run_many_stop`, `Repeats.run_many` : a repetition over given tokens;
* `TokenKind.IsStop`, `TokenKind.isStart` : tokens behind which an operand is complete, and those
  that begin one;
* `Reads` : a rule reads given tokens as an expression, whatever follows behind a stop;
* `Reads.factor`, `Reads.expression` : what is read as an atom is read as an expression.
-/

namespace Sitemap.Source

open Sitemap.Source.Parser

/-! ## Combinators -/

section Run
variable {α β : Type}

@[simp] theorem run_pure (a : α) (given : List Token) :
    (pure a : Parser α).run given = some (a, given) := rfl

@[simp] theorem run_parser_pure (a : α) (given : List Token) :
    (Parser.pure a).run given = some (a, given) := rfl

@[simp] theorem run_fail (given : List Token) : (fail : Parser α).run given = none := rfl

@[simp] theorem run_bind (p : Parser α) (f : α → Parser β) (given : List Token) :
    (p >>= f).run given = (p.run given).bind fun x => (f x.1).run x.2 := by
  show (Parser.bind p f).run given = _
  unfold Parser.run Parser.bind
  cases p given with
  | none => rfl
  | some step =>
    obtain ⟨a, rest, h⟩ := step
    simp only [Option.map_some, Option.bind_some]
    cases f a rest <;> rfl

@[simp] theorem run_orElse (p q : Parser α) (given : List Token) :
    (p.orElse q).run given = (p.run given).or (q.run given) := by
  unfold Parser.run Parser.orElse
  cases p given <;> rfl

@[simp] theorem run_optional (p : Parser α) (given : List Token) :
    (Parser.optional p).run given =
      some (((p.run given).map fun x => (some x.1, x.2)).getD (none, given)) := by
  unfold Parser.optional
  rw [run_orElse, run_bind]
  cases p.run given <;> rfl

@[simp] theorem run_ensure (condition : Bool) (given : List Token) :
    (ensure condition).run given = if condition then some ((), given) else none := by
  unfold ensure
  split <;> rfl

@[simp] theorem run_ofOption (a? : Option α) (given : List Token) :
    (ofOption a?).run given = a?.map fun a => (a, given) := by
  cases a? <;> rfl

@[simp] theorem run_ite (condition : Prop) [Decidable condition] (p q : Parser α)
    (given : List Token) :
    (if condition then p else q).run given = if condition then p.run given else q.run given := by
  split <;> rfl

@[simp] theorem run_peek (given : List Token) :
    peek.run given = some (given.head?.map (·.kind), given) := rfl

@[simp] theorem run_peekSecond (given : List Token) :
    peekSecond.run given = some ((given.drop 1).head?.map (·.kind), given) := rfl

@[simp] theorem run_line (given : List Token) :
    line.run given = some ((given.head?.map (·.line)).getD 0, given) := rfl

@[simp] theorem run_token (f : TokenKind → Option α) (t : Token) (rest : List Token) :
    (token f).run (t :: rest) = (f t.kind).map fun a => (a, rest) := by
  unfold Parser.run token
  cases h : f t.kind <;> simp [h]

/-! ## Repetition -/

@[simp] theorem run_manyUpTo_nil (p : Parser α) (given : List Token) :
    (manyUpTo p []).run given = some ([], given) := rfl

@[simp] theorem run_manyUpTo_cons (p : Parser α) (t : Token) (bound given : List Token) :
    (manyUpTo p (t :: bound)).run given = match p.run given with
      | none => some ([], given)
      | some (a, rest) => ((manyUpTo p bound).run rest).map fun x => (a :: x.1, x.2) := by
  simp only [Parser.run, manyUpTo]
  cases p given with
  | none => rfl
  | some step =>
    obtain ⟨a, rest, h⟩ := step
    simp only [Option.map_some]
    cases manyUpTo p bound rest <;> rfl

theorem run_many (p : Parser α) (given : List Token) :
    (many p).run given = (manyUpTo p given).run given := rfl

theorem run_many_stop {p : Parser α} {given : List Token} (h : p.run given = none) :
    (many p).run given = some ([], given) := by
  rw [run_many]
  cases given with
  | nil => rfl
  | cons t rest => rw [run_manyUpTo_cons, h]

/-- A parser reads values one after another, each from at least one token, and then fails. -/
inductive Repeats (p : Parser α) : List Token → List α → List Token → Prop where
  | stop {given : List Token} (h : p.run given = none) : Repeats p given [] given
  | more {given middle rest : List Token} {a : α} {as : List α} (h : p.run given = some (a, middle))
      (hlength : middle.length < given.length) (hrest : Repeats p middle as rest) :
      Repeats p given (a :: as) rest

theorem Repeats.run_manyUpTo {p : Parser α} {given rest bound : List Token} {as : List α}
    (h : Repeats p given as rest) (hbound : given.length ≤ bound.length) :
    (manyUpTo p bound).run given = some (as, rest) := by
  induction h generalizing bound with
  | @stop given h =>
    cases bound with
    | nil => rfl
    | cons t bound => rw [run_manyUpTo_cons, h]
  | @more given middle rest a as h hlength hrest ih =>
    cases bound with
    | nil =>
      rw [List.length_nil] at hbound
      omega
    | cons t bound =>
      rw [List.length_cons] at hbound
      rw [run_manyUpTo_cons, h]
      have hbound' : middle.length ≤ bound.length := by omega
      simp only [ih hbound', Option.map_some]

theorem Repeats.run_many {p : Parser α} {given rest : List Token} {as : List α}
    (h : Repeats p given as rest) : (many p).run given = some (as, rest) :=
  h.run_manyUpTo (Nat.le_refl _)

end Run

/-! ## Single tokens -/

namespace TokenKind

@[simp] theorem isWord_word (w s : String) : (word w).isWord s = (w == s) := rfl

@[simp] theorem isWord_op (symbol s : String) : (op symbol).isWord s = false := rfl

@[simp] theorem isWord_text (mark : TextMark) (body : List Char) (s : String) :
    (text mark body).isWord s = false := rfl

@[simp] theorem isWord_number (value : Constant) (s : String) :
    (number value).isWord s = false := rfl

@[simp] theorem isWord_newline (s : String) : newline.isWord s = false := rfl

@[simp] theorem isOp_op (symbol s : String) : (op symbol).isOp s = (symbol == s) := rfl

@[simp] theorem isOp_word (w s : String) : (word w).isOp s = false := rfl

@[simp] theorem isOp_text (mark : TextMark) (body : List Char) (s : String) :
    (text mark body).isOp s = false := rfl

@[simp] theorem isOp_number (value : Constant) (s : String) : (number value).isOp s = false := rfl

@[simp] theorem isOp_newline (s : String) : newline.isOp s = false := rfl

@[simp] theorem isNewline_newline : newline.isNewline = true := rfl

end TokenKind

@[simp] theorem run_keyword (s : String) (t : Token) (rest : List Token) :
    (keyword s).run (t :: rest) = if t.kind.isWord s then some ((), rest) else none := by
  unfold keyword
  rw [run_token]
  split <;> rfl

@[simp] theorem run_op (s : String) (t : Token) (rest : List Token) :
    (op s).run (t :: rest) = if t.kind.isOp s then some ((), rest) else none := by
  unfold op
  rw [run_token]
  split <;> rfl

@[simp] theorem run_newline (t : Token) (rest : List Token) :
    newline.run (t :: rest) = if t.kind.isNewline then some ((), rest) else none := by
  unfold newline
  rw [run_token]
  split <;> rfl

@[simp] theorem run_nextIsWord (s : String) (t : Token) (rest : List Token) :
    (nextIsWord s).run (t :: rest) = some (t.kind.isWord s, t :: rest) := rfl

@[simp] theorem run_nextIsOp (s : String) (t : Token) (rest : List Token) :
    (nextIsOp s).run (t :: rest) = some (t.kind.isOp s, t :: rest) := rfl

@[simp] theorem run_tryOp (s : String) (t : Token) (rest : List Token) :
    (tryOp s).run (t :: rest) =
      if t.kind.isOp s then some (true, rest) else some (false, t :: rest) := by
  unfold tryOp
  simp only [run_bind, run_nextIsOp, Option.bind_some, run_ite, run_op, run_pure]
  split <;> rfl

@[simp] theorem run_tryWord (s : String) (t : Token) (rest : List Token) :
    (tryWord s).run (t :: rest) =
      if t.kind.isWord s then some (true, rest) else some (false, t :: rest) := by
  unfold tryWord
  simp only [run_bind, run_nextIsWord, Option.bind_some, run_ite, run_keyword, run_pure]
  split <;> rfl

@[simp] theorem run_nextIsNameBefore (s : String) (t u : Token) (rest : List Token) :
    (nextIsNameBefore s).run (t :: u :: rest) =
      some (t.kind.isName && u.kind.isOp s, t :: u :: rest) := rfl

def IsPlainName (s : String) : Prop :=
  keywords.contains s = false ∧ (s.toList.all fun c => c.val < 0x80) = true

instance (s : String) : Decidable (IsPlainName s) := by unfold IsPlainName; infer_instance

theorem run_name {s : String} (h : IsPlainName s) (line : Nat) (rest : List Token) :
    name.run (⟨.word s, line⟩ :: rest) = some (s, rest) := by
  unfold name
  rw [run_token]
  simp only [h.1, Bool.false_eq_true, if_false, composeCompatibly_of_ascii h.2, Option.map_some]

/-! ## Operands -/

namespace TokenKind

/-- A token behind which no operand goes on. -/
def IsStop (k : TokenKind) : Prop := k = .newline ∨ k = .op "," ∨ k = .op ")" ∨ k = .op "="

/-- A token that no operand begins with. -/
def IsEnd (k : TokenKind) : Prop := k = .op ")" ∨ k = .dedent ∨ k = .finish

/-- A token that an operand can begin with, and that is no operator before it. -/
def isStart : TokenKind → Bool
  | .word s => !(["await", "not", "lambda"].contains s)
  | .op s => !(["+", "-", "~"].contains s)
  | .text _ _ => true
  | .number _ => true
  | _ => false

theorem IsStop.isWord {k : TokenKind} (h : k.IsStop) (s : String) : k.isWord s = false := by
  rcases h with rfl | rfl | rfl | rfl <;> rfl

theorem IsStop.isOp {k : TokenKind} (h : k.IsStop) {s : String} (hs : s ∉ [",", ")", "="]) :
    k.isOp s = false := by
  simp only [List.mem_cons, List.not_mem_nil, or_false, not_or] at hs
  rcases h with rfl | rfl | rfl | rfl <;>
    simp [TokenKind.isOp, Ne.symm hs.1, Ne.symm hs.2.1, Ne.symm hs.2.2]

end TokenKind

/-- A parser reads tokens of given kinds as an expression, whatever follows behind a stop. -/
def Reads (p : Parser Expr) (kinds : List TokenKind) (e : Expr) : Prop :=
  ∀ given t rest, given.map (·.kind) = kinds → t.kind.IsStop →
    p.run (given ++ t :: rest) = some (e, t :: rest)

theorem oneOf_stop {α : Type} (ops : List (String × α)) {t : Token} (ht : t.kind.IsStop)
    (hops : ∀ s ∈ [",", ")", "="], ops.lookup s = none) (rest : List Token) :
    (Rules.oneOf ops).run (t :: rest) = none := by
  unfold Rules.oneOf
  rw [run_token]
  rcases ht with h | h | h | h <;> simp [h, hops]

theorem trailer_stop (r : Rules) {t : Token} (ht : t.kind.IsStop) (rest : List Token) :
    r.trailer.run (t :: rest) = none := by
  unfold Rules.trailer
  simp [ht.isOp (s := ".") (by decide), ht.isOp (s := "(") (by decide),
    ht.isOp (s := "[") (by decide)]

theorem compareOp_stop {t : Token} (ht : t.kind.IsStop) (rest : List Token) :
    Rules.compareOp.run (t :: rest) = none := by
  unfold Rules.compareOp
  simp [oneOf_stop Rules.compareOps ht (by decide), ht.isWord]

section Tower
variable {r : Rules} {p : Parser Expr} {k : TokenKind} {kinds : List TokenKind} {e : Expr}

theorem exists_cons_of_map_kind {given : List Token} (h : given.map (·.kind) = k :: kinds) :
    ∃ first others, given = first :: others ∧ first.kind = k ∧ others.map (·.kind) = kinds := by
  obtain ⟨first, others, rfl, hfirst, hothers⟩ := List.map_eq_cons_iff.1 h
  exact ⟨first, others, rfl, hfirst, hothers⟩

theorem isWord_of_isStart (hk : k.isStart) {s : String} (hs : s ∈ ["await", "not", "lambda"]) :
    k.isWord s = false := by
  cases k with
  | word w =>
    have hne : w ≠ s := by
      rintro rfl
      simp only [TokenKind.isStart, List.contains_iff_mem.2 hs, Bool.not_true] at hk
      cases hk
    simp [TokenKind.isWord, hne]
  | _ => rfl

/-- An atom is read with the attributes, calls and subscripts behind it: none. -/
theorem Reads.primary (h : Reads r.atom kinds e) : Reads r.primaryRule kinds e := by
  intro given t rest hgiven ht
  unfold Rules.primaryRule
  simp [h given t rest hgiven ht, run_many_stop (trailer_stop r ht rest)]

/-- Without a sign and without a power, an operand is a factor. -/
theorem Reads.factor (hk : k.isStart) (h : Reads r.primaryRule (k :: kinds) e) :
    Reads r.factorRule (k :: kinds) e := by
  intro given t rest hgiven ht
  have hprimary := h given t rest hgiven ht
  obtain ⟨first, others, rfl, rfl, -⟩ := exists_cons_of_map_kind hgiven
  rw [List.cons_append] at hprimary ⊢
  have hsign : (Rules.oneOf Rules.signOps).run (first :: (others ++ t :: rest)) = none := by
    unfold Rules.oneOf
    rw [run_token]
    cases hkind : first.kind with
    | op s =>
      rw [hkind] at hk
      obtain ⟨hplus, hminus, htilde⟩ : s ≠ "+" ∧ s ≠ "-" ∧ s ≠ "~" := by
        simpa [TokenKind.isStart] using hk
      simp [Rules.signOps, List.lookup_cons, beq_eq_false_iff_ne.2 hplus,
        beq_eq_false_iff_ne.2 hminus, beq_eq_false_iff_ne.2 htilde]
    | _ => rfl
  have hawait := isWord_of_isStart hk (s := "await") (by decide)
  unfold Rules.factorRule Rules.power
  simp [hsign, hawait, hprimary, ht.isOp (s := "**") (by decide)]

theorem Reads.minus (h : Reads r.factor kinds e) :
    Reads r.factorRule (.op "-" :: kinds) (.unary .minus e) := by
  intro given t rest hgiven ht
  obtain ⟨first, others, rfl, hfirst, hothers⟩ := exists_cons_of_map_kind hgiven
  have hfactor := h others t rest hothers ht
  have hsign : (Rules.oneOf Rules.signOps).run (first :: (others ++ t :: rest)) =
      some (.minus, others ++ t :: rest) := by
    unfold Rules.oneOf
    rw [run_token, hfirst]
    rfl
  unfold Rules.factorRule
  simp [hsign, hfactor]

theorem Reads.leftChain {ops : List (String × BinaryOp)} (h : Reads p kinds e)
    (hops : ∀ s ∈ [",", ")", "="], ops.lookup s = none) :
    Reads (Rules.leftChain ops p) kinds e := by
  intro given t rest hgiven ht
  have hstop : (do
      let op ← Rules.oneOf ops
      return (op, ← p) : Parser (BinaryOp × Expr)).run (t :: rest) = none := by
    simp [oneOf_stop ops ht hops]
  unfold Rules.leftChain
  simp [h given t rest hgiven ht, run_many_stop hstop]

theorem Reads.leftChains {levels : List (List (String × BinaryOp))} (h : Reads p kinds e)
    (hlevels : ∀ ops ∈ levels, ∀ s ∈ [",", ")", "="], ops.lookup s = none) :
    Reads (levels.foldr Rules.leftChain p) kinds e := by
  induction levels with
  | nil => exact h
  | cons ops levels ih =>
    exact (ih fun ops hmem => hlevels ops (List.mem_cons_of_mem _ hmem)).leftChain
      (hlevels ops List.mem_cons_self)

/-- A factor is read with the operators behind it: none. -/
theorem Reads.bitOr (h : Reads r.factorRule kinds e) : Reads r.bitOrRule kinds e :=
  h.leftChains (by decide)

theorem Reads.comparison (h : Reads r.bitOrRule kinds e) : Reads r.comparison kinds e := by
  intro given t rest hgiven ht
  have hstop : (do
      let op ← Rules.compareOp
      return Comparison.mk op (← r.bitOrRule) : Parser Comparison).run (t :: rest) = none := by
    simp [compareOp_stop ht]
  unfold Rules.comparison
  simp [h given t rest hgiven ht, run_many_stop hstop]

theorem Reads.connected {isAnd : Bool} {word : String} (h : Reads p kinds e) :
    Reads (Rules.connected isAnd word p) kinds e := by
  intro given t rest hgiven ht
  have hstop : (do keyword word; p : Parser Expr).run (t :: rest) = none := by
    simp [ht.isWord]
  unfold Rules.connected sepBy
  simp [h given t rest hgiven ht, run_many_stop hstop]

/-- A factor is an expression if no operator follows. -/
theorem Reads.expression (hnot : k.isWord "not" = false) (hlambda : k.isWord "lambda" = false)
    (h : Reads r.factorRule (k :: kinds) e) : Reads r.expressionRule (k :: kinds) e := by
  have hinversion : Reads r.inversionRule (k :: kinds) e := by
    intro given t rest hgiven ht
    have hcomparison := h.bitOr.comparison given t rest hgiven ht
    obtain ⟨first, others, rfl, rfl, -⟩ := exists_cons_of_map_kind hgiven
    rw [List.cons_append] at hcomparison ⊢
    unfold Rules.inversionRule
    simp [hnot, hcomparison]
  have hdisjunction : Reads r.disjunctionRule (k :: kinds) e := hinversion.connected.connected
  intro given t rest hgiven ht
  have hbody := hdisjunction given t rest hgiven ht
  obtain ⟨first, others, rfl, rfl, -⟩ := exists_cons_of_map_kind hgiven
  rw [List.cons_append] at hbody ⊢
  unfold Rules.expressionRule
  simp [hlambda, hbody, ht.isWord]

theorem Reads.atom_expression (hk : k.isStart) (h : Reads r.primaryRule (k :: kinds) e) :
    Reads r.expressionRule (k :: kinds) e :=
  (h.factor hk).expression (isWord_of_isStart hk (by decide)) (isWord_of_isStart hk (by decide))

end Tower

/-! ## Atoms and tuples -/

section Atoms
variable {r : Rules} {kinds : List TokenKind} {e : Expr}

theorem reads_single {p : Parser Expr} {k : TokenKind}
    (h : ∀ line t rest, t.kind.IsStop → p.run (⟨k, line⟩ :: t :: rest) = some (e, t :: rest)) :
    Reads p [k] e := by
  intro given t rest hgiven ht
  obtain ⟨first, others, rfl, rfl, hothers⟩ := exists_cons_of_map_kind hgiven
  obtain rfl := List.map_eq_nil_iff.1 hothers
  exact h first.line t rest ht

theorem run_atom_name {s : String} (h : IsPlainName s) (line : Nat) (rest : List Token) :
    r.atom.run (⟨.word s, line⟩ :: rest) = some (.name s, rest) := by
  have hname : (TokenKind.word s).isName = true := by
    simp only [TokenKind.isName, h.1, Bool.not_false]
  unfold Rules.atom
  simp [hname, run_name h]

theorem reads_name {s : String} (h : IsPlainName s) : Reads r.atom [.word s] (.name s) :=
  reads_single fun line t rest _ => run_atom_name h line (t :: rest)

theorem reads_number (value : Constant) : Reads r.atom [.number value] (.constant value) := by
  refine reads_single fun line t rest _ => ?_
  unfold Rules.atom Rules.constant
  simp [TokenKind.isName]

theorem reads_bool (b : Bool) :
    Reads r.atom [.word (if b then "True" else "False")] (.constant (.bool b)) := by
  refine reads_single fun line t rest _ => ?_
  unfold Rules.atom Rules.constant
  cases b <;> simp [TokenKind.isName, keywords]

theorem reads_text {body cs : List Char} (hzero : '\x00' ∉ body)
    (hbody : decodeText? false body = some (cs.map .char)) :
    Reads r.atom [.text {} body] (.constant (.text (String.ofList cs) false)) := by
  refine reads_single fun line t rest ht => ?_
  have hjoin : Rules.joinLiterals? r.field [({}, body)] =
      some (.constant (.text (String.ofList cs) false)) := by
    simp [Rules.joinLiterals?, Rules.literalParts?, hzero, hbody]
  unfold Rules.atom Rules.textLiteral some1
  simp only [run_bind, run_peek, List.head?_cons, Option.map_some, Option.bind_some, run_token]
  rw [run_many_stop]
  · simp [hjoin]
  · rw [run_token]
    rcases ht with h | h | h | h <;> rw [h] <;> rfl

theorem factorRule_end (r : Rules) {t : Token} (ht : t.kind.IsEnd) (rest : List Token) :
    r.factorRule.run (t :: rest) = none := by
  have hatom : r.atom.run (t :: rest) = none := by
    obtain ⟨k, line⟩ := t
    unfold Rules.atom Rules.constant
    rcases ht with rfl | rfl | rfl <;> simp [TokenKind.isName]
  have hsign : (Rules.oneOf Rules.signOps).run (t :: rest) = none := by
    obtain ⟨k, line⟩ := t
    unfold Rules.oneOf
    rw [run_token]
    rcases ht with rfl | rfl | rfl <;> rfl
  have hawait : t.kind.isWord "await" = false := by rcases ht with h | h | h <;> rw [h] <;> rfl
  unfold Rules.factorRule Rules.power Rules.primaryRule
  simp [hsign, hawait, hatom]

theorem leftChains_fail {p : Parser Expr} {given : List Token} (h : p.run given = none)
    (levels : List (List (String × BinaryOp))) :
    (levels.foldr Rules.leftChain p).run given = none := by
  induction levels with
  | nil => exact h
  | cons ops levels ih =>
    rw [List.foldr_cons]
    unfold Rules.leftChain at ih ⊢
    simp [ih]

theorem connected_fail {p : Parser Expr} {given : List Token} (h : p.run given = none)
    (isAnd : Bool) (word : String) : (Rules.connected isAnd word p).run given = none := by
  unfold Rules.connected sepBy
  simp [h]

/-- At a token that no operand begins with, nothing is read. -/
theorem expressionRule_end (r : Rules) {t : Token} (ht : t.kind.IsEnd) (rest : List Token) :
    r.expressionRule.run (t :: rest) = none := by
  have hword : ∀ s, t.kind.isWord s = false := by
    intro s
    rcases ht with h | h | h <;> rw [h] <;> rfl
  have hbitOr : r.bitOrRule.run (t :: rest) = none :=
    leftChains_fail (factorRule_end r ht rest) Rules.operatorLevels
  have hinversion : r.inversionRule.run (t :: rest) = none := by
    unfold Rules.inversionRule Rules.comparison
    simp [hword, hbitOr]
  have hdisjunction : r.disjunctionRule.run (t :: rest) = none :=
    connected_fail (connected_fail hinversion true "and") false "or"
  unfold Rules.expressionRule
  simp [hword, hdisjunction]

/-! ## Tuples -/

theorem starNamedExpression_reads {k : TokenKind} (h : Reads r.expression (k :: kinds) e)
    (hstar : k.isOp "*" = false) (hname : k.isName = false) :
    Reads r.starNamedExpression (k :: kinds) e := by
  intro given t rest hgiven ht
  have hread := h given t rest hgiven ht
  obtain ⟨first, others, rfl, rfl, -⟩ := exists_cons_of_map_kind hgiven
  rw [List.cons_append] at hread ⊢
  unfold Rules.starNamedExpression Rules.namedExpression nextIsNameBefore
  simp [hstar, hname, hread]

theorem starNamedExpression_close {t : Token} (ht : t.kind = .op ")") {rest : List Token}
    (h : r.expression.run (t :: rest) = none) : r.starNamedExpression.run (t :: rest) = none := by
  unfold Rules.starNamedExpression Rules.namedExpression nextIsNameBefore
  simp [ht, h, TokenKind.isName]

def furtherKinds (items : List (List TokenKind × Expr)) : List TokenKind :=
  items.flatMap fun item => .op "," :: item.1

/-- Elements behind commas are read one after another, up to a bracket or a last comma. -/
theorem repeats_further {p : Parser Expr} {items : List (List TokenKind × Expr)}
    (hitems : ∀ item ∈ items, Reads p item.1 item.2) {tail : List Token}
    (htail : (do op ","; p : Parser Expr).run tail = none)
    (hhead : ∃ t rest, tail = t :: rest ∧ t.kind.IsStop)
    {given : List Token} (hgiven : given.map (·.kind) = furtherKinds items) :
    Repeats (do op ","; p) (given ++ tail) (items.map (·.2)) tail := by
  induction items generalizing given with
  | nil =>
    obtain rfl := List.map_eq_nil_iff.1 hgiven
    exact .stop htail
  | cons item items ih =>
    obtain ⟨comma, others, rfl, hcomma, hothers⟩ := exists_cons_of_map_kind hgiven
    obtain ⟨first, further, rfl, hfirst, hfurther⟩ := List.map_eq_append_iff.1 hothers
    have hrest := ih (fun item hmem => hitems item (List.mem_cons_of_mem _ hmem)) hfurther
    -- behind the element there is the next comma, or the tail
    obtain ⟨t, rest, hafter, hstop⟩ : ∃ t rest, further ++ tail = t :: rest ∧ t.kind.IsStop := by
      cases items with
      | nil =>
        obtain rfl := List.map_eq_nil_iff.1 hfurther
        exact hhead
      | cons next items =>
        obtain ⟨comma, more, rfl, hcomma, -⟩ := exists_cons_of_map_kind hfurther
        exact ⟨comma, _, rfl, .inr (.inl hcomma)⟩
    have hread := hitems item List.mem_cons_self first t rest hfirst hstop
    refine Repeats.more ?_ ?_ hrest
    · rw [List.cons_append, List.append_assoc, hafter]
      simp [hcomma, TokenKind.isOp, hread]
    · simp only [List.length_append, List.length_cons]
      omega

theorem nextIsClause_stop {t : Token} (ht : t.kind.IsStop) (rest : List Token) :
    Rules.nextIsClause.run (t :: rest) = some (false, t :: rest) := by
  unfold Rules.nextIsClause
  simp [ht.isWord]

/-- The tokens behind the last element of a tuple. -/
def closingKinds (last : Bool) : List TokenKind :=
  if last then [.op ",", .op ")"] else [.op ")"]

/-- The tokens of a tuple in brackets, with or without a last comma. -/
def tupleKinds (first : List TokenKind) (items : List (List TokenKind × Expr)) (last : Bool) :
    List TokenKind :=
  .op "(" :: (first ++ (furtherKinds items ++ closingKinds last))

/-- The end of a tuple: no further element, perhaps a comma, and the bracket. -/
theorem closing_run {p : Parser Expr} {last : Bool} {closing : List Token}
    (hclosing : closing.map (·.kind) = closingKinds last)
    (hend : ∀ (t : Token) rest, t.kind = .op ")" → p.run (t :: rest) = none) (rest : List Token) :
    (do op ","; p : Parser Expr).run (closing ++ rest) = none ∧
    (∃ t others, closing ++ rest = t :: others ∧ t.kind.IsStop ∧ (last = true → t.kind = .op ",")) ∧
    ((tryOp ",").run (closing ++ rest)).bind (fun x => (op ")").run x.2) = some ((), rest) := by
  cases last with
  | true =>
    obtain ⟨comma, others, rfl, hcomma, hothers⟩ := exists_cons_of_map_kind hclosing
    obtain ⟨close, nothing, rfl, hclose, hnothing⟩ := exists_cons_of_map_kind hothers
    obtain rfl := List.map_eq_nil_iff.1 hnothing
    refine ⟨?_, ⟨comma, _, rfl, .inr (.inl hcomma), fun _ => hcomma⟩, ?_⟩
    · simp [hcomma, TokenKind.isOp, hend close rest hclose]
    · simp [hcomma, hclose, TokenKind.isOp]
  | false =>
    obtain ⟨close, nothing, rfl, hclose, hnothing⟩ := exists_cons_of_map_kind hclosing
    obtain rfl := List.map_eq_nil_iff.1 hnothing
    refine ⟨?_, ⟨close, _, rfl, .inr (.inr (.inl hclose)), nofun⟩, ?_⟩
    · simp [hclose, TokenKind.isOp]
    · simp [hclose, TokenKind.isOp]

theorem reads_emptyTuple : Reads r.atom [.op "(", .op ")"] (.tuple []) := by
  intro given t rest hgiven ht
  obtain ⟨opening, others, rfl, hopening, hothers⟩ := exists_cons_of_map_kind hgiven
  obtain ⟨closing, nothing, rfl, hclosing, hnothing⟩ := exists_cons_of_map_kind hothers
  obtain rfl := List.map_eq_nil_iff.1 hnothing
  unfold Rules.atom Rules.group
  simp [hopening, hclosing]

/-- Elements in brackets with at least one comma are a tuple. -/
theorem reads_tuple {k : TokenKind} {items : List (List TokenKind × Expr)} {last : Bool}
    (hfirst : Reads r.starNamedExpression (k :: kinds) e)
    (hitems : ∀ item ∈ items, Reads r.starNamedExpression item.1 item.2)
    (hcomma : items ≠ [] ∨ last = true)
    (hclose : k.isOp ")" = false) (hyield : k.isWord "yield" = false) (hstar : k.isOp "*" = false)
    (hend : ∀ (t : Token) rest, t.kind = .op ")" → r.starNamedExpression.run (t :: rest) = none) :
    Reads r.atom (tupleKinds (k :: kinds) items last) (.tuple (e :: items.map (·.2))) := by
  intro given t rest hgiven ht
  obtain ⟨opening, inner, rfl, hopening, hinner⟩ := exists_cons_of_map_kind hgiven
  obtain ⟨front, others, rfl, hfront, hothers⟩ := List.map_eq_append_iff.1 hinner
  obtain ⟨further, closing, rfl, hfurther, hclosing⟩ := List.map_eq_append_iff.1 hothers
  obtain ⟨hstop, ⟨u, after, htail, hu, hlast⟩, hrun⟩ := closing_run hclosing hend (t :: rest)
  have hrepeats := (repeats_further hitems hstop ⟨u, after, htail, hu⟩ hfurther).run_many
  -- behind the first element there is a comma
  obtain ⟨comma, more, hnext, hcommaKind⟩ : ∃ comma more,
      further ++ (closing ++ t :: rest) = comma :: more ∧ comma.kind = .op "," := by
    cases items with
    | nil =>
      obtain rfl := List.map_eq_nil_iff.1 hfurther
      exact ⟨u, after, htail, hlast (by simpa using hcomma)⟩
    | cons item items =>
      obtain ⟨comma, more, rfl, hkind, -⟩ := exists_cons_of_map_kind hfurther
      exact ⟨comma, _, rfl, hkind⟩
  have hread := hfirst front comma more hfront (.inr (.inl hcommaKind))
  rw [hnext] at hrepeats
  obtain ⟨first, front, rfl, rfl, -⟩ := exists_cons_of_map_kind hfront
  have hclause := nextIsClause_stop (t := comma) (.inr (.inl hcommaKind)) more
  unfold Rules.atom Rules.group
  simp only [List.cons_append, List.append_assoc, hnext] at hread ⊢
  have hcommaOp : comma.kind.isOp "," = true := by rw [hcommaKind]; rfl
  obtain ⟨x, hx, hbracket⟩ := Option.bind_eq_some_iff.1 hrun
  simp [hopening, hclose, hyield, hstar, hread, hclause, hcommaOp, hrepeats, hx, hbracket]

end Atoms

end Sitemap.Source
