import Sitemap.Proofs.GeneratedModule.Tokens
import Sitemap.Proofs.Source.Statements
import Sitemap.Source.LiteralValue

/-!
# The statements of a generated module

* `entryExpr`, `valueExpr` : the literals of an entry and of all entries as expressions;
* `moduleBody` : the statements of the module;
* `reads_entry`, `reads_value` : the literals are read from their tokens;
* `parseLines?_ofEntries` : the text for entries is read as the statements of the module;
* `literal_valueExpr` : the literal of all entries has their fields as its value.
-/

namespace Sitemap.GeneratedModule

open Source Source.Parser

/-! ## The statements -/

def entryExpr (e : Entry) : Expr :=
  .tuple [textExpr e.template, textExpr e.frequency.keyword, numberExpr e.priority]

def valueExpr (entries : List Entry) : Expr := .tuple (entries.map entryExpr)

def importStmt : Stmt :=
  .importsFrom (some "sitemap_codegen.endpoint") [⟨"register_sitemap", none⟩] 0

def registerCall (escaped : Bool) : Expr :=
  .call (.name "register_sitemap") [.name "app", .name "url", .name "SITEMAP_ENTRIES"]
    [.mk (some "escape") (.constant (.bool escaped))]

def mapStmt (escaped : Bool) : Stmt :=
  .function "map_sitemap" [.plain "app" none, .plain "url" none]
    [.expression (textExpr docstring), .ret (some (registerCall escaped))]

def moduleBody (entries : List Entry) (escaped : Bool) : List Stmt :=
  [importStmt, .assign [.name "SITEMAP_ENTRIES"] (valueExpr entries), mapStmt escaped]

/-! ## Literals -/

section Literals
variable {n : Nat}

theorem reads_quoted (s : String) :
    Reads (rules (n + 1)).expression [textKind s] (textExpr s) := by
  have hquote := quoteFor_eq s.toList
  have hzero : '\x00' ∉ escapedBody (quoteFor s.toList) s.toList := fun hmem =>
    absurd (isShown_of_mem_escapedBody hquote hmem) (by decide)
  have hatom := reads_text (r := rules n) hzero (decodeText?_escapedBody hquote s.toList)
  rw [String.ofList_toList] at hatom
  exact hatom.primary.atom_expression rfl

/-- A number literal, perhaps with a sign, as an expression. -/
theorem reads_number_literal {x : Binary64} (hx : x.IsFinite) :
    Reads (rules (n + 2)).expression (numberKinds x) (numberExpr x) := by
  obtain ⟨s, m, q, hcanonical, rfl⟩ := hx
  have hatom := reads_number (r := rules n) (.float (.finite false m q hcanonical))
  cases s with
  | false => exact (reads_number (r := rules (n + 1)) _).primary.atom_expression rfl
  | true =>
    have hfactor : Reads (rules (n + 1)).factor [.number (.float (.finite false m q hcanonical))]
        (.constant (.float (.finite false m q hcanonical))) := hatom.primary.factor rfl
    exact (hfactor.minus).expression rfl rfl

theorem starNamed_quoted (s : String) :
    Reads (rules (n + 1)).starNamedExpression [textKind s] (textExpr s) :=
  starNamedExpression_reads (reads_quoted s) rfl rfl

theorem starNamed_number {x : Binary64} (hx : x.IsFinite) :
    Reads (rules (n + 2)).starNamedExpression (numberKinds x) (numberExpr x) := by
  have h := reads_number_literal (n := n) hx
  obtain ⟨s, m, q, hcanonical, rfl⟩ := hx
  cases s <;> exact starNamedExpression_reads h rfl rfl

theorem reads_entry {e : Entry} (he : e.priority.IsFinite) :
    Reads (rules (n + 3)).expression (entryKinds e) (entryExpr e) := by
  have hatom : Reads (rules (n + 2)).atom (entryKinds e) (entryExpr e) := by
    refine reads_tuple (starNamed_quoted e.template) ?_ (.inl nofun) rfl rfl rfl fun t rest ht =>
      starNamedExpression_close ht (expressionRule_end (rules (n + 1)) (.inl ht) rest)
    intro item hitem
    simp only [entryItems, List.mem_cons, List.not_mem_nil, or_false] at hitem
    rcases hitem with rfl | rfl
    · exact starNamed_quoted e.frequency.keyword
    · exact starNamed_number he
  exact hatom.primary.atom_expression rfl

def valueKinds (entries : List Entry) : List TokenKind :=
  .op "(" :: (rowsKinds entries ++ [.op ")"])

def furtherItems (entries : List Entry) : List (List TokenKind × Expr) :=
  entries.map fun e => (entryKinds e, entryExpr e)

theorem comma_rowsKinds (entries : List Entry) :
    .op "," :: rowsKinds entries = furtherKinds (furtherItems entries) ++ [.op ","] := by
  induction entries with
  | nil => rfl
  | cons e entries ih =>
    calc .op "," :: rowsKinds (e :: entries)
      _ = .op "," :: (entryKinds e ++ .op "," :: rowsKinds entries) := by
        simp [rowsKinds]
      _ = furtherKinds (furtherItems (e :: entries)) ++ [.op ","] := by
        rw [ih]
        simp [furtherKinds, furtherItems]

theorem valueKinds_cons (e : Entry) (entries : List Entry) :
    valueKinds (e :: entries) = tupleKinds (entryKinds e) (furtherItems entries) true := by
  have hrows : rowsKinds (e :: entries) = entryKinds e ++ .op "," :: rowsKinds entries := by
    simp [rowsKinds]
  rw [valueKinds, hrows, comma_rowsKinds]
  simp [tupleKinds, closingKinds]

/-- The literal of all entries is a tuple, also of none or of one. -/
theorem reads_value {entries : List Entry} (hentries : ∀ e ∈ entries, e.priority.IsFinite) :
    Reads (rules (n + 5)).expression (valueKinds entries) (valueExpr entries) := by
  have hatom : Reads (rules (n + 4)).atom (valueKinds entries) (valueExpr entries) := by
    cases entries with
    | nil => exact reads_emptyTuple
    | cons e entries =>
      have hstar : ∀ e ∈ entries, Reads (rules (n + 4)).starNamedExpression (entryKinds e)
          (entryExpr e) := fun e hmem =>
        starNamedExpression_reads (reads_entry (hentries e (List.mem_cons_of_mem _ hmem))) rfl rfl
      have hexprs : entries.map entryExpr = (furtherItems entries).map (·.2) := by
        rw [furtherItems, List.map_map]
        rfl
      rw [valueKinds_cons, valueExpr, List.map_cons, hexprs]
      refine reads_tuple (starNamedExpression_reads (reads_entry (hentries e List.mem_cons_self))
        rfl rfl) ?_ (.inr rfl) rfl rfl rfl fun t rest ht =>
        starNamedExpression_close ht (expressionRule_end (rules (n + 3)) (.inl ht) rest)
      intro item hitem
      obtain ⟨e, hmem, rfl⟩ := List.mem_map.1 hitem
      exact hstar e hmem
  exact hatom.primary.atom_expression rfl

end Literals

/-! ## Lines -/

section Lines
variable {g : Grammar} {n : Nat} {inner : Parser (List Stmt)}

/-- The line of the import. -/
theorem reads_importStmt : g.ReadsLines inner headerKinds [importStmt] := by
  intro given rest hgiven
  simp only [headerKinds, List.map_eq_cons_iff, List.map_eq_nil_iff] at hgiven
  obtain ⟨⟨_, l1⟩, _, rfl, rfl, ⟨_, l2⟩, _, rfl, rfl, ⟨_, l3⟩, _, rfl, rfl, ⟨_, l4⟩, _, rfl, rfl,
    ⟨_, l5⟩, _, rfl, rfl, ⟨_, l6⟩, _, rfl, rfl, ⟨_, l7⟩, _, rfl, rfl, rfl⟩ := hgiven
  have hnames : IsPlainName "sitemap_codegen" ∧ IsPlainName "endpoint" ∧
      IsPlainName "register_sitemap" := by decide
  have hstatement : g.simpleStatement.run
      (⟨.word "from", l1⟩ :: ⟨.word "sitemap_codegen", l2⟩ :: ⟨.op ".", l3⟩ ::
        ⟨.word "endpoint", l4⟩ :: ⟨.word "import", l5⟩ :: ⟨.word "register_sitemap", l6⟩ ::
        ⟨.newline, l7⟩ :: rest) = some (importStmt, ⟨.newline, l7⟩ :: rest) := by
    unfold Grammar.simpleStatement Grammar.importFromStatement Grammar.levelPoints
      Grammar.dottedName Grammar.importedName Grammar.asName sepBy
    simp [run_many, run_name, hnames, importStmt]
  have hline := simpleLine_run hstatement rfl
  unfold Grammar.statement
  simp [hline]

theorem reads_name_expression {s : String} (hs : IsPlainName s)
    (hstart : (TokenKind.word s).isStart = true) :
    Reads (rules (n + 1)).expression [.word s] (.name s) :=
  (reads_name hs).primary.atom_expression hstart

/-- The line of the assignment, however many lines its text takes. -/
theorem reads_assignment {depth : Nat} {entries : List Entry}
    (hentries : ∀ e ∈ entries, e.priority.IsFinite) :
    Grammar.ReadsLines ⟨rules (n + 5), depth⟩ inner (assignmentKinds entries)
      [.assign [.name "SITEMAP_ENTRIES"] (valueExpr entries)] := by
  intro given rest hgiven
  have hkinds : assignmentKinds entries =
      ([TokenKind.word "SITEMAP_ENTRIES"] ++ TokenKind.op "=" :: valueKinds entries) ++
        [TokenKind.newline] := by
    simp [assignmentKinds, valueKinds]
  rw [hkinds] at hgiven
  obtain ⟨front, last, rfl, hfront, hlast⟩ := List.map_eq_append_iff.1 hgiven
  obtain ⟨t, nothing, rfl, ht, hnothing⟩ := exists_cons_of_map_kind hlast
  obtain rfl := List.map_eq_nil_iff.1 hnothing
  have hname : Reads (rules (n + 5)).expression [.word "SITEMAP_ENTRIES"] (.name "SITEMAP_ENTRIES") :=
    reads_name_expression (by decide) rfl
  have hstatement := assignment_run (g := ⟨rules (n + 5), depth⟩) hname rfl rfl
    (reads_value hentries) rfl rfl hfront ht rest
  obtain ⟨first, others, rfl, hfirst, -⟩ := exists_cons_of_map_kind hfront
  have hbegins : first.kind.beginsExpression = true := by rw [hfirst]; rfl
  rw [List.append_assoc, List.cons_append, statement_beginsExpression hbegins]
  refine simpleLine_run ?_ ht
  rw [simpleStatement_beginsExpression hbegins]
  exact hstatement

/-- The line that says what the function does. -/
theorem reads_docstring {depth : Nat} :
    Grammar.ReadsLines ⟨rules (n + 1), depth⟩ inner docstringKinds
      [.expression (textExpr docstring)] := by
  intro given rest hgiven
  obtain ⟨first, others, rfl, hfirst, hothers⟩ := exists_cons_of_map_kind hgiven
  obtain ⟨t, nothing, rfl, ht, hnothing⟩ := exists_cons_of_map_kind hothers
  obtain rfl := List.map_eq_nil_iff.1 hnothing
  have hatom : Reads (rules n).atom [.text {} docstring.toList] (textExpr docstring) := by
    have h : Reads (rules n).atom [.text {} docstring.toList]
        (.constant (.text (String.ofList docstring.toList) false)) :=
      reads_text (by decide) (decodeText?_plain (by decide))
    rwa [String.ofList_toList] at h
  have hread : Reads (rules (n + 1)).expression [.text {} docstring.toList] (textExpr docstring) :=
    hatom.primary.atom_expression rfl
  have hbegins : first.kind.beginsExpression = true := by rw [hfirst]; rfl
  rw [List.cons_append, statement_beginsExpression hbegins]
  refine simpleLine_run ?_ ht
  rw [simpleStatement_beginsExpression hbegins]
  have hgiven : [first].map (·.kind) = [.text {} docstring.toList] := by
    rw [List.map_singleton, hfirst]
  exact expressionStatement_run (g := ⟨rules (n + 1), depth⟩) hread rfl hgiven ht rest

def argumentKinds (escaped : Bool) : List TokenKind :=
  [.word "app", .op ",", .word "url", .op ",", .word "SITEMAP_ENTRIES", .op ",", .word "escape",
    .op "=", .word (if escaped then "True" else "False"), .op ")"]

theorem run_argument_name {s : String} (hs : IsPlainName s)
    (hstart : (TokenKind.word s).isStart = true) (l : Nat) {t : Token} (ht : t.kind = .op ",")
    (rest : List Token) :
    (rules (n + 1)).argument.run (⟨.word s, l⟩ :: t :: rest) =
      some (.positional (.name s), t :: rest) := by
  have hread : (rules (n + 1)).expression.run (⟨.word s, l⟩ :: t :: rest) =
      some (.name s, t :: rest) :=
    reads_name_expression hs hstart [⟨.word s, l⟩] t rest rfl (.inr (.inl ht))
  unfold Rules.argument Rules.namedExpression
  simp [ht, hread]

/-- The flag is the argument of the keyword. -/
theorem run_argument_escape (escaped : Bool) (l l' l'' : Nat) {t : Token} (ht : t.kind = .op ")")
    (rest : List Token) :
    (rules (n + 1)).argument.run (⟨.word "escape", l⟩ :: ⟨.op "=", l'⟩ ::
        ⟨.word (if escaped then "True" else "False"), l''⟩ :: t :: rest) =
      some (.keyword "escape" (.constant (.bool escaped)), t :: rest) := by
  have hflag : Reads (rules (n + 1)).expression [.word (if escaped then "True" else "False")]
      (.constant (.bool escaped)) :=
    (reads_bool escaped).primary.atom_expression (by cases escaped <;> rfl)
  have hread := hflag [⟨.word (if escaped then "True" else "False"), l''⟩] t rest rfl
    (.inr (.inr (.inl ht)))
  rw [List.singleton_append] at hread
  have hname : (TokenKind.word "escape").isName = true := by decide
  unfold Rules.argument
  simp [hname, run_name (s := "escape") (by decide), hread]

theorem run_arguments {escaped : Bool} {given : List Token}
    (hgiven : given.map (·.kind) = argumentKinds escaped) (rest : List Token) :
    ((rules (n + 1)).arguments true).run (given ++ rest) =
      some (([.name "app", .name "url", .name "SITEMAP_ENTRIES"],
        [.mk (some "escape") (.constant (.bool escaped))]), rest) := by
  simp only [argumentKinds, List.map_eq_cons_iff, List.map_eq_nil_iff] at hgiven
  obtain ⟨⟨_, l1⟩, _, rfl, rfl, ⟨_, l2⟩, _, rfl, rfl, ⟨_, l3⟩, _, rfl, rfl, ⟨_, l4⟩, _, rfl, rfl,
    ⟨_, l5⟩, _, rfl, rfl, ⟨_, l6⟩, _, rfl, rfl, ⟨_, l7⟩, _, rfl, rfl, ⟨_, l8⟩, _, rfl, rfl,
    ⟨_, l9⟩, _, rfl, rfl, ⟨_, l10⟩, _, rfl, rfl, rfl⟩ := hgiven
  have happ := run_argument_name (n := n) (s := "app") (by decide) rfl
  have hurl := run_argument_name (n := n) (s := "url") (by decide) rfl
  have hentries := run_argument_name (n := n) (s := "SITEMAP_ENTRIES") (by decide) rfl
  have hclause := nextIsClause_stop (t := ⟨.op ",", l2⟩) (.inr (.inl rfl))
  unfold Rules.arguments
  simp [happ, hurl, hentries, run_argument_escape, hclause, run_many]
  rfl

/-- The call is read with its positional arguments and its keyword. -/
theorem reads_registerCall (escaped : Bool) :
    Reads (rules (n + 1)).primaryRule
      (.word "register_sitemap" :: .op "(" :: argumentKinds escaped) (registerCall escaped) := by
  intro given t rest hgiven ht
  obtain ⟨⟨_, l⟩, others, rfl, rfl, hothers⟩ := exists_cons_of_map_kind hgiven
  obtain ⟨opening, arguments, rfl, hopening, harguments⟩ := exists_cons_of_map_kind hothers
  have htrailer : (rules (n + 1)).trailer.run (opening :: (arguments ++ t :: rest)) =
      some (fun e => .call e [.name "app", .name "url", .name "SITEMAP_ENTRIES"]
        [.mk (some "escape") (.constant (.bool escaped))], t :: rest) := by
    unfold Rules.trailer
    simp [hopening, run_arguments harguments]
  have hshorter : (t :: rest).length < (opening :: (arguments ++ t :: rest)).length := by
    simp only [List.length_cons, List.length_append]
    omega
  have htrailers := (Repeats.more htrailer hshorter
    (.stop (trailer_stop (rules (n + 1)) ht rest))).run_many
  unfold Rules.primaryRule
  simp [run_atom_name (s := "register_sitemap") (by decide), htrailers, registerCall]

/-- The line that says what the function returns. -/
theorem reads_return {depth : Nat} (escaped : Bool) :
    Grammar.ReadsLines ⟨rules (n + 2), depth⟩ inner (returnKinds escaped)
      [.ret (some (registerCall escaped))] := by
  intro given rest hgiven
  have hkinds : returnKinds escaped = .word "return" ::
      ((TokenKind.word "register_sitemap" :: TokenKind.op "(" :: argumentKinds escaped) ++
        [TokenKind.newline]) := rfl
  rw [hkinds] at hgiven
  obtain ⟨⟨_, l⟩, others, rfl, rfl, hothers⟩ := exists_cons_of_map_kind hgiven
  obtain ⟨call, last, rfl, hcall, hlast⟩ := List.map_eq_append_iff.1 hothers
  obtain ⟨t, nothing, rfl, ht, hnothing⟩ := exists_cons_of_map_kind hlast
  obtain rfl := List.map_eq_nil_iff.1 hnothing
  have hexpr : Reads (rules (n + 2)).expression
      (.word "register_sitemap" :: .op "(" :: argumentKinds escaped) (registerCall escaped) :=
    (reads_registerCall escaped).atom_expression rfl
  have hread := hexpr.starExpressions rfl hcall (t := t) (.inl ht) (by rw [ht]; rfl) rest
  have hstatement : (Grammar.mk (rules (n + 2)) depth).simpleStatement.run
      (⟨.word "return", l⟩ :: (call ++ t :: rest)) =
      some (.ret (some (registerCall escaped)), t :: rest) := by
    unfold Grammar.simpleStatement
    simp [hread]
  have hline := simpleLine_run hstatement ht
  unfold Grammar.statement
  simp [hline]

/-- The block of the function. -/
theorem run_functionBlock {depth d : Nat} {escaped : Bool} {given : List Token} {t : Token}
    (hgiven : given.map (·.kind) = docstringKinds ++ returnKinds escaped) (ht : t.kind = .dedent)
    (rest : List Token) :
    (statements ⟨rules (n + 2), depth⟩ (d + 1)).run (given ++ t :: rest) =
      some ([.expression (textExpr docstring), .ret (some (registerCall escaped))], t :: rest) := by
  have hend : t.kind.IsEnd := .inr (.inl ht)
  refine run_statements (docstringKinds, [.expression (textExpr docstring)])
    [(returnKinds escaped, [.ret (some (registerCall escaped))])] ?_ hend
    (expressionRule_end (rules (n + 1)) hend) (by simpa using hgiven) rest
  intro part hpart
  simp only [List.mem_cons, List.not_mem_nil, or_false] at hpart
  rcases hpart with rfl | rfl
  · exact ⟨reads_docstring, nofun⟩
  · exact ⟨reads_return escaped, nofun⟩

/-- The lines of the function. -/
theorem reads_mapStmt {depth d : Nat} (escaped : Bool) :
    Grammar.ReadsLines ⟨rules (n + 2), depth⟩ (statements ⟨rules (n + 2), depth⟩ (d + 1))
      (functionKinds escaped) [mapStmt escaped] := by
  intro given rest hgiven
  have hkinds : functionKinds escaped =
      defKinds ++ ((docstringKinds ++ returnKinds escaped) ++ [TokenKind.dedent]) := by
    simp [functionKinds]
  rw [hkinds] at hgiven
  obtain ⟨front, others, rfl, hfront, hothers⟩ := List.map_eq_append_iff.1 hgiven
  obtain ⟨body, last, rfl, hbody, hlast⟩ := List.map_eq_append_iff.1 hothers
  obtain ⟨t, nothing, rfl, ht, hnothing⟩ := exists_cons_of_map_kind hlast
  obtain rfl := List.map_eq_nil_iff.1 hnothing
  have hblock : (statements ⟨rules (n + 2), depth⟩ (d + 1)).run (body ++ t :: rest) = _ :=
    run_functionBlock hbody ht rest
  simp only [defKinds, List.map_eq_cons_iff, List.map_eq_nil_iff] at hfront
  obtain ⟨⟨_, l1⟩, _, rfl, rfl, ⟨_, l2⟩, _, rfl, rfl, ⟨_, l3⟩, _, rfl, rfl, ⟨_, l4⟩, _, rfl, rfl,
    ⟨_, l5⟩, _, rfl, rfl, ⟨_, l6⟩, _, rfl, rfl, ⟨_, l7⟩, _, rfl, rfl, ⟨_, l8⟩, _, rfl, rfl,
    ⟨_, l9⟩, _, rfl, rfl, ⟨_, l10⟩, _, rfl, rfl, rfl⟩ := hfront
  have hnames : IsPlainName "map_sitemap" ∧ IsPlainName "app" ∧ IsPlainName "url" := by decide
  unfold Grammar.statement Grammar.functionStatement Grammar.block Rules.parameters Rules.parameter
    commaList indent dedent
  simp [run_name, hnames, run_many, hblock, ht, mapStmt, Rules.areParameters]

end Lines

/-! ## The whole text -/

theorem exists_depth (entries : List Entry) (escaped : Bool) :
    ∃ n, min ((ofEntries entries escaped).toList.length + 2) maxNesting = n + 5 := by
  have hheader : 3 ≤ header.toList.length := by
    rw [toList_header]
    simp only [List.length_append, List.length_cons]
    omega
  have hlength : header.toList.length ≤ (ofEntries entries escaped).toList.length := by
    simp only [ofEntries, ofTexts, String.toList_append, List.length_append]
    omega
  refine ⟨min ((ofEntries entries escaped).toList.length + 2) maxNesting - 5, ?_⟩
  have hmax : maxNesting = 6000 := rfl
  omega

/-- The text for entries is read as the statements of the module. -/
theorem parseLines?_ofEntries {entries : List Entry}
    (hentries : ∀ e ∈ entries, e.priority.IsFinite) (escaped : Bool) :
    parseLines? (ofEntries entries escaped).toList = some (moduleBody entries escaped) := by
  refine parseLines?_of_scans (scans_ofEntries hentries escaped) ⟨_, _, rfl, fun h => by cases h⟩ ?_
  intro given t hgiven ht
  obtain ⟨n, hn⟩ := exists_depth entries escaped
  rw [rulesFor, hn]
  have hend : t.kind.IsEnd := .inr (.inr ht)
  refine run_statements (headerKinds, [importStmt])
    [(assignmentKinds entries, [.assign [.name "SITEMAP_ENTRIES"] (valueExpr entries)]),
      (functionKinds escaped, [mapStmt escaped])] ?_ hend
    (expressionRule_end (rules (n + 4)) hend) (by simpa [moduleKinds] using hgiven) []
  intro part hpart
  simp only [List.mem_cons, List.not_mem_nil, or_false] at hpart
  rcases hpart with rfl | rfl | rfl
  · exact ⟨reads_importStmt, List.cons_ne_nil _ _⟩
  · exact ⟨reads_assignment hentries, List.cons_ne_nil _ _⟩
  · exact ⟨reads_mapStmt escaped, List.cons_ne_nil _ _⟩

end Sitemap.GeneratedModule
