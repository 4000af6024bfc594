import Sitemap.Proofs.GeneratedModule.Lines
import Sitemap.Proofs.Source.Lexing
import Sitemap.Proofs.Source.Parsing

/-!
# The tokens of a generated module

* `moduleKinds` : the kinds of its tokens;
* `scans_quoted`, `scans_number`, `scans_entry` : the tokens of a literal;
* `scans_rows` : the lines of entries, inside of a bracket;
* `scans_header`, `scans_assignment`, `scans_footer` : the parts of the module;
* `scans_ofEntries` : the tokens of the whole text.
-/

namespace Sitemap.GeneratedModule

open Source

/-! ## Literals -/

def textKind (s : String) : TokenKind :=
  .text {} (escapedBody (quoteFor s.toList) s.toList)

def numberKinds : Binary64 → List TokenKind
  | .finite true m q h => [.op "-", .number (.float (.finite false m q h))]
  | x => [.number (.float x)]

def numberExpr : Binary64 → Expr
  | .finite true m q h => .unary .minus (.constant (.float (.finite false m q h)))
  | x => .constant (.float x)

def textExpr (s : String) : Expr := .constant (.text s false)

/-- The elements of an entry's literal behind the first, with their tokens. -/
def entryItems (e : Entry) : List (List TokenKind × Expr) :=
  [([textKind e.frequency.keyword], textExpr e.frequency.keyword),
    (numberKinds e.priority, numberExpr e.priority)]

def entryKinds (e : Entry) : List TokenKind :=
  tupleKinds [textKind e.template] (entryItems e) false

section Scanning
variable {indents : List (Nat × Nat)} {brackets : List Char} {rest : List Char}
  {kinds : List TokenKind}

theorem scans_quoted (s : String) {d : Char} (hd : d ≠ '"' ∧ d ≠ '\'')
    (h : Scans indents brackets .inside (d :: rest) kinds) :
    Scans indents brackets .inside ((quoted s).toList ++ d :: rest) (textKind s :: kinds) := by
  have hquote := quoteFor_eq s.toList
  have hne : d ≠ quoteFor s.toList := by
    rcases hquote with h | h <;> rw [h]
    · exact hd.2
    · exact hd.1
  rw [toList_quoted, List.append_assoc, List.cons_append]
  refine .text hquote.symm (readText?_escapedBody hquote hne s.toList rest) ?_ h
  simp only [List.length_append, List.length_cons, List.length_nil]
  omega

theorem endsNumber_bracket : EndsNumber ')' := ⟨by decide, by decide⟩

/-- A finite number is one token, or two with its sign. -/
theorem scans_number {x : Binary64} (hx : x.IsFinite)
    (h : Scans indents brackets .inside (')' :: rest) kinds) :
    Scans indents brackets .inside (x.text.toList ++ ')' :: rest) (numberKinds x ++ kinds) := by
  obtain ⟨s, m, q, hcanonical, rfl⟩ := hx
  obtain ⟨⟨d, ds, hchars, hd⟩, hread⟩ := readNumeral?_text hcanonical endsNumber_bracket rest
  have hnumber : Scans indents brackets .inside
      ((Binary64.finite false m q hcanonical).text.toList ++ ')' :: rest)
      (.number (.float (.finite false m q hcanonical)) :: kinds) := by
    rw [hchars] at hread ⊢
    exact .number hd hread h
  cases s with
  | false => exact hnumber
  | true =>
    have hsecond : d ∉ seconds := fun hmem => by
      have hnone : ∀ c ∈ seconds, c.isDigit = false := forall_mem_of_all (by decide)
      rw [hnone d hmem] at hd
      cases hd
    rw [hchars] at hnumber
    rw [text_of_negative, hchars]
    exact .op (by decide) (by simp [endsSymbol, hsecond]) rfl rfl hnumber

theorem entryKinds_append (e : Entry) (kinds : List TokenKind) :
    entryKinds e ++ kinds = .op "(" :: textKind e.template :: .op "," ::
      textKind e.frequency.keyword :: .op "," :: (numberKinds e.priority ++ .op ")" :: kinds) := by
  simp [entryKinds, tupleKinds, furtherKinds, closingKinds, entryItems]

theorem entryText_append (e : Entry) (rest : List Char) :
    (entryText e).toList ++ rest =
      '(' :: ((quoted e.template).toList ++ ',' :: ' ' :: ((quoted e.frequency.keyword).toList ++
        ',' :: ' ' :: (e.priority.text.toList ++ ')' :: rest))) := by
  rw [toList_entryText]
  simp

/-- The literal of an entry, before a comma. -/
theorem scans_entry {e : Entry} (he : e.priority.IsFinite) (hbrackets : brackets.length < 200)
    (h : Scans indents brackets .inside (',' :: rest) kinds) :
    Scans indents brackets .inside ((entryText e).toList ++ ',' :: rest)
      (entryKinds e ++ kinds) := by
  have hopen : nest? ['('] brackets = some ('(' :: brackets) := by simp [nest?, hbrackets]
  have hclose : nest? [')'] ('(' :: brackets) = some brackets := by simp [nest?]
  have hcomma : nest? [','] ('(' :: brackets) = some ('(' :: brackets) := by simp [nest?]
  have hpriority : Scans indents ('(' :: brackets) .inside
      (e.priority.text.toList ++ ')' :: ',' :: rest)
      (numberKinds e.priority ++ .op ")" :: kinds) :=
    scans_number he (.op (by decide) rfl hclose rfl h)
  have hkeyword := scans_quoted e.frequency.keyword (by decide)
    (.op (by decide) rfl hcomma (s := ",") rfl hpriority.gap)
  have htemplate := scans_quoted e.template (by decide)
    (.op (by decide) rfl hcomma (s := ",") rfl hkeyword.gap)
  rw [entryText_append, entryKinds_append]
  refine .op (by decide) ?_ hopen rfl htemplate
  rw [toList_quoted]
  rcases quoteFor_eq e.template.toList with h | h <;> rw [h] <;> rfl

theorem rowLine_append (text : String) (rest : List Char) :
    (rowLine text).toList ++ rest =
      List.replicate 4 ' ' ++ (text.toList ++ ',' :: '\n' :: rest) := by
  simp [rowLine]

/-- The kinds of the tokens of entries inside of a bracket, each with its comma. -/
def rowsKinds (entries : List Entry) : List TokenKind :=
  entries.flatMap fun e => entryKinds e ++ [TokenKind.op ","]

/-- The lines of entries, inside of a bracket. -/
theorem scans_rows {entries : List Entry} (hentries : ∀ e ∈ entries, e.priority.IsFinite)
    (h : Scans indents ['('] .start rest kinds) :
    Scans indents ['('] .start
      ((String.join ((entries.map entryText).map rowLine)).toList ++ rest)
      (rowsKinds entries ++ kinds) := by
  induction entries with
  | nil => simpa [rowsKinds] using h
  | cons e entries ih =>
    have hrest : Scans indents ['('] .inside
        ('\n' :: ((String.join ((entries.map entryText).map rowLine)).toList ++ rest))
        (rowsKinds entries ++ kinds) :=
      (ih fun e hmem => hentries e (List.mem_cons_of_mem _ hmem)).newline_silent nofun (.inr nofun)
    have hline := scans_entry (hentries e List.mem_cons_self) (by decide)
      (.op (by decide) rfl rfl (s := ",") rfl hrest)
    rw [List.map_cons, List.map_cons, String.join_cons, String.toList_append, List.append_assoc,
      rowLine_append, rowsKinds, List.flatMap_cons, List.append_assoc, List.append_assoc]
    rw [entryText_append] at hline ⊢
    exact .line_inside (by decide) nofun hline

end Scanning

/-! ## The parts of the module -/

def headerKinds : List TokenKind :=
  [.word "from", .word "sitemap_codegen", .op ".", .word "endpoint", .word "import",
    .word "register_sitemap", .newline]

/-- The tokens of the assignment. With entries, the line ends between its brackets are none. -/
def assignmentKinds (entries : List Entry) : List TokenKind :=
  .word "SITEMAP_ENTRIES" :: .op "=" :: .op "(" :: (rowsKinds entries ++ [TokenKind.op ")", .newline])

def docstring : String := "Serve sitemap.xml for the annotated components under ``url``."

def defKinds : List TokenKind :=
  [.word "def", .word "map_sitemap", .op "(", .word "app", .op ",", .word "url", .op ")", .op ":",
    .newline, .indent]

def docstringKinds : List TokenKind := [.text {} docstring.toList, .newline]

def returnKinds (escaped : Bool) : List TokenKind :=
  [.word "return", .word "register_sitemap", .op "(", .word "app", .op ",", .word "url", .op ",",
    .word "SITEMAP_ENTRIES", .op ",", .word "escape", .op "=",
    .word (if escaped then "True" else "False"), .op ")", .newline]

def functionKinds (escaped : Bool) : List TokenKind :=
  defKinds ++ (docstringKinds ++ (returnKinds escaped ++ [TokenKind.dedent]))

def returnLine (escaped : Bool) : List Char :=
  "return".toList ++ ' ' :: ("register_sitemap".toList ++ '(' :: ("app".toList ++ ',' :: ' ' ::
    ("url".toList ++ ',' :: ' ' :: ("SITEMAP_ENTRIES".toList ++ ',' :: ' ' :: ("escape".toList ++
    '=' :: ((if escaped then "True" else "False").toList ++ [')', '\n']))))))

theorem toList_header :
    header.toList = '#' :: " Generated by sitemap-codegen. Do not edit.".toList ++ '\n' :: '\n' ::
      ("from".toList ++ ' ' :: ("sitemap_codegen".toList ++ '.' :: ("endpoint".toList ++ ' ' ::
      ("import".toList ++ ' ' :: ("register_sitemap".toList ++ ['\n', '\n']))))) := by
  unfold header
  repeat rw [String.toList_append]
  repeat rw [String.toList_ofList]
  rfl

theorem toList_footer (escaped : Bool) :
    (footer escaped).toList = '\n' :: '\n' :: ("def".toList ++ ' ' :: ("map_sitemap".toList ++
      '(' :: ("app".toList ++ ',' :: ' ' :: ("url".toList ++ ')' :: ':' :: '\n' ::
      (List.replicate 4 ' ' ++ '"' :: '"' :: '"' :: (docstring.toList ++ '"' :: '"' :: '"' ::
      '\n' :: (List.replicate 4 ' ' ++ returnLine escaped))))))) := by
  unfold footer docstring returnLine
  repeat rw [String.toList_append]
  repeat rw [String.toList_ofList]
  rfl

theorem scans_header {rest : List Char} {kinds : List TokenKind}
    (h : Scans [] [] .start rest kinds) :
    Scans [] [] .start (header.toList ++ rest) (headerKinds ++ kinds) := by
  have hline : Scans [] [] .inside
      ("from".toList ++ ' ' :: ("sitemap_codegen".toList ++ '.' :: ("endpoint".toList ++ ' ' ::
        ("import".toList ++ ' ' :: ("register_sitemap".toList ++ '\n' :: '\n' :: rest)))))
      (headerKinds ++ kinds) :=
    .word (by decide) (by decide) <| .gap <|
    .word (by decide) (by decide) <| .op (by decide) rfl rfl rfl <|
    .word (by decide) (by decide) <| .gap <| .word (by decide) (by decide) <| .gap <|
    .word (by decide) (by decide) <| .newline <| .blankLine h
  rw [toList_header]
  simp only [List.cons_append, List.nil_append, List.append_assoc, -String.reduceToList]
  exact .comment (by decide) (.blankLine (.line_flat (by decide) hline))

theorem toList_assignment_nil (rest : List Char) :
    (assignment []).toList ++ rest = "SITEMAP_ENTRIES".toList ++ ' ' :: '=' :: ' ' :: '(' :: ')' ::
      '\n' :: rest := by
  have h : (assignment []).toList =
      "SITEMAP_ENTRIES".toList ++ [' ', '=', ' ', '(', ')', '\n'] := by
    unfold assignment
    repeat rw [String.toList_ofList]
    rfl
  rw [h, List.append_assoc]
  rfl

theorem toList_assignment_cons (text : String) (texts : List String) (rest : List Char) :
    (assignment (text :: texts)).toList ++ rest = "SITEMAP_ENTRIES".toList ++ ' ' :: '=' :: ' ' ::
      '(' :: '\n' :: ((String.join ((text :: texts).map rowLine)).toList ++ ')' :: '\n' :: rest) := by
  have h : "SITEMAP_ENTRIES = (\n".toList =
      "SITEMAP_ENTRIES".toList ++ [' ', '=', ' ', '(', '\n'] := by
    repeat rw [String.toList_ofList]
    rfl
  rw [assignment, String.toList_append, String.toList_append, h]
  · simp only [List.append_assoc, List.cons_append, List.nil_append, -String.reduceToList]
    rfl
  · exact nofun

/-- The assignment takes one line, or one and one for each entry. -/
theorem scans_assignment {entries : List Entry} (hentries : ∀ e ∈ entries, e.priority.IsFinite)
    {rest : List Char} {kinds : List TokenKind} (h : Scans [] [] .start rest kinds) :
    Scans [] [] .start ((assignment (entries.map entryText)).toList ++ rest)
      (assignmentKinds entries ++ kinds) := by
  have hclose : Scans [] ['('] .inside (')' :: '\n' :: rest) (.op ")" :: .newline :: kinds) :=
    .op (by decide) rfl rfl rfl (.newline h)
  cases entries with
  | nil =>
    have hline : Scans [] [] .inside
        ("SITEMAP_ENTRIES".toList ++ ' ' :: '=' :: ' ' :: '(' :: ')' :: '\n' :: rest)
        (assignmentKinds [] ++ kinds) :=
      .word (by decide) (by decide) <| .gap <| .op (by decide) rfl rfl rfl <| .gap <|
      .op (by decide) rfl rfl rfl hclose
    rw [List.map_nil, toList_assignment_nil]
    exact .line_flat (by decide) hline
  | cons e entries =>
    have hrows := scans_rows hentries (hclose.line_inside (n := 0) (by decide) nofun)
    have hline : Scans [] [] .inside
        ("SITEMAP_ENTRIES".toList ++ ' ' :: '=' :: ' ' :: '(' :: '\n' ::
          ((String.join (((e :: entries).map entryText).map rowLine)).toList ++ ')' :: '\n' :: rest))
        (.word "SITEMAP_ENTRIES" :: .op "=" :: .op "(" ::
          (rowsKinds (e :: entries) ++ .op ")" :: .newline :: kinds)) :=
      .word (by decide) (by decide) <| .gap <| .op (by decide) rfl rfl rfl <| .gap <|
      .op (by decide) rfl rfl rfl <| hrows.newline_silent nofun (.inr nofun)
    rw [List.map_cons, toList_assignment_cons, assignmentKinds]
    simp only [List.cons_append, List.append_assoc, List.nil_append] at hline ⊢
    exact .line_flat (by decide) hline

theorem scans_returnLine (escaped : Bool) :
    Scans [(4, 4)] [] .inside (returnLine escaped)
      (returnKinds escaped ++ [.dedent, .finish]) :=
  have hclose : indentTokens? 0 0 [(4, 4)] = some ([.dedent], []) := rfl
  .word (by decide) (by decide) <| .gap <|
  .word (by decide) (by decide) <| .op (by decide) rfl rfl rfl <|
  .word (by decide) (by decide) <| .op (by decide) rfl rfl rfl <| .gap <|
  .word (by decide) (by decide) <| .op (by decide) rfl rfl rfl <| .gap <|
  .word (by decide) (by decide) <| .op (by decide) rfl rfl rfl <| .gap <|
  .word (by decide) (by decide) <| .op (by decide) (by cases escaped <;> rfl) rfl rfl <|
  .word (by cases escaped <;> decide) (by decide) <| .op (by decide) rfl rfl rfl <|
  .newline <| .finish hclose

/-- The lines of the function are indented once, and the indentation ends with the text. -/
theorem scans_footer (escaped : Bool) :
    Scans [] [] .start (footer escaped).toList (functionKinds escaped ++ [TokenKind.finish]) := by
  have hopen : indentTokens? 4 4 [] = some ([.indent], [(4, 4)]) := rfl
  have hsame : indentTokens? 4 4 [(4, 4)] = some ([], [(4, 4)]) := rfl
  have hreturn := (scans_returnLine escaped).line (by decide) hsame
  have hdocstring : Scans [(4, 4)] [] .inside ('"' :: '"' :: '"' :: (docstring.toList ++
      '"' :: '"' :: '"' :: '\n' :: (List.replicate 4 ' ' ++ returnLine escaped)))
      (docstringKinds ++ (returnKinds escaped ++ [.dedent, .finish])) :=
    .text (.inl rfl) (readText?_threefold (forall_mem_of_all (by decide)) (by decide) _)
      (by simp only [List.length_cons, List.length_append]; omega) (.newline hreturn)
  have hblock := hdocstring.line (by decide) hopen
  have hdef : Scans [] [] .inside ("def".toList ++ ' ' :: ("map_sitemap".toList ++
      '(' :: ("app".toList ++ ',' :: ' ' :: ("url".toList ++ ')' :: ':' :: '\n' ::
      (List.replicate 4 ' ' ++ '"' :: '"' :: '"' :: (docstring.toList ++ '"' :: '"' :: '"' ::
      '\n' :: (List.replicate 4 ' ' ++ returnLine escaped)))))))
      (functionKinds escaped ++ [TokenKind.finish]) :=
    .word (by decide) (by decide) <| .gap <|
    .word (by decide) (by decide) <| .op (by decide) rfl rfl rfl <|
    .word (by decide) (by decide) <| .op (by decide) rfl rfl rfl <| .gap <|
    .word (by decide) (by decide) <| .op (by decide) rfl rfl rfl <| .op (by decide) rfl rfl rfl <|
    .newline hblock
  rw [toList_footer]
  exact .blankLine (.blankLine (.line_flat (by decide) hdef))

def moduleKinds (entries : List Entry) (escaped : Bool) : List TokenKind :=
  headerKinds ++ (assignmentKinds entries ++ functionKinds escaped)

theorem scans_ofEntries {entries : List Entry} (hentries : ∀ e ∈ entries, e.priority.IsFinite)
    (escaped : Bool) :
    Scans [] [] .start (ofEntries entries escaped).toList
      (moduleKinds entries escaped ++ [TokenKind.finish]) := by
  rw [moduleKinds, List.append_assoc, List.append_assoc, ofEntries, ofTexts, String.toList_append,
    String.toList_append, List.append_assoc]
  exact scans_header (scans_assignment hentries (scans_footer escaped))

end Sitemap.GeneratedModule
