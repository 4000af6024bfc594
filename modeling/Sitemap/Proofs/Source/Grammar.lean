import Sitemap.Proofs.Source.Order
import Sitemap.Proofs.Source.Parsing
import Sitemap.Proofs.Source.Places
import Sitemap.Source.Encoding

/-!
# The lines of classes

* `Parser.Ensures` : what holds of the tokens read so far is turned by a parser into what holds of
  them and of its value, with a rule for each combinator;
* `Reached`, `Passed` : lines that the tokens read so far have come to, and have got behind the end
  of;
* `Adds` : the lines of what a parser reads come behind those before it;
* `adds_block`, `adds_ifStatement`, … : so it is for each statement with blocks;
* `parseInput?_lines` : the classes of a text begin on different lines, in order.
-/

namespace Sitemap.Source

open Sitemap.Source.Parser

/-! ## Before and after a parser -/

/-- If the tokens read so far have a property, then after the parser they have the property that its
value asks for. The tokens of the text stand in order. -/
def Parser.Ensures {α : Type} (p : Parser α) (before : List Token → Prop)
    (after : α → List Token → Prop) : Prop :=
  ∀ read given a rest, (read ++ given).Pairwise Token.Before → before read →
    p.run given = some (a, rest) → ∃ more, given = more ++ rest ∧ after a (read ++ more)

/-- A property that more tokens do not take away. -/
def Lasting (P : List Token → Prop) : Prop := ∀ read more, P read → P (read ++ more)

theorem exists_of_run {α : Type} {p : Parser α} {given rest : List Token} {a : α}
    (h : p.run given = some (a, rest)) : ∃ more, given = more ++ rest := by
  obtain ⟨step, -, heq⟩ := Option.map_eq_some_iff.1 h
  obtain ⟨more, hmore⟩ := step.rest_suffix
  obtain ⟨-, rfl⟩ := Prod.mk.inj heq
  exact ⟨more, hmore.symm⟩

namespace Parser.Ensures
variable {α β : Type} {p q : Parser α} {f : α → Parser β} {P P' : List Token → Prop}
  {Q Q' : α → List Token → Prop} {R : β → List Token → Prop}

theorem weaken (h : p.Ensures P Q) (hP : ∀ read, P' read → P read)
    (hQ : ∀ a read, Q a read → Q' a read) : p.Ensures P' Q' := by
  intro read given a rest hord hread hrun
  obtain ⟨more, rfl, hmore⟩ := h read given a rest hord (hP _ hread) hrun
  exact ⟨more, rfl, hQ _ _ hmore⟩

theorem pure {a : α} (h : ∀ read, P read → Q a read) : (Pure.pure a : Parser α).Ensures P Q := by
  intro read given b rest _ hread hrun
  cases hrun
  exact ⟨[], rfl, by simpa using h read hread⟩

theorem bind (h : p.Ensures P Q) (hf : ∀ a, (f a).Ensures (Q a) R) : (p >>= f).Ensures P R := by
  intro read given b rest hord hread hrun
  rw [run_bind] at hrun
  obtain ⟨⟨a, middle⟩, hp, hrest⟩ := Option.bind_eq_some_iff.1 hrun
  obtain ⟨first, rfl, hfirst⟩ := h read given a middle hord hread hp
  rw [← List.append_assoc] at hord
  obtain ⟨second, rfl, hsecond⟩ := hf a (read ++ first) middle b rest hord hfirst hrest
  exact ⟨first ++ second, by simp, by simpa using hsecond⟩

theorem lasting (hP : Lasting P) : p.Ensures P fun _ => P := by
  intro read given a rest _ hread hrun
  obtain ⟨more, rfl⟩ := exists_of_run hrun
  exact ⟨more, rfl, hP _ _ hread⟩

/-- A parser whose value does not matter is passed over. -/
theorem skip (hP : Lasting P) (hf : ∀ a, (f a).Ensures P R) : (p >>= f).Ensures P R :=
  bind (lasting hP) hf

/-- A fact that does not depend on the tokens. -/
theorem of_fact {fact : Prop} (h : fact → p.Ensures P Q) :
    p.Ensures (fun read => P read ∧ fact) Q :=
  fun read given a rest hord hread hrun => h hread.2 read given a rest hord hread.1 hrun

theorem ite {c : Prop} [Decidable c] (hp : p.Ensures P Q) (hq : q.Ensures P Q) :
    (if c then p else q).Ensures P Q := by
  split
  · exact hp
  · exact hq

theorem fail : (Parser.fail : Parser α).Ensures P Q := by
  intro read given a rest _ _ hrun
  cases hrun

theorem orElse (hp : p.Ensures P Q) (hq : q.Ensures P Q) : (p.orElse q).Ensures P Q := by
  intro read given a rest hord hread hrun
  rw [run_orElse, Option.or_eq_some_iff] at hrun
  rcases hrun with hrun | ⟨-, hrun⟩
  · exact hp read given a rest hord hread hrun
  · exact hq read given a rest hord hread hrun

/-- A property that each value of a repetition hands on. -/
theorem many {I : List α → List Token → Prop}
    (h : ∀ as, p.Ensures (I as) fun a => I (as ++ [a])) : (many p).Ensures (I []) I := by
  have hbound : ∀ (bound : List Token) (as : List α),
      (manyUpTo p bound).Ensures (I as) fun others => I (as ++ others) := by
    intro bound
    induction bound with
    | nil => exact fun as => pure fun read hread => by simpa using hread
    | cons t bound ih =>
      intro as read given others rest hord hread hrun
      rw [run_manyUpTo_cons] at hrun
      cases hp : p.run given with
      | none =>
        rw [hp] at hrun
        cases hrun
        exact ⟨[], rfl, by simpa using hread⟩
      | some result =>
        obtain ⟨a, middle⟩ := result
        rw [hp] at hrun
        obtain ⟨⟨others, _⟩, hrest, heq⟩ := Option.map_eq_some_iff.1 hrun
        cases heq
        obtain ⟨first, rfl, hfirst⟩ := h as read given a middle hord hread hp
        rw [← List.append_assoc] at hord
        obtain ⟨second, rfl, hsecond⟩ := ih _ _ _ _ _ hord hfirst hrest
        exact ⟨first ++ second, by simp, by simpa using hsecond⟩
  intro read given as rest hord hread hrun
  exact hbound given [] read given as rest hord hread hrun

theorem sepBy {separator : Parser Unit} {I : List α → List Token → Prop}
    (hI : ∀ as, Lasting (I as)) (h : ∀ as, p.Ensures (I as) fun a => I (as ++ [a])) :
    (sepBy p separator).Ensures (I []) I := by
  refine (h []).bind fun first => ?_
  refine (many (I := fun others => I (first :: others)) fun others =>
    skip (hI _) fun _ => h (first :: others)).bind ?_
  exact fun others => pure fun read hread => hread

end Parser.Ensures

/-! ## Lines -/

/-- Lines one below the other, each on that of a token read or above it. -/
def Reached (ls : List Nat) (read : List Token) : Prop :=
  ls.Pairwise (· < ·) ∧ ∀ l ∈ ls, ∃ t ∈ read, l ≤ t.line

/-- Lines one below the other, each on a line whose end has been read or above it. -/
def Passed (ls : List Nat) (read : List Token) : Prop :=
  ls.Pairwise (· < ·) ∧ ∀ l ∈ ls, ∃ t ∈ read, t.kind = .newline ∧ l ≤ t.line

theorem Reached.lasting (ls : List Nat) : Lasting (Reached ls) := by
  rintro read more ⟨hsorted, hlines⟩
  refine ⟨hsorted, fun l hl => ?_⟩
  obtain ⟨t, ht, hle⟩ := hlines l hl
  exact ⟨t, List.mem_append_left more ht, hle⟩

theorem Passed.lasting (ls : List Nat) : Lasting (Passed ls) := by
  rintro read more ⟨hsorted, hlines⟩
  refine ⟨hsorted, fun l hl => ?_⟩
  obtain ⟨t, ht, hnewline, hle⟩ := hlines l hl
  exact ⟨t, List.mem_append_left more ht, hnewline, hle⟩

theorem Passed.reached {ls : List Nat} {read : List Token} (h : Passed ls read) :
    Reached ls read := by
  refine ⟨h.1, fun l hl => ?_⟩
  obtain ⟨t, ht, -, hle⟩ := h.2 l hl
  exact ⟨t, ht, hle⟩

/-- At the end of a line, the lines reached are behind. -/
theorem newline_ensures (ls : List Nat) :
    newline.Ensures (Reached ls) fun _ => Passed ls := by
  intro read given a rest hord hread hrun
  cases given with
  | nil => cases hrun
  | cons t given =>
    rw [run_newline] at hrun
    split at hrun
    · rename_i hnewline
      cases hrun
      have hkind : t.kind = .newline := by
        cases hk : t.kind with
        | newline => rfl
        | _ => rw [hk] at hnewline; cases hnewline
      refine ⟨[t], rfl, hread.1, fun l hl => ?_⟩
      obtain ⟨u, hu, hle⟩ := hread.2 l hl
      have hbefore := (List.pairwise_append.1 hord).2.2 u hu t List.mem_cons_self
      exact ⟨t, by simp, hkind, Nat.le_trans hle hbefore.1⟩
    · cases hrun

/-- The line of the next token comes behind the lines whose ends have been read. -/
theorem Passed.reached_next {ls : List Nat} {read given : List Token} {t : Token}
    (h : Passed ls read) (hord : (read ++ t :: given).Pairwise Token.Before) :
    Reached (ls ++ [t.line]) (read ++ [t]) := by
  have hlt : ∀ l ∈ ls, l < t.line := by
    intro l hl
    obtain ⟨u, hu, hnewline, hle⟩ := h.2 l hl
    have hbefore := (List.pairwise_append.1 hord).2.2 u hu t List.mem_cons_self
    exact Nat.lt_of_le_of_lt hle (hbefore.2 hnewline)
  refine ⟨List.pairwise_append.2 ⟨h.1, List.pairwise_singleton _ _, by simpa using hlt⟩, ?_⟩
  intro l hl
  refine ⟨t, by simp, ?_⟩
  rcases List.mem_append.1 hl with hl | hl
  · exact Nat.le_of_lt (hlt l hl)
  · exact Nat.le_of_eq (List.mem_singleton.1 hl)

/-- A word read on a line reaches it. -/
theorem line_keyword_ensures {β : Type} {ls : List Nat} {word : String} {f : Nat → Parser β}
    {R : β → List Token → Prop} (hf : ∀ l, (f l).Ensures (Reached (ls ++ [l])) R) :
    (do
      let l ← line
      keyword word
      f l).Ensures (Passed ls) R := by
  intro read given b rest hord hread hrun
  rw [run_bind, run_line, Option.bind_some, run_bind] at hrun
  cases given with
  | nil => cases hrun
  | cons t given =>
    obtain ⟨⟨_, middle⟩, hkeyword, hrest⟩ := Option.bind_eq_some_iff.1 hrun
    rw [run_keyword] at hkeyword
    split at hkeyword
    · cases hkeyword
      have hreached := hread.reached_next hord
      rw [List.append_cons] at hord
      obtain ⟨more, rfl, hmore⟩ := hf t.line (read ++ [t]) given b rest hord hreached hrest
      exact ⟨t :: more, rfl, by simpa using hmore⟩
    · cases hkeyword

/-! ## Statements -/

/-- The lines at which the classes of a body begin. -/
def classLines (body : List Stmt) : List Nat := (classesOf body).map (·.line)

/-- The lines at which the classes of a statement begin. -/
def Stmt.classLines (s : Stmt) : List Nat := s.classes.map (·.line)

theorem classLines_nil : classLines [] = [] := rfl

theorem classLines_cons (s : Stmt) (body : List Stmt) :
    classLines (s :: body) = s.classLines ++ classLines body := by
  rw [classLines, classesOf, List.map_append]
  rfl

theorem classLines_append (body rest : List Stmt) :
    classLines (body ++ rest) = classLines body ++ classLines rest := by
  simp [classLines, classesOf_eq_flatMap]

/-- The names around classes do not change their lines. -/
theorem map_line_within (scopes : List String) (cs : List ClassSite) :
    (cs.map (ClassSite.within scopes)).map (·.line) = cs.map (·.line) := by
  rw [List.map_map]
  rfl

/-- The lines of what a parser reads come behind those before it, whose ends have been read, and
their own ends are read too. -/
def Adds {α : Type} (p : Parser α) (lines : α → List Nat) : Prop :=
  ∀ ls, p.Ensures (Passed ls) fun a => Passed (ls ++ lines a)

theorem Adds.many {α : Type} {p : Parser α} {lines : α → List Nat} (h : Adds p lines) :
    Adds (Parser.many p) (·.flatMap lines) := by
  intro ls
  have hmany := Parser.Ensures.many (p := p)
    (I := fun as => Passed (ls ++ as.flatMap lines)) fun as => by
      refine (h (ls ++ as.flatMap lines)).weaken (fun _ => id) fun a read hread => ?_
      simpa using hread
  simpa using hmany

theorem Adds.some1 {α : Type} {p : Parser α} {lines : α → List Nat} (h : Adds p lines) :
    Adds (Parser.some1 p) (·.flatMap lines) := by
  intro ls
  refine (h ls).bind fun first => (h.many _).bind fun others => .pure fun read hread => ?_
  simpa using hread

section Statements
variable {g : Grammar} {inner : Parser (List Stmt)} {ls : List Nat}

/-- Every value that a parser reads has a property. -/
def Parser.Returns {α : Type} (p : Parser α) (q : α → Prop) : Prop :=
  ∀ given a rest, p.run given = some (a, rest) → q a

namespace Parser.Returns
variable {α β : Type} {p p' : Parser α} {f : α → Parser β} {q : α → Prop} {r : β → Prop}

theorem pure {a : α} (h : q a) : (Pure.pure a : Parser α).Returns q := by
  intro given b rest hrun
  cases hrun
  exact h

theorem bind (hf : ∀ a, (f a).Returns r) : (p >>= f).Returns r := by
  intro given b rest hrun
  rw [run_bind] at hrun
  obtain ⟨⟨a, middle⟩, -, hrest⟩ := Option.bind_eq_some_iff.1 hrun
  exact hf a middle b rest hrest

theorem ite {c : Prop} [Decidable c] (hp : p.Returns q) (hp' : p'.Returns q) :
    (if c then p else p').Returns q := by
  split
  · exact hp
  · exact hp'

end Parser.Returns

theorem Parser.Ensures.and_returns {α : Type} {p : Parser α} {q : α → Prop}
    {P : List Token → Prop} {Q : α → List Token → Prop} (h : p.Ensures P Q) (hq : p.Returns q) :
    p.Ensures P fun a read => Q a read ∧ q a := by
  intro read given a rest hord hread hrun
  obtain ⟨more, rfl, hmore⟩ := h read given a rest hord hread hrun
  exact ⟨more, rfl, hmore, hq _ a rest hrun⟩

def Stmt.HasNoClass (s : Stmt) : Prop := s.classes = []

theorem expressionStatement_returns (g : Grammar) :
    g.expressionStatement.Returns Stmt.HasNoClass := by
  unfold Grammar.expressionStatement
  refine .bind fun first => .bind fun isAssign => .ite ?_ ?_
  · exact .bind fun sides => .bind fun _ => .pure rfl
  refine .bind fun isAnnotated => .ite ?_ ?_
  · refine .bind fun _ => .bind fun _ => .bind fun hasValue => .ite ?_ ?_
    · exact .bind fun _ => .pure rfl
    · exact .pure rfl
  refine .bind fun next => .ite ?_ ?_
  · exact .bind fun _ => .bind fun _ => .bind fun _ => .pure rfl
  · exact .pure rfl

theorem importFromStatement_returns : Grammar.importFromStatement.Returns Stmt.HasNoClass := by
  unfold Grammar.importFromStatement
  refine .bind fun _ => .bind fun level => .bind fun _ => ?_
  have hnames : ∀ source, (do
      keyword "import"
      if ← tryOp "*" then return .importsFrom source [⟨"*", none⟩] level
      else if ← tryOp "(" then
        let names ← commaList Grammar.importedName
        op ")"
        return .importsFrom source names.1 level
      else
        let names ← sepBy Grammar.importedName (op ",")
        return .importsFrom source names level : Parser Stmt).Returns Stmt.HasNoClass := by
    intro source
    refine .bind fun _ => .bind fun _ => .ite (.pure rfl) ?_
    refine .bind fun _ => .ite ?_ ?_
    · exact .bind fun _ => .bind fun _ => .pure rfl
    · exact .bind fun _ => .pure rfl
  exact .ite (.bind fun _ => hnames _) (.bind fun _ => hnames _)

/-- A statement without a block holds no class. -/
theorem simpleStatement_returns (g : Grammar) : g.simpleStatement.Returns Stmt.HasNoClass := by
  unfold Grammar.simpleStatement
  refine .bind fun next => ?_
  -- a word may be one of the keywords, in the order of the rule
  split
  · split
    · exact .bind fun _ => .bind fun _ => .pure rfl
    · exact .bind fun _ => .bind fun _ => .pure rfl
    · exact importFromStatement_returns
    · refine .bind fun _ => .bind fun cause => ?_
      split
      · exact .bind fun _ => .ite (.bind fun _ => .pure rfl) (.pure rfl)
      · exact .pure rfl
    · exact .bind fun _ => .pure rfl
    · exact .bind fun _ => .pure rfl
    · exact .bind fun _ => .pure rfl
    · exact .bind fun _ => .bind fun _ => .bind fun _ => .pure rfl
    · exact .bind fun _ => .pure rfl
    · exact .bind fun _ => .bind fun _ => .bind fun _ =>
        .ite (.bind fun _ => .pure rfl) (.pure rfl)
    · exact .bind fun _ => .bind fun _ => .pure rfl
    · exact .bind fun _ => .bind fun _ => .pure rfl
    · exact expressionStatement_returns g
  · exact expressionStatement_returns g

theorem classLines_of_hasNoClass {body : List Stmt} (h : ∀ s ∈ body, s.HasNoClass) :
    classLines body = [] := by
  rw [classLines, classesOf_eq_flatMap, List.flatMap_eq_nil_iff.2 h, List.map_nil]

/-- The statements of one line hold no class, and the end of the line is read. -/
theorem simpleLine_ensures :
    g.simpleLine.Ensures (Reached ls) fun body => Passed (ls ++ classLines body) := by
  unfold Grammar.simpleLine
  let I : List Stmt → List Token → Prop := fun body read =>
    Reached ls read ∧ ∀ s ∈ body, s.HasNoClass
  have hlasting : ∀ body, Lasting (I body) := fun body read more hread =>
    ⟨Reached.lasting ls read more hread.1, hread.2⟩
  have hstep : ∀ body, g.simpleStatement.Ensures (I body) fun s => I (body ++ [s]) := fun body =>
    ((Parser.Ensures.lasting (hlasting body)).and_returns (simpleStatement_returns g)).weaken
      (fun _ => id) fun s read ⟨hread, hs⟩ =>
        ⟨hread.1, List.forall_mem_append.2 ⟨hread.2, by simpa using hs⟩⟩
  have hstart : (sepBy g.simpleStatement (op ";")).Ensures (Reached ls) I :=
    (Parser.Ensures.sepBy hlasting hstep).weaken (fun read hread => ⟨hread, nofun⟩) fun _ _ => id
  refine hstart.bind fun body => .skip (hlasting body) fun _ => .of_fact fun hnone => ?_
  refine (newline_ensures ls).bind fun _ => .pure fun read hread => ?_
  rwa [classLines_of_hasNoClass hnone, List.append_nil]

theorem block_ensures (hinner : Adds inner classLines) :
    (g.block inner).Ensures (Reached ls) fun body => Passed (ls ++ classLines body) := by
  unfold Grammar.block
  refine .skip (Reached.lasting _) fun _ => .skip (Reached.lasting _) fun next => ?_
  refine .ite ?_ simpleLine_ensures
  refine (newline_ensures _).bind fun _ => .skip (Passed.lasting _) fun _ => ?_
  refine (hinner _).bind fun body => .skip (Passed.lasting _) fun _ => ?_
  exact .pure fun _ => id

theorem adds_block (hinner : Adds inner classLines) : Adds (g.block inner) classLines :=
  fun _ => (block_ensures hinner).weaken (fun _ => Passed.reached) fun _ _ => id

theorem adds_nothing {α : Type} (a : α) {lines : α → List Nat} (h : lines a = []) :
    Adds (pure a : Parser α) lines := by
  intro ls
  exact .pure fun read hread => by simpa [h] using hread

theorem adds_wordBlock (hinner : Adds inner classLines) (word : String) :
    Adds (g.wordBlock inner word) classLines := by
  intro ls
  unfold Grammar.wordBlock
  exact .skip (Passed.lasting _) fun _ => .ite (adds_block hinner ls) (adds_nothing _ rfl ls)

theorem classLines_branch (body otherwise : List Stmt) :
    (Stmt.branch body otherwise).classLines = classLines body ++ classLines otherwise := by
  simp [Stmt.classLines, Stmt.classes, classLines]

theorem classLines_loop (body otherwise : List Stmt) :
    (Stmt.loop body otherwise).classLines = classLines body ++ classLines otherwise := by
  simp [Stmt.classLines, Stmt.classes, classLines]

theorem map_line_classesOfAll (bodies : List (List Stmt)) :
    (classesOfAll bodies).map (·.line) = bodies.flatMap classLines := by
  rw [classesOfAll_eq_flatMap, List.map_flatMap]
  rfl

theorem classLines_tryBlock (body : List Stmt) (handlers : List (List Stmt))
    (otherwise final : List Stmt) : (Stmt.tryBlock body handlers otherwise final).classLines =
      classLines body ++ handlers.flatMap classLines ++ classLines otherwise ++
        classLines final := by
  rw [Stmt.classLines, Stmt.classes, List.map_append, List.map_append, List.map_append,
    map_line_classesOfAll]
  rfl

theorem classLines_cases (bodies : List (List Stmt)) :
    (Stmt.cases bodies).classLines = bodies.flatMap classLines := by
  rw [Stmt.classLines, Stmt.classes, map_line_classesOfAll]

theorem classLines_function (id : String) (parameters : List Parameter) (body : List Stmt) :
    (Stmt.function id parameters body).classLines = classLines body :=
  map_line_within _ _

theorem classLines_classDef (line : Nat) (id : String) (decorators : List Expr)
    (body : List Stmt) :
    (Stmt.classDef line id decorators body).classLines = line :: classLines body := by
  rw [Stmt.classLines, Stmt.classes, List.map_cons, map_line_within]
  rfl

theorem classLines_branches (others : List (List Stmt)) (final : List Stmt) :
    classLines (others.foldr (fun body rest => [.branch body rest]) final) =
      others.flatMap classLines ++ classLines final := by
  induction others with
  | nil => rfl
  | cons body others ih =>
    rw [List.foldr_cons, List.flatMap_cons, List.append_assoc, ← ih, classLines_cons,
      classLines_branch, classLines_nil, List.append_nil]

theorem adds_ifStatement (hinner : Adds inner classLines) :
    Adds (g.ifStatement inner) Stmt.classLines := by
  intro ls
  unfold Grammar.ifStatement
  refine .skip (Passed.lasting _) fun _ => .skip (Passed.lasting _) fun _ => ?_
  refine (adds_block hinner _).bind fun body => ?_
  have hbranch : Adds (do
      keyword "elif"
      let _ ← g.rules.namedExpression
      g.block inner) classLines := fun ls =>
    .skip (Passed.lasting _) fun _ => .skip (Passed.lasting _) fun _ => adds_block hinner ls
  refine (hbranch.many _).bind fun others => (adds_wordBlock hinner _ _).bind fun final => ?_
  refine .pure fun read hread => ?_
  rwa [classLines_branch, classLines_branches, ← List.append_assoc, ← List.append_assoc]

theorem adds_whileStatement (hinner : Adds inner classLines) :
    Adds (g.whileStatement inner) Stmt.classLines := by
  intro ls
  unfold Grammar.whileStatement
  refine .skip (Passed.lasting _) fun _ => .skip (Passed.lasting _) fun _ => ?_
  refine (adds_block hinner _).bind fun body => (adds_wordBlock hinner _ _).bind fun otherwise => ?_
  refine .pure fun read hread => ?_
  rwa [classLines_loop, ← List.append_assoc]

theorem adds_forStatement (hinner : Adds inner classLines) :
    Adds (g.forStatement inner) Stmt.classLines := by
  intro ls
  unfold Grammar.forStatement
  refine .skip (Passed.lasting _) fun _ => .skip (Passed.lasting _) fun _ => ?_
  refine .skip (Passed.lasting _) fun _ => .skip (Passed.lasting _) fun _ => ?_
  refine (adds_block hinner _).bind fun body => (adds_wordBlock hinner _ _).bind fun otherwise => ?_
  refine .pure fun read hread => ?_
  rwa [classLines_loop, ← List.append_assoc]

theorem adds_withStatement (hinner : Adds inner classLines) :
    Adds (g.withStatement inner) Stmt.classLines := by
  intro ls
  unfold Grammar.withStatement
  refine .skip (Passed.lasting _) fun _ => .skip (Passed.lasting _) fun _ => ?_
  refine (adds_block hinner _).bind fun body => .pure fun read hread => ?_
  exact hread

theorem adds_handler (hinner : Adds inner classLines) :
    Adds (g.handler inner) fun handler => classLines handler.2 := by
  intro ls
  unfold Grammar.handler
  have hblock : ∀ groups : Bool,
      (do return (groups, ← g.block inner) : Parser _).Ensures (Passed ls) fun handler => Passed (ls ++ classLines handler.2) := fun groups =>
    (adds_block hinner ls).bind fun body => .pure fun _ => id
  refine .skip (Passed.lasting _) fun _ => .skip (Passed.lasting _) fun groups => ?_
  refine .skip (Passed.lasting _) fun bare => .ite (hblock false) ?_
  exact .skip (Passed.lasting _) fun _ => .skip (Passed.lasting _) fun _ => hblock groups

theorem adds_tryStatement (hinner : Adds inner classLines) :
    Adds (g.tryStatement inner) Stmt.classLines := by
  intro ls
  unfold Grammar.tryStatement
  refine .skip (Passed.lasting _) fun _ => (adds_block hinner _).bind fun body => ?_
  refine ((adds_handler hinner).many _).bind fun handlers => .skip (Passed.lasting _) fun _ => ?_
  split
  · rename_i hempty
    rw [List.isEmpty_iff.1 hempty]
    refine .skip (Passed.lasting _) fun _ => (adds_block hinner _).bind fun final => ?_
    refine .pure fun read hread => ?_
    simpa [classLines_tryBlock, classLines_nil] using hread
  · refine (adds_wordBlock hinner _ _).bind fun otherwise => ?_
    refine (adds_wordBlock hinner _ _).bind fun final => .pure fun read hread => ?_
    simpa [classLines_tryBlock, List.flatMap_map] using hread

theorem adds_matchStatement (hinner : Adds inner classLines) :
    Adds (g.matchStatement inner) Stmt.classLines := by
  intro ls
  have hcase : Adds (g.caseBlock inner) classLines := by
    intro ls
    unfold Grammar.caseBlock
    refine .skip (Passed.lasting _) fun _ => .skip (Passed.lasting _) fun _ => ?_
    refine .skip (Passed.lasting _) fun guarded => ?_
    refine .ite (.skip (Passed.lasting _) fun _ => ?_) ?_
    · exact adds_block hinner ls
    · exact adds_block hinner ls
  unfold Grammar.matchStatement
  refine .skip (Passed.lasting _) fun _ => .skip (Passed.lasting _) fun _ => ?_
  refine .skip (Passed.lasting _) fun _ => .skip (Passed.lasting _) fun _ => ?_
  refine .skip (Passed.lasting _) fun _ => (hcase.some1 _).bind fun bodies => ?_
  refine .skip (Passed.lasting _) fun _ => .pure fun read hread => ?_
  rwa [classLines_cases]

theorem adds_functionStatement (hinner : Adds inner classLines) :
    Adds (g.functionStatement inner) Stmt.classLines := by
  intro ls
  unfold Grammar.functionStatement
  refine .skip (Passed.lasting _) fun _ => .skip (Passed.lasting _) fun _ => ?_
  refine .skip (Passed.lasting _) fun _ => .skip (Passed.lasting _) fun _ => ?_
  refine .skip (Passed.lasting _) fun _ => .skip (Passed.lasting _) fun _ => ?_
  have hbody : ∀ id parameters, (do return .function id parameters (← g.block inner) :
      Parser Stmt).Ensures (Passed ls) fun s => Passed (ls ++ s.classLines) := by
    intro id parameters
    refine (adds_block hinner ls).bind fun body => .pure fun read hread => ?_
    rwa [classLines_function]
  exact .ite (.skip (Passed.lasting _) fun _ => hbody _ _) (hbody _ _)

theorem adds_classStatement (hinner : Adds inner classLines) (decorators : List Expr) :
    Adds (g.classStatement inner decorators) Stmt.classLines := by
  intro ls
  unfold Grammar.classStatement
  refine line_keyword_ensures fun line => ?_
  have hbody : ∀ id, (do return .classDef line id decorators (← g.block inner) :
      Parser Stmt).Ensures (Reached (ls ++ [line])) fun s => Passed (ls ++ s.classLines) := by
    intro id
    refine (block_ensures hinner).bind fun body => .pure fun read hread => ?_
    rwa [classLines_classDef, List.append_cons]
  refine .skip (Reached.lasting _) fun id => .skip (Reached.lasting _) fun hasArguments => ?_
  exact .ite (.skip (Reached.lasting _) fun _ => hbody id) (hbody id)

theorem adds_asyncStatement (hinner : Adds inner classLines) :
    Adds (g.asyncStatement inner) Stmt.classLines := by
  intro ls
  unfold Grammar.asyncStatement
  refine .skip (Passed.lasting _) fun _ => .skip (Passed.lasting _) fun next => ?_
  split
  · exact adds_functionStatement hinner ls
  · exact adds_withStatement hinner ls
  · exact adds_forStatement hinner ls
  · exact .fail

theorem adds_decorated (hinner : Adds inner classLines) :
    Adds (g.decorated inner) Stmt.classLines := by
  intro ls
  unfold Grammar.decorated
  refine .skip (Passed.lasting _) fun decorators => .skip (Passed.lasting _) fun next => ?_
  split
  · exact adds_classStatement hinner decorators ls
  · exact adds_functionStatement hinner ls
  · exact .skip (Passed.lasting _) fun _ => adds_functionStatement hinner ls
  · exact .fail

theorem adds_simpleLine : Adds g.simpleLine classLines :=
  fun _ => simpleLine_ensures.weaken (fun _ => Passed.reached) fun _ _ => id

theorem Adds.single {p : Parser Stmt} (h : Adds p Stmt.classLines) :
    Adds (do return [← p]) classLines := by
  intro ls
  refine (h ls).bind fun s => .pure fun read hread => ?_
  rwa [classLines_cons, classLines_nil, List.append_nil]

theorem adds_statement (hinner : Adds inner classLines) :
    Adds (g.statement inner) classLines := by
  intro ls
  unfold Grammar.statement
  refine .skip (Passed.lasting _) fun next => ?_
  split
  · exact (adds_decorated hinner).single ls
  · split
    · exact (adds_functionStatement hinner).single ls
    · exact (adds_classStatement hinner []).single ls
    · exact (adds_ifStatement hinner).single ls
    · exact (adds_forStatement hinner).single ls
    · exact (adds_whileStatement hinner).single ls
    · exact (adds_tryStatement hinner).single ls
    · exact (adds_withStatement hinner).single ls
    · exact (adds_asyncStatement hinner).single ls
    · exact .orElse ((adds_matchStatement hinner).single ls) (adds_simpleLine ls)
    · exact adds_simpleLine ls
  · exact adds_simpleLine ls

end Statements

/-! ## Texts -/

theorem classLines_flatten (bodies : List (List Stmt)) :
    classLines bodies.flatten = bodies.flatMap classLines := by
  induction bodies with
  | nil => rfl
  | cons body bodies ih => rw [List.flatten_cons, classLines_append, ih, List.flatMap_cons]

/-- The statements of a block, by induction on the depth of the blocks in it. -/
theorem adds_statements (g : Grammar) (depth : Nat) : Adds (statements g depth) classLines := by
  induction depth with
  | zero => exact fun ls => .fail
  | succ depth ih =>
    intro ls
    rw [statements]
    refine ((adds_statement ih).some1 ls).bind fun bodies => .pure fun read hread => ?_
    rwa [classLines_flatten]

/-- The classes of a text begin on different lines, in order. -/
theorem parseLines?_lines {text : List Char} {body : List Stmt}
    (h : parseLines? text = some body) : (classLines body).Pairwise (· < ·) := by
  obtain ⟨tokens, htokens, h⟩ := Option.bind_eq_some_iff.1 h
  obtain ⟨⟨body', rest⟩, hrun, heq⟩ := Option.bind_eq_some_iff.1 h
  cases heq
  have hbody : ∀ (isEnd : TokenKind → Bool) (g : Grammar), (do
      let body ← if (← peek).any isEnd then pure [] else statements g maxBlocks
      finish
      return body : Parser (List Stmt)).Ensures (Passed [])
        fun body => Passed (classLines body) := by
    intro isEnd g
    have hfinish : ∀ body, (do finish; return body : Parser (List Stmt)).Ensures
        (Passed (classLines body)) fun body => Passed (classLines body) := fun body =>
      .skip (Passed.lasting _) fun _ => .pure fun _ => id
    refine .skip (Passed.lasting _) fun next => .ite ?_ ?_
    · exact .bind (.pure fun _ => id) fun body => hfinish body
    · exact (adds_statements g maxBlocks []).bind hfinish
  have hord : ([] ++ tokens).Pairwise Token.Before := scan?_ordered htokens
  obtain ⟨more, -, hmore⟩ := hbody _ _ [] tokens body rest hord ⟨.nil, nofun⟩ hrun
  exact hmore.1

theorem parseInput?_lines {source : Input} {body : List Stmt}
    (h : parseInput? source = some body) : (classLines body).Pairwise (· < ·) := by
  cases source with
  | text s =>
    rw [parseInput?] at h
    split at h
    · cases h
    · exact parseLines?_lines h
  | bytes bs =>
    obtain ⟨text, -, htext⟩ := Option.bind_eq_some_iff.1 h
    exact parseLines?_lines htext

end Sitemap.Source
