import Mathlib.Tactic.ByContra
import Sitemap.Proofs.Lists
import Sitemap.Source.Token

/-!
# Reading tokens one at a time

* `Scans` : what is left of a text has tokens of given kinds, from a place in a line on;
* `Scans.front` : one step of the reader, with the tokens that it gives;
* `Scans.word`, `Scans.number`, `Scans.text`, `Scans.op` : one more token in front;
* `Scans.newline`, `Scans.newline_silent` : the end of a line, with and without a token;
* `Scans.blankLine`, `Scans.comment`, `Scans.line`, `Scans.line_inside` : the start of a line;
* `Scans.finish` : the end of the text;
* `Scans.scan?` : the tokens of a whole text.

Lines of tokens are left out: a token is known by its kind. Every step reads a character, except
that the start of a line takes a step of its own, which is why two steps suffice for a character.
-/

namespace Sitemap.Source

/-- A text, from a place in a line on, has tokens of the given kinds, given enough fuel. -/
def Scans (indents : List (Nat × Nat)) (brackets : List Char) (part : LinePart) (cs : List Char)
    (kinds : List TokenKind) : Prop :=
  ∀ line fuel, 2 * cs.length + (if part = .start then 1 else 0) ≤ fuel →
    ∃ tokens, scanFrom? (fuel + 1) ⟨line, indents, brackets⟩ part cs = some tokens ∧
      tokens.map (·.kind) = kinds

theorem Scans.scan? {cs : List Char} {kinds : List TokenKind} (h : Scans [] [] .start cs kinds) :
    ∃ tokens, Source.scan? cs = some tokens ∧ tokens.map (·.kind) = kinds :=
  h 1 (2 * cs.length + 1) (Nat.le_refl _)

section Inside
variable {indents : List (Nat × Nat)} {brackets : List Char} {cs rest : List Char}
  {kinds : List TokenKind}

/-- One step, which reads some characters or begins a line, gives tokens of its line in front of
those that follow. -/
theorem Scans.front {before : List (Nat × Nat)} {outer : List Char} {part next : LinePart}
    (opening : List TokenKind) (h : Scans indents brackets next rest kinds)
    (hless : 2 * rest.length + (if next = .start then 1 else 0) <
      2 * cs.length + (if part = .start then 1 else 0))
    (hstep : ∀ line fuel, ∃ line', scanFrom? (fuel + 1) ⟨line, before, outer⟩ part cs =
      (scanFrom? fuel ⟨line', indents, brackets⟩ next rest).map
        (opening.map (fun kind => ⟨kind, line⟩) ++ ·)) :
    Scans before outer part cs (opening ++ kinds) := by
  intro line fuel hfuel
  obtain ⟨line', hline⟩ := hstep line fuel
  obtain ⟨fuel, rfl⟩ : ∃ n, fuel = n + 1 := ⟨fuel - 1, by omega⟩
  obtain ⟨tokens, htokens, hkinds⟩ := h line' fuel (by omega)
  refine ⟨opening.map (fun kind => ⟨kind, line⟩) ++ tokens, by rw [hline, htokens]; rfl, ?_⟩
  rw [List.map_append, List.map_map, hkinds]
  simp [Function.comp_def]

theorem Scans.silent {outer : List Char} {part next : LinePart}
    (h : Scans indents brackets next rest kinds)
    (hless : 2 * rest.length + (if next = .start then 1 else 0) <
      2 * cs.length + (if part = .start then 1 else 0))
    (hstep : ∀ line fuel, ∃ line', scanFrom? (fuel + 1) ⟨line, indents, outer⟩ part cs =
      scanFrom? fuel ⟨line', indents, brackets⟩ next rest) :
    Scans indents outer part cs kinds := by
  refine h.front [] hless fun line fuel => ?_
  obtain ⟨line', hline⟩ := hstep line fuel
  exact ⟨line', hline.trans Option.map_id'.symm⟩

/-! ## Inside a line -/

theorem Scans.step {outer : List Char} {kind : TokenKind}
    (h : Scans indents brackets .inside rest kinds) (hlength : rest.length < cs.length)
    (hstep : ∀ line fuel, ∃ next, scanFrom? (fuel + 1) ⟨line, indents, outer⟩ .inside cs =
      (scanFrom? fuel ⟨next, indents, brackets⟩ .inside rest).map (⟨kind, line⟩ :: ·)) :
    Scans indents outer .inside cs (kind :: kinds) :=
  h.front [kind] (by simp only [reduceCtorEq, if_false]; omega) hstep

theorem Scans.gap (h : Scans indents brackets .inside cs kinds) :
    Scans indents brackets .inside (' ' :: cs) kinds := by
  intro line fuel hfuel
  rw [List.length_cons] at hfuel
  obtain ⟨tokens, htokens, hkinds⟩ := h line fuel (by omega)
  refine ⟨tokens, ?_, hkinds⟩
  rw [scanFrom?] at htokens ⊢
  · rwa [List.dropWhile_cons_of_pos (by decide)]
  all_goals exact nofun

def BeginsToken (c : Char) : Prop := isGap c = false ∧ c ≠ '#' ∧ c ≠ '\n' ∧ c ≠ '\\'

instance (c : Char) : Decidable (BeginsToken c) := by unfold BeginsToken; infer_instance

theorem not_beginsToken {c : Char} (h : ¬BeginsToken c) :
    c = ' ' ∨ c = '\t' ∨ c = '\x0c' ∨ c = '#' ∨ c = '\n' ∨ c = '\\' := by
  unfold BeginsToken isGap at h
  by_contra hne
  simp only [not_or] at hne
  exact h (by simp [hne])

theorem beginsToken_of_isWordStart {c : Char} (hc : isWordStart c) : BeginsToken c := by
  by_contra h
  rcases not_beginsToken h with rfl | rfl | rfl | rfl | rfl | rfl <;> cases hc

theorem beginsToken_of_isDigit {c : Char} (hc : c.isDigit) : BeginsToken c := by
  by_contra h
  rcases not_beginsToken h with rfl | rfl | rfl | rfl | rfl | rfl <;> cases hc

theorem skip_eq_self {c : Char} (h : BeginsToken c) :
    (if ((c :: cs).dropWhile isGap).head? = some '#' then
        ((c :: cs).dropWhile isGap).dropWhile (· ≠ '\n')
      else (c :: cs).dropWhile isGap) = c :: cs := by
  rw [List.dropWhile_cons_of_neg (by simp [h.1]), if_neg (by simp [h.2.1])]

/-- The characters of a name or a keyword. -/
def IsWordText (s : String) : Prop :=
  s.toList.head?.any isWordStart ∧ s.toList.all isWordChar ∧ isSpelling s.toList

instance (s : String) : Decidable (IsWordText s) := by unfold IsWordText; infer_instance

/-- A character that ends a word and makes it no letters of a string literal. -/
def EndsWord (d : Char) : Prop := isWordChar d = false ∧ d ≠ '"' ∧ d ≠ '\''

instance (d : Char) : Decidable (EndsWord d) := by unfold EndsWord; infer_instance

/-- A name or a keyword, before a character that does not continue it. -/
theorem Scans.word {s : String} {d : Char} (hs : IsWordText s) (hd : EndsWord d)
    (h : Scans indents brackets .inside (d :: rest) kinds) :
    Scans indents brackets .inside (s.toList ++ d :: rest) (.word s :: kinds) := by
  obtain ⟨hstart, hall, hspelling⟩ := hs
  obtain ⟨hd, hquote⟩ := hd
  obtain ⟨c, w, hcw⟩ : ∃ c w, s.toList = c :: w := by
    cases hlist : s.toList with
    | nil => rw [hlist] at hstart; cases hstart
    | cons c w => exact ⟨c, w, rfl⟩
  have hspell : s = String.ofList (c :: w) := by rw [← hcw, String.ofList_toList]
  rw [hcw] at hstart hall hspelling
  rw [hcw, hspell]
  have hc : isWordStart c := by simpa using hstart
  have hw : ∀ x ∈ c :: w, isWordChar x := List.all_eq_true.1 hall
  have hbegins := beginsToken_of_isWordStart hc
  have hnewline := hbegins.2.2.1
  have hbackslash := hbegins.2.2.2
  have htake : (c :: w ++ d :: rest).takeWhile isWordChar = c :: w := by
    rw [List.takeWhile_append_of_pos hw, List.takeWhile_cons_of_neg (by simp [hd]), List.append_nil]
  have hdrop : (c :: w ++ d :: rest).dropWhile isWordChar = d :: rest := by
    rw [List.dropWhile_append_of_pos hw, List.dropWhile_cons_of_neg (by simp [hd])]
  refine h.step (by simp only [List.length_append, List.length_cons]; omega) fun line fuel =>
    ⟨line, ?_⟩
  rw [scanFrom?]
  · rw [List.cons_append] at htake hdrop ⊢
    simp only [skip_eq_self hbegins, hc, if_true, htake, hdrop, hquote.1, hquote.2, or_self,
      if_false, hspelling]
  · exact nofun

theorem not_isWordStart_of_isDigit {c : Char} (hc : c.isDigit) : isWordStart c = false := by
  have h0 : '0'.val.toNat = 48 := rfl
  have h9 : '9'.val.toNat = 57 := rfl
  have hA : 'A'.val.toNat = 65 := rfl
  have ha : 'a'.val.toNat = 97 := rfl
  have hunderscore : c ≠ '_' := by rintro rfl; cases hc
  simp only [Char.isDigit, Bool.and_eq_true, decide_eq_true_eq, UInt32.le_iff_toNat_le,
    ge_iff_le] at hc
  rw [isWordStart]
  delta Char.isAlpha Char.isUpper Char.isLower
  simp only [Bool.or_eq_false_iff, Bool.and_eq_false_iff, decide_eq_false_iff_not,
    UInt32.le_iff_toNat_le, ge_iff_le, UInt32.reduceToNat, beq_eq_false_iff_ne]
  exact ⟨⟨⟨by omega, by omega⟩, hunderscore⟩, by omega⟩

/-- A number. -/
theorem Scans.number {c d : Char} {ds : List Char} {value : Constant} (hc : c.isDigit)
    (hread : readNumeral? (c :: ds ++ d :: rest) = some (value, d :: rest))
    (h : Scans indents brackets .inside (d :: rest) kinds) :
    Scans indents brackets .inside (c :: ds ++ d :: rest) (.number value :: kinds) := by
  have hbegins := beginsToken_of_isDigit hc
  have hnewline := hbegins.2.2.1
  have hbackslash := hbegins.2.2.2
  have hquote : ¬(c = '"' ∨ c = '\'') := by rintro (rfl | rfl) <;> cases hc
  refine h.step (by simp only [List.length_append, List.length_cons]; omega) fun line fuel =>
    ⟨line, ?_⟩
  rw [scanFrom?]
  · rw [List.cons_append] at hread ⊢
    simp only [skip_eq_self hbegins, not_isWordStart_of_isDigit hc, Bool.false_eq_true, hquote,
      if_false, hc, Bool.true_or, if_true, hread, Option.bind_eq_bind, Option.bind_some,
      Option.map_eq_bind]
    rfl
  · exact nofun

/-- A string literal without letters before it. -/
theorem Scans.text {quote : Char} {body after : List Char} (hquote : quote = '"' ∨ quote = '\'')
    (hread : readText? quote rest = some (body, after)) (hlength : after.length ≤ rest.length)
    (h : Scans indents brackets .inside after kinds) :
    Scans indents brackets .inside (quote :: rest) (.text {} body :: kinds) := by
  have hstart : isWordStart quote = false := by rcases hquote with rfl | rfl <;> decide
  have hbegins : BeginsToken quote := by rcases hquote with rfl | rfl <;> decide
  have hnewline := hbegins.2.2.1
  have hbackslash := hbegins.2.2.2
  refine h.step (by simp; omega) fun line fuel => ⟨advance line body, ?_⟩
  rw [scanFrom?]
  · simp only [skip_eq_self hbegins, hstart, Bool.false_eq_true, hquote, if_false, if_true, hread,
      Option.bind_eq_bind, Option.bind_some, Option.map_eq_bind]
    rfl
  · exact fun h => by cases h

/-- The characters that can be the second of a symbol. -/
def seconds : List Char := ['*', '.', '/', '<', '=', '>']

theorem second_of_symbols : ∀ s ∈ symbols3 ++ symbols2, s[1]?.all seconds.contains :=
  forall_mem_of_all (by decide)

/-- A symbol of one character ends before a text that does not continue it; a point before a digit
would begin a number. -/
def endsSymbol (c : Char) (cs : List Char) : Bool :=
  cs.head?.any fun d => !seconds.contains d && (c != '.' || !d.isDigit)

theorem readSymbol?_one {c d : Char} (hc : c ∈ symbols1) (hd : d ∉ seconds) :
    readSymbol? (c :: d :: rest) = some ([c], d :: rest) := by
  have h3 : symbols3.contains ((c :: d :: rest).take 3) = false := by
    rw [← Bool.not_eq_true, List.contains_iff_mem]
    intro h
    have hsecond := second_of_symbols _ (List.mem_append_left _ h)
    exact hd (by simpa using hsecond)
  have h2 : symbols2.contains ((c :: d :: rest).take 2) = false := by
    rw [← Bool.not_eq_true, List.contains_iff_mem]
    intro h
    have hsecond := second_of_symbols _ (List.mem_append_right _ h)
    exact hd (by simpa using hsecond)
  unfold readSymbol?
  rw [h3, h2]
  simp [hc]

theorem beginsToken_of_symbol : ∀ c ∈ symbols1, BeginsToken c ∧ isWordStart c = false ∧
    ¬(c = '"' ∨ c = '\'') ∧ c.isDigit = false :=
  forall_mem_of_all (by decide)

/-- A symbol of one character. -/
theorem Scans.op {c : Char} {inner : List Char} (hc : c ∈ symbols1)
    (hends : endsSymbol c rest = true) (hnest : nest? [c] brackets = some inner) {s : String}
    (hs : s = String.ofList [c]) (h : Scans indents inner .inside rest kinds) :
    Scans indents brackets .inside (c :: rest) (.op s :: kinds) := by
  subst hs
  obtain ⟨hbegins, hstart, hquote, hcdigit⟩ := beginsToken_of_symbol c hc
  have hnewline := hbegins.2.2.1
  have hbackslash := hbegins.2.2.2
  obtain ⟨d, ds, rfl⟩ : ∃ d ds, rest = d :: ds := by
    cases rest with
    | nil => cases hends
    | cons d ds => exact ⟨d, ds, rfl⟩
  obtain ⟨hd, hdigit⟩ : d ∉ seconds ∧ (c ≠ '.' ∨ d.isDigit = false) := by
    simpa [endsSymbol] using hends
  have hnumber : (c.isDigit || c == '.' && Option.any Char.isDigit (d :: ds).head?) = false := by
    rcases hdigit with h | h <;> simp [hcdigit, h]
  refine h.step (by simp) fun line fuel => ⟨line, ?_⟩
  rw [scanFrom?]
  · simp only [skip_eq_self hbegins, hstart, Bool.false_eq_true, hquote, if_false, hnumber,
      readSymbol?_one hc hd, hnest, Option.bind_eq_bind, Option.bind_some, Option.map_eq_bind]
    rfl
  · exact nofun

/-! ## Ends of lines -/

theorem Scans.newline (h : Scans indents [] .start rest kinds) :
    Scans indents [] .inside ('\n' :: rest) (.newline :: kinds) := by
  refine h.front [.newline] (by rw [if_pos rfl, List.length_cons]; omega) fun line fuel => ⟨line + 1, ?_⟩
  rw [scanFrom?]
  · rw [List.dropWhile_cons_of_neg (by decide)]
    simp
  · exact nofun

theorem Scans.newline_silent {part : LinePart} (hpart : part ≠ .start)
    (hsilent : part = .bare ∨ brackets ≠ []) (h : Scans indents brackets .start rest kinds) :
    Scans indents brackets part ('\n' :: rest) kinds := by
  refine h.silent (by rw [if_pos rfl, List.length_cons]; omega) fun line fuel => ⟨line + 1, ?_⟩
  rw [scanFrom?]
  · rw [List.dropWhile_cons_of_neg (by decide)]
    simp [hsilent]
  · exact hpart

/-! ## Starts of lines -/

/-- A line without tokens: behind its indentation comes a comment or its end. -/
theorem Scans.bare (hbare : cs.head? = some '#' ∨ cs.head? = some '\n')
    (hmeasure : ∀ line, measureIndent? line 0 0 0 cs = some (0, 0, line, cs))
    (h : Scans indents brackets .bare cs kinds) : Scans indents brackets .start cs kinds := by
  refine h.silent (by simp) fun line fuel => ⟨line, ?_⟩
  rw [scanFrom?]
  simp only [hmeasure, Option.bind_eq_bind, Option.bind_some, hbare, if_true]

theorem Scans.blankLine (h : Scans indents brackets .start rest kinds) :
    Scans indents brackets .start ('\n' :: rest) kinds :=
  (h.newline_silent (by decide) (.inl rfl)).bare (.inr rfl) fun _ => by simp [measureIndent?]

/-- A comment is skipped up to its line end. -/
theorem Scans.comment {comment : List Char} (hcomment : '\n' ∉ comment)
    (h : Scans indents brackets .start rest kinds) :
    Scans indents brackets .start ('#' :: comment ++ '\n' :: rest) kinds := by
  have hskip : ('#' :: comment ++ '\n' :: rest).dropWhile (· ≠ '\n') = '\n' :: rest := by
    rw [List.dropWhile_append_of_pos, List.dropWhile_cons_of_neg (by simp)]
    intro c hc
    rcases List.mem_cons.1 hc with rfl | hc
    · decide
    · have hne : c ≠ '\n' := fun h => hcomment (h ▸ hc)
      simpa using hne
  have hend : Scans indents brackets .bare ('\n' :: rest) kinds :=
    h.newline_silent (by decide) (.inl rfl)
  refine Scans.bare (.inl rfl) (fun _ => by simp [measureIndent?]) ?_
  intro line fuel hfuel
  obtain ⟨tokens, htokens, hkinds⟩ := hend line fuel (by simp at hfuel ⊢; omega)
  refine ⟨tokens, ?_, hkinds⟩
  rw [scanFrom?] at htokens ⊢
  · rw [List.cons_append, List.dropWhile_cons_of_neg (by decide)]
    rw [List.cons_append] at hskip
    rw [List.dropWhile_cons_of_neg (by decide)] at htokens
    simp only [List.head?_cons, if_true, hskip] at htokens ⊢
    exact htokens
  all_goals decide

theorem measureIndent?_begins (line column plain : Nat) {c : Char} (hc : BeginsToken c) :
    measureIndent? line column plain 0 (c :: rest) = some (column, plain, line, c :: rest) := by
  obtain ⟨hgap, -, -, hbackslash⟩ := hc
  unfold isGap at hgap
  simp only [Bool.or_eq_false_iff, beq_eq_false_iff_ne] at hgap
  obtain ⟨⟨hspace, htab⟩, hfeed⟩ := hgap
  rw [measureIndent?.eq_def]
  split
  all_goals simp_all

theorem measureIndent?_spaces (line column plain n : Nat) {c : Char} (hc : BeginsToken c) :
    measureIndent? line column plain 0 (List.replicate n ' ' ++ c :: rest) =
      some (column + n, plain + n, line, c :: rest) := by
  induction n generalizing column plain with
  | zero => exact measureIndent?_begins line column plain hc
  | succ n ih =>
    rw [List.replicate_succ, List.cons_append, measureIndent?, ih]
    simp only [Option.some.injEq, Prod.mk.injEq, and_true]
    omega

theorem Scans.line {before : List (Nat × Nat)} {n : Nat} {c : Char} {opening : List TokenKind}
    (hc : BeginsToken c) (hindent : indentTokens? n n before = some (opening, indents))
    (h : Scans indents [] .inside (c :: rest) kinds) :
    Scans before [] .start (List.replicate n ' ' ++ c :: rest) (opening ++ kinds) := by
  have hless : 2 * (c :: rest).length < 2 * (List.replicate n ' ' ++ c :: rest).length + 1 := by
    rw [List.length_append]
    omega
  refine h.front opening hless fun line fuel => ⟨line, ?_⟩
  rw [scanFrom?]
  simp only [measureIndent?_spaces _ _ _ _ hc, Nat.zero_add, List.isEmpty_nil, Bool.not_true,
    Bool.false_eq_true, if_false, pure, bind, Option.bind_some, List.head?_cons,
    Option.some.injEq, hc.2.1, hc.2.2.1, or_self, hindent]
  exact Option.map_eq_bind.symm

/-- A line with tokens that is not indented, where no indentation is in force. -/
theorem Scans.line_flat {c : Char} (hc : BeginsToken c)
    (h : Scans [] [] .inside (c :: rest) kinds) : Scans [] [] .start (c :: rest) kinds := by
  have hindent : indentTokens? 0 0 [] = some ([], []) := rfl
  exact h.line hc hindent

/-- A line with tokens inside of brackets, where its indentation does not count. -/
theorem Scans.line_inside {n : Nat} {c : Char} (hc : BeginsToken c) (hbrackets : brackets ≠ [])
    (h : Scans indents brackets .inside (c :: rest) kinds) :
    Scans indents brackets .start (List.replicate n ' ' ++ c :: rest) kinds := by
  have hless : 2 * (c :: rest).length < 2 * (List.replicate n ' ' ++ c :: rest).length + 1 := by
    rw [List.length_append]
    omega
  refine h.silent hless fun line fuel => ⟨line, ?_⟩
  rw [scanFrom?]
  simp [measureIndent?_spaces _ _ _ _ hc, hc.2.1, hc.2.2.1, hbrackets]

theorem Scans.finish {closing : List TokenKind}
    (hindent : indentTokens? 0 0 indents = some (closing, [])) :
    Scans indents [] .start [] (closing ++ [TokenKind.finish]) := by
  intro line fuel hfuel
  rw [if_pos rfl] at hfuel
  obtain ⟨fuel, rfl⟩ : ∃ n, fuel = n + 1 := ⟨fuel - 1, by omega⟩
  refine ⟨closing.map (fun kind => ⟨kind, line⟩) ++ [⟨.finish, line⟩], ?_, ?_⟩
  · rw [scanFrom?]
    simp [measureIndent?, hindent, scanFrom?]
  · rw [List.map_append, List.map_map]
    simp [Function.comp_def]

end Inside

end Sitemap.Source
