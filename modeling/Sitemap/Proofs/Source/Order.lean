import Sitemap.Source.Token

/-!
# The order of tokens

* `Token.Before` : a token begins on the line of a later one or above it, and above it if the first
  one ends its line;
* `OrderedFrom` : tokens in this order, from a line on;
* `Steps` : what one step of the reader inside a line gives; `scan?_ordered` : the tokens of every
  text stand in order.
-/

namespace Sitemap.Source

/-- A token stands before another one: not on a later line, and on an earlier one if it ends it. -/
def Token.Before (t u : Token) : Prop := t.line ≤ u.line ∧ (t.kind = .newline → t.line < u.line)

/-- Tokens one before the other, the first of them on a line or below it. -/
def OrderedFrom (line : Nat) (ts : List Token) : Prop :=
  ts.Pairwise Token.Before ∧ ∀ t ∈ ts, line ≤ t.line

namespace OrderedFrom
variable {line next : Nat} {t : Token} {ts : List Token}

theorem mono (h : OrderedFrom next ts) (hle : line ≤ next) : OrderedFrom line ts :=
  ⟨h.1, fun t ht => Nat.le_trans hle (h.2 t ht)⟩

theorem single (t : Token) : OrderedFrom t.line [t] :=
  ⟨List.pairwise_singleton _ _, by simp⟩

theorem cons (h : OrderedFrom next ts) (hle : t.line ≤ next)
    (hnewline : t.kind = .newline → t.line < next) : OrderedFrom t.line (t :: ts) := by
  have hbefore : ∀ u ∈ ts, t.Before u := fun u hu =>
    ⟨Nat.le_trans hle (h.2 u hu), fun hkind => Nat.lt_of_lt_of_le (hnewline hkind) (h.2 u hu)⟩
  refine ⟨List.pairwise_cons.2 ⟨hbefore, h.1⟩, List.forall_mem_cons.2 ⟨Nat.le_refl _, ?_⟩⟩
  exact fun u hu => (hbefore u hu).1

theorem append_kinds {kinds : List TokenKind} (h : OrderedFrom line ts)
    (hkinds : TokenKind.newline ∉ kinds) :
    OrderedFrom line (kinds.map (fun kind => ⟨kind, line⟩) ++ ts) := by
  induction kinds with
  | nil => exact h
  | cons kind kinds ih =>
    obtain ⟨hkind, hkinds⟩ := not_or.1 (mt List.mem_cons.2 hkinds)
    exact cons (t := ⟨kind, line⟩) (ih hkinds) (Nat.le_refl _) fun heq => (hkind heq.symm).elim

end OrderedFrom

/-! ## Reading -/

theorem le_of_measureIndent? {line column plain joined c p next : Nat} {cs rest : List Char}
    (h : measureIndent? line column plain joined cs = some (c, p, next, rest)) : line ≤ next := by
  induction line, column, plain, joined, cs using measureIndent?.induct with
  | case1 line column plain joined rest ih =>
    rw [measureIndent?] at h
    exact ih h
  | case2 line column plain joined rest ih =>
    rw [measureIndent?] at h
    exact ih h
  | case3 line column plain joined rest ih =>
    rw [measureIndent?] at h
    exact ih h
  | case4 line column plain joined rest hempty =>
    rw [measureIndent?, if_pos hempty] at h
    cases h
  | case5 line column plain joined rest hempty ih =>
    rw [measureIndent?, if_neg hempty] at h
    exact Nat.le_of_succ_le (ih h)
  | case6 line column plain joined rest hrest =>
    rw [measureIndent?] at h
    · cases h
    · exact hrest
  | case7 line column plain joined cs hspace htab hfeed hjoined hbackslash =>
    rw [measureIndent?] at h
    · cases h
      exact Nat.le_refl _
    all_goals assumption

theorem newline_not_mem_indentTokens? {column plain : Nat} {indents after : List (Nat × Nat)}
    {kinds : List TokenKind} (h : indentTokens? column plain indents = some (kinds, after)) :
    TokenKind.newline ∉ kinds := by
  unfold indentTokens? at h
  simp only at h
  split at h
  · split at h
    · cases h
      exact nofun
    · cases h
  · split at h
    · split at h
      · cases h
      · cases h
        simp
    · split at h
      · cases h
        simp [List.mem_replicate]
      · cases h

theorem le_advance (line : Nat) (cs : List Char) : line ≤ advance line cs :=
  Nat.le_add_right _ _

/-- What a step of the reader inside a line gives: the end of the tokens, no token, or one token
of its line. The reader then goes on where it is or on a later line, behind a line end on a later
one. -/
inductive Steps (fuel : Nat) (place : Place) : List Token → Prop where
  | finish : Steps fuel place [⟨.finish, place.line⟩]
  | silent {next : Place} {part : LinePart} {rest : List Char} {tokens : List Token}
      (h : scanFrom? fuel next part rest = some tokens) (hle : place.line ≤ next.line) :
      Steps fuel place tokens
  | token {kind : TokenKind} {next : Place} {part : LinePart} {rest : List Char}
      {tokens : List Token} (h : scanFrom? fuel next part rest = some tokens)
      (hle : place.line ≤ next.line) (hnewline : kind = .newline → place.line < next.line) :
      Steps fuel place (⟨kind, place.line⟩ :: tokens)

theorem steps_of_scanFrom? {fuel : Nat} {place : Place} {part : LinePart} {cs : List Char}
    {tokens : List Token} (hpart : part ≠ .start)
    (h : scanFrom? (fuel + 1) place part cs = some tokens) : Steps fuel place tokens := by
  rw [scanFrom?] at h
  · simp only at h
    generalize (if (cs.dropWhile isGap).head? = some '#' then
      (cs.dropWhile isGap).dropWhile (fun x => decide (x ≠ '\n')) else cs.dropWhile isGap) = cs at h
    split at h
    · -- the end of the text
      split at h
      · cases h
        exact .finish
      · cases h
    · -- the end of a line
      split at h
      · exact .silent h (Nat.le_succ _)
      · obtain ⟨inner, hinner, rfl⟩ := Option.map_eq_some_iff.1 h
        exact .token hinner (Nat.le_succ _) fun _ => Nat.lt_succ_self _
    · -- a joined line
      split at h
      · exact .silent h (Nat.le_succ _)
      · cases h
    · split at h
      · -- a word, or the letters before a text
        split at h
        · split at h
          · obtain ⟨⟨body, after⟩, -, h⟩ := Option.bind_eq_some_iff.1 h
            obtain ⟨inner, hinner, h⟩ := Option.bind_eq_some_iff.1 h
            cases h
            exact .token hinner (le_advance _ _) nofun
          · split at h
            · obtain ⟨inner, hinner, rfl⟩ := Option.map_eq_some_iff.1 h
              exact .token hinner (Nat.le_refl _) nofun
            · cases h
        · split at h
          · obtain ⟨inner, hinner, rfl⟩ := Option.map_eq_some_iff.1 h
            exact .token hinner (Nat.le_refl _) nofun
          · cases h
      split at h
      · -- a text
        obtain ⟨⟨body, after⟩, -, h⟩ := Option.bind_eq_some_iff.1 h
        obtain ⟨inner, hinner, h⟩ := Option.bind_eq_some_iff.1 h
        cases h
        exact .token hinner (le_advance _ _) nofun
      split at h
      · -- a number
        obtain ⟨⟨value, after⟩, -, h⟩ := Option.bind_eq_some_iff.1 h
        obtain ⟨inner, hinner, h⟩ := Option.bind_eq_some_iff.1 h
        cases h
        exact .token hinner (Nat.le_refl _) nofun
      · -- a symbol
        obtain ⟨⟨symbol, after⟩, -, h⟩ := Option.bind_eq_some_iff.1 h
        obtain ⟨brackets, -, h⟩ := Option.bind_eq_some_iff.1 h
        obtain ⟨inner, hinner, h⟩ := Option.bind_eq_some_iff.1 h
        cases h
        exact .token hinner (Nat.le_refl _) nofun
  · exact hpart

/-- The tokens that the reader finds stand in order, from its own line on. The induction is on the
steps of the reader: each gives tokens of one line, before those that follow. -/
theorem scanFrom?_ordered (fuel : Nat) : ∀ {place : Place} {part : LinePart} {cs : List Char}
    {tokens : List Token}, scanFrom? fuel place part cs = some tokens →
      OrderedFrom place.line tokens := by
  induction fuel with
  | zero =>
    intro place part cs tokens h
    cases h
  | succ fuel ih =>
    intro place part cs tokens h
    by_cases hpart : part = .start
    · subst hpart
      rw [scanFrom?] at h
      obtain ⟨⟨column, plain, line, rest⟩, hindent, h⟩ := Option.bind_eq_some_iff.1 h
      have hline := le_of_measureIndent? hindent
      simp only at h
      split at h
      · exact (ih h).mono hline
      split at h
      · exact (ih h).mono hline
      obtain ⟨⟨kinds, indents⟩, hkinds, h⟩ := Option.bind_eq_some_iff.1 h
      obtain ⟨inner, hinner, h⟩ := Option.bind_eq_some_iff.1 h
      cases h
      exact ((ih hinner).append_kinds (newline_not_mem_indentTokens? hkinds)).mono hline
    · cases steps_of_scanFrom? hpart h with
      | finish => exact .single _
      | silent hrest hle => exact (ih hrest).mono hle
      | token hinner hle hnewline => exact (ih hinner).cons hle hnewline

theorem scan?_ordered {cs : List Char} {tokens : List Token} (h : scan? cs = some tokens) :
    tokens.Pairwise Token.Before :=
  (scanFrom?_ordered _ h).1

end Sitemap.Source
