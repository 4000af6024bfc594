import Mathlib.Tactic.SplitIfs
import Sitemap.Command.Options

/-!
# Options put into a command line

* `Options.Argument.Sets`, `Options.readArgument_sets` : what holds of the setting of every option
  holds of whatever an argument sets;
* `Options.Inserted` : a command line with more arguments at a place where an option may stand;
* `Options.read_inserted_check` : a check put in asks for a check and nothing else;
* `Options.read_inserted_preview` : so does a preview, where none was asked for.
-/

namespace Sitemap.Options

/-! ## Settings -/

def Argument.Sets (P : (Options → Options) → Prop) : Argument → Prop
  | .complete set => P set
  | .incomplete _ set => ∀ v, P (set v)
  | _ => True

def Meaning.Sets (P : (Options → Options) → Prop) : Meaning → Prop
  | .value set => ∀ v, P (set v)
  | .switch set => P set

/-- What holds of the setting of every option holds of what an argument sets. -/
theorem readArgument_sets {P : (Options → Options) → Prop}
    (h : ∀ name meaning, meaning? name = some meaning → meaning.Sets P) (arg : String) :
    (readArgument arg).Sets P := by
  have hshort : ∀ v, P (setOutput v) := h "--output" (.value setOutput) rfl
  unfold readArgument
  split
  · simp only
    split
    · rename_i set v hmeaning _
      exact h _ _ hmeaning v
    · rename_i set hmeaning _
      exact h _ _ hmeaning
    · rename_i set hmeaning _
      exact h _ _ hmeaning
    · trivial
    · -- the short form gives the path of the module
      split_ifs
      · trivial
      · trivial
      · exact hshort
      · exact hshort _
  · trivial

/-- More arguments are put into a command line behind arguments that are complete: what follows
these is read as an argument of its own. -/
inductive Inserted (more : List String) : List String → List String → Prop
  | behind {before : List String} {o : Options} (after : List String)
      (complete : ∀ rest, readFrom {} (before ++ rest) = readFrom o rest) :
      Inserted more (before ++ after) (before ++ more ++ after)

theorem Inserted.front (more args : List String) : Inserted more args (more ++ args) :=
  @Inserted.behind more [] _ args fun _ => rfl

/-! ## Checks -/

/-- The same command line, asking for a check. -/
def checking (o : Options) : Options := { o with check := true }

theorem sets_checking (name : String) (meaning : Meaning) (h : meaning? name = some meaning) :
    meaning.Sets fun set => ∀ o : Options, set o.checking = (set o).checking := by
  unfold meaning? at h
  split at h
  case h_1 | h_2 | h_3 | h_9 | h_11 | h_12 =>
    cases h
    exact fun v o => rfl
  case h_4 | h_5 | h_6 | h_7 | h_8 | h_10 | h_13 =>
    cases h
    exact fun o => rfl
  case h_14 => cases h

theorem readFrom_checking (o : Options) (args : List String) :
    readFrom o.checking args = (readFrom o args).map checking := by
  fun_induction readFrom o args with
  | case1 o => rfl
  | case2 o rest =>
    rw [readFrom, if_pos rfl]
    rfl
  | case3 o arg rest hend harg ih =>
    rw [readFrom, if_neg hend, harg]
    exact ih
  | case4 o arg rest hend set harg ih =>
    have hset := readArgument_sets sets_checking arg
    rw [harg] at hset
    rw [readFrom, if_neg hend, harg, ← ih, ← hset o]
  | case5 o arg hend option set harg =>
    rw [readFrom, if_neg hend, harg]
    rfl
  | case6 o arg hend option set harg value rest ih =>
    have hset := readArgument_sets sets_checking arg
    rw [harg] at hset
    rw [readFrom, if_neg hend, harg, ← ih, ← hset value o]
  | case7 o arg rest hend fault harg =>
    rw [readFrom, if_neg hend, harg]
    rfl

theorem read_inserted_check {args args' : List String} (h : Inserted ["--check"] args args') :
    read args' = (read args).map checking := by
  obtain ⟨after, complete⟩ := h
  have hcheck : readArgument "--check" = .complete checking := by rfl
  rw [read, read, complete, List.append_assoc, complete, List.singleton_append, readFrom,
    if_neg (by decide), hcheck]
  exact readFrom_checking _ after

theorem read_check (args : List String) :
    read ("--check" :: args) = (read args).map checking :=
  read_inserted_check (.front ["--check"] args)

/-! ## Previews -/

/-- The same command line, asking for a preview. -/
def previewing (base : String) (o : Options) : Options := { o with preview := some base }

/-- A setting does the same whether a preview is asked for or not, or asks for one itself. -/
def IgnoresPreview (set : Options → Options) : Prop :=
  (∀ base o, set (previewing base o) = previewing base (set o)) ∨ ∀ o, (set o).preview.isSome

theorem sets_previewing (name : String) (meaning : Meaning) (h : meaning? name = some meaning) :
    meaning.Sets IgnoresPreview := by
  unfold meaning? at h
  split at h
  case h_9 =>
    -- the option for a preview
    cases h
    exact fun v => .inr fun o => rfl
  case h_1 | h_2 | h_3 | h_11 | h_12 =>
    cases h
    exact fun v => .inl fun base o => rfl
  case h_4 | h_5 | h_6 | h_7 | h_8 | h_10 | h_13 =>
    cases h
    exact .inl fun base o => rfl
  case h_14 => cases h

theorem IgnoresPreview.isSome {set : Options → Options} (h : IgnoresPreview set) {o : Options}
    (ho : o.preview.isSome) : (set o).preview.isSome := by
  rcases h with hsame | hasks
  · obtain ⟨base, hbase⟩ := Option.isSome_iff_exists.1 ho
    have hself : o = previewing base o := by
      rw [previewing, ← hbase]
    rw [hself, hsame base o]
    rfl
  · exact hasks o

theorem isSome_readFrom {o o' : Options} {args : List String} (h : readFrom o args = .ok o')
    (ho : o.preview.isSome) : o'.preview.isSome := by
  fun_induction readFrom o args with
  | case1 o =>
    cases h
    exact ho
  | case2 o rest =>
    cases h
    exact ho
  | case3 o arg rest hend harg ih => exact ih h ho
  | case4 o arg rest hend set harg ih =>
    have hset := readArgument_sets sets_previewing arg
    rw [harg] at hset
    exact ih h (hset.isSome ho)
  | case5 o arg hend option set harg => cases h
  | case6 o arg hend option set harg value rest ih =>
    have hset := readArgument_sets sets_previewing arg
    rw [harg] at hset
    exact ih h ((hset value).isSome ho)
  | case7 o arg rest hend fault harg => cases h

theorem IgnoresPreview.eq {set : Options → Options} (h : IgnoresPreview set) {o o' : Options}
    {args : List String} (hread : readFrom (set o) args = .ok o') (hnone : o'.preview = none)
    (base : String) : set (previewing base o) = previewing base (set o) := by
  rcases h with hsame | hasks
  · exact hsame base o
  · have hsome := isSome_readFrom hread (hasks o)
    rw [hnone] at hsome
    cases hsome

theorem readFrom_previewing {o o' : Options} {args : List String} (h : readFrom o args = .ok o')
    (hnone : o'.preview = none) (base : String) :
    readFrom (previewing base o) args = .ok (previewing base o') := by
  fun_induction readFrom o args with
  | case1 o =>
    cases h
    rfl
  | case2 o rest =>
    cases h
    rw [readFrom, if_pos rfl]
    rfl
  | case3 o arg rest hend harg ih =>
    rw [readFrom, if_neg hend, harg]
    exact ih h
  | case4 o arg rest hend set harg ih =>
    have hset := readArgument_sets sets_previewing arg
    rw [harg] at hset
    rw [readFrom, if_neg hend, harg, ← ih h, ← hset.eq h hnone base]
  | case5 o arg hend option set harg => cases h
  | case6 o arg hend option set harg value rest ih =>
    have hset := readArgument_sets sets_previewing arg
    rw [harg] at hset
    rw [readFrom, if_neg hend, harg, ← ih h, ← (hset value).eq h hnone base]
  | case7 o arg rest hend fault harg => cases h

theorem read_inserted_preview {base : String} {args args' : List String} {o : Options}
    (h : Inserted ["--preview", base] args args') (hread : read args = .ok o)
    (hnone : o.preview = none) : read args' = .ok (previewing base o) := by
  obtain ⟨after, complete⟩ := h
  rw [read, complete] at hread
  have hpreview : readArgument "--preview" = .incomplete "--preview" previewing := by rfl
  rw [read, List.append_assoc, complete, List.cons_append, List.singleton_append, readFrom,
    if_neg (by decide), hpreview]
  exact readFrom_previewing hread hnone base

end Sitemap.Options
