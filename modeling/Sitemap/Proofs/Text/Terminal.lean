import Sitemap.Text.Terminal

/-!
# Texts with control sequences

* `HasSequence` : a control sequence stands somewhere in a text, and in any text around it;
* `stripSequences_append` : a part without escape characters at the front stays;
* `stripSequences_eq_self_iff` : exactly the texts without control sequences stay as they are.
-/

namespace Sitemap

/-- A control sequence stands somewhere in a text. -/
def HasSequence (cs : List Char) : Prop :=
  ∃ before after, cs = before ++ '\x1b' :: after ∧ (sequenceLength? after).isSome

section Characters
variable {c : Char} {cs rest : List Char}

/-- What follows a control sequence is nothing to it. -/
theorem isSome_sequenceLength?_append (h : (sequenceLength? cs).isSome) (rest : List Char) :
    (sequenceLength? (cs ++ rest)).isSome := by
  unfold sequenceLength? at h
  split at h
  · rename_i tail
    split at h
    · rename_i c after hafter
      rw [List.cons_append, sequenceLength?, List.dropWhile_append, hafter]
      split at h
      · rename_i hletter
        simp [hletter]
      · cases h
    · cases h
  · cases h

theorem HasSequence.append_left (h : HasSequence cs) (front : List Char) :
    HasSequence (front ++ cs) := by
  obtain ⟨before, after, rfl, hsome⟩ := h
  exact ⟨front ++ before, after, by rw [List.append_assoc], hsome⟩

theorem HasSequence.append_right (h : HasSequence cs) (rest : List Char) :
    HasSequence (cs ++ rest) := by
  obtain ⟨before, after, rfl, hsome⟩ := h
  exact ⟨before, after ++ rest, by rw [List.append_assoc, List.cons_append],
    isSome_sequenceLength?_append hsome rest⟩

theorem length_stripSequencesFrom (skip : Nat) (cs : List Char) :
    (stripSequencesFrom skip cs).length ≤ cs.length := by
  fun_induction stripSequencesFrom skip cs with
  | case1 => exact Nat.le_refl _
  | case2 skip c rest ih => exact Nat.le_succ_of_le ih
  | case3 rest n hn ih => exact Nat.le_succ_of_le ih
  | case4 rest hnone ih => exact Nat.succ_le_succ ih
  | case5 c rest hc ih => exact Nat.succ_le_succ ih

theorem stripSequencesFrom_cons (hc : c ≠ '\x1b') (rest : List Char) :
    stripSequencesFrom 0 (c :: rest) = c :: stripSequencesFrom 0 rest := by
  rw [stripSequencesFrom, if_neg hc]

theorem stripSequencesFrom_append (h : '\x1b' ∉ cs) (rest : List Char) :
    stripSequencesFrom 0 (cs ++ rest) = cs ++ stripSequencesFrom 0 rest := by
  induction cs with
  | nil => rfl
  | cons c cs ih =>
    rw [List.mem_cons, not_or] at h
    rw [List.cons_append, stripSequencesFrom_cons (Ne.symm h.1), ih h.2, List.cons_append]

theorem hasSequence_cons : HasSequence (c :: rest) ↔
    c = '\x1b' ∧ (sequenceLength? rest).isSome ∨ HasSequence rest := by
  constructor
  · rintro ⟨before, after, hsplit, hsome⟩
    cases before with
    | nil =>
      obtain ⟨rfl, rfl⟩ := List.cons.inj hsplit
      exact .inl ⟨rfl, hsome⟩
    | cons d before =>
      obtain ⟨rfl, rfl⟩ := List.cons.inj hsplit
      exact .inr ⟨before, after, rfl, hsome⟩
  · rintro (⟨rfl, hsome⟩ | ⟨before, after, rfl, hsome⟩)
    · exact ⟨[], rest, rfl, hsome⟩
    · exact ⟨c :: before, after, rfl, hsome⟩

/-- A text that loses a control sequence is shorter than it was. -/
theorem stripSequencesFrom_eq_self_iff : stripSequencesFrom 0 cs = cs ↔ ¬ HasSequence cs := by
  induction cs with
  | nil =>
    refine iff_of_true rfl ?_
    rintro ⟨before, after, hsplit, -⟩
    exact absurd hsplit.symm (by simp)
  | cons c rest ih =>
    rw [hasSequence_cons]
    by_cases hc : c = '\x1b'
    · cases hn : sequenceLength? rest with
      | some n =>
        have hstrip : stripSequencesFrom 0 (c :: rest) = stripSequencesFrom n rest := by
          rw [stripSequencesFrom, if_pos hc, hn]
        refine iff_of_false (fun heq => ?_) (fun h => h (.inl ⟨hc, rfl⟩))
        rw [hstrip] at heq
        have hlength := length_stripSequencesFrom n rest
        rw [heq, List.length_cons] at hlength
        exact Nat.not_succ_le_self _ hlength
      | none =>
        rw [stripSequencesFrom, if_pos hc, hn]
        simp [ih]
    · rw [stripSequencesFrom_cons hc]
      simp [hc, ih]

end Characters

theorem stripSequences_append {s : String} (h : '\x1b' ∉ s.toList) (t : String) :
    stripSequences (s ++ t) = s ++ stripSequences t := by
  rw [stripSequences, String.toList_append, stripSequencesFrom_append h, String.ofList_append,
    String.ofList_toList, stripSequences]

theorem stripSequences_eq_self_iff {s : String} :
    stripSequences s = s ↔ ¬ HasSequence s.toList := by
  rw [← stripSequencesFrom_eq_self_iff, ← String.toList_inj, stripSequences, String.toList_ofList]

end Sitemap
