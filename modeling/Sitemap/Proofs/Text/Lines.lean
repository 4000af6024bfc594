import Sitemap.Text.Lines

/-!
# Line ends of joined texts

* `unifyLines_append` : line ends are unified part by part, unless a line end lies across;
* `unifyLines_eq_nil`, `mem_unifyLines` : no text vanishes, and no character is new but line ends.
-/

namespace Sitemap

theorem unifyLines_cons {c : Char} (h : c ≠ '\r') (cs : List Char) :
    unifyLines (c :: cs) = c :: unifyLines cs := by
  rw [unifyLines, if_neg h]
  exact fun _ hc _ => h hc

/-- Line ends are unified part by part if the second part does not begin with a line feed. -/
theorem unifyLines_append (cs : List Char) {ds : List Char} (h : ds.head? ≠ some '\n') :
    unifyLines (cs ++ ds) = unifyLines cs ++ unifyLines ds := by
  fun_induction unifyLines cs with
  | case1 => rfl
  | case2 rest ih =>
    rw [List.cons_append, List.cons_append, unifyLines, ih]
    rfl
  | case3 c rest hpair ih =>
    rw [List.cons_append, unifyLines, ih, List.cons_append]
    rintro tail rfl heq
    cases rest with
    | nil =>
      rw [List.nil_append] at heq
      rw [heq] at h
      exact h rfl
    | cons d rest =>
      obtain ⟨rfl, -⟩ := List.cons.inj heq
      exact hpair rest rfl rfl

theorem unifyLines_append_of_not_mem {cs : List Char} (h : '\r' ∉ cs) (ds : List Char) :
    unifyLines (cs ++ ds) = cs ++ unifyLines ds := by
  induction cs with
  | nil => rfl
  | cons c cs ih =>
    rw [List.mem_cons, not_or] at h
    rw [List.cons_append, unifyLines_cons (Ne.symm h.1), ih h.2, List.cons_append]

theorem unifyLines_eq_nil {cs : List Char} : unifyLines cs = [] ↔ cs = [] := by
  cases cs with
  | nil => exact ⟨fun _ => rfl, fun _ => rfl⟩
  | cons c cs =>
    unfold unifyLines
    split <;> simp_all

theorem mem_unifyLines {cs : List Char} {c : Char} (h : c ∈ unifyLines cs) : c ∈ cs ∨ c = '\n' := by
  fun_induction unifyLines cs with
  | case1 => cases h
  | case2 rest ih =>
    rcases List.mem_cons.1 h with rfl | h
    · exact .inr rfl
    · exact (ih h).imp_left fun hc => by simp [hc]
  | case3 d rest _ ih =>
    rcases List.mem_cons.1 h with rfl | h
    · split
      · exact .inr rfl
      · exact .inl List.mem_cons_self
    · exact (ih h).imp_left (List.mem_cons_of_mem d)

/-- Other characters than carriage returns stay. -/
theorem mem_unifyLines_of_mem {cs : List Char} {c : Char} (h : c ∈ cs) (hc : c ≠ '\r') :
    c ∈ unifyLines cs := by
  fun_induction unifyLines cs with
  | case1 => cases h
  | case2 rest ih =>
    simp only [List.mem_cons, hc, false_or] at h
    rcases h with rfl | h
    · exact List.mem_cons_self
    · exact List.mem_cons_of_mem _ (ih h)
  | case3 d rest _ ih =>
    rcases List.mem_cons.1 h with rfl | h
    · rw [if_neg hc]
      exact List.mem_cons_self
    · exact List.mem_cons_of_mem _ (ih h)

end Sitemap
