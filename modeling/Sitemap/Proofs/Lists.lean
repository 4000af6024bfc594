import Mathlib.Data.List.Forall2

/-!
# Lists

* `forall_mem_of_all` : a test of all elements;
* `flatMap_filter_eq` : elements that give nothing may be taken away;
* `exists_map_eq` : preimages of all elements;
* `exists_of_mem_forall₂`, `forall₂_comp`, `forall_mem_iff_of_forall₂` : the match of an element,
  matches of matches, and a test of the elements of matching lists;
* `exists_forall₂_filter`, `forall₂_append_cons` : matching lists without some elements, and split
  at one;
* `forall_take_concat` : the beginnings of a list that has grown at its end;
* `append_cons_inj_of_not_mem` : a list is split in one way only at its first mark;
* `filter_mergeSort` : elements may be taken away before sorting or after.
-/

namespace Sitemap

theorem forall_mem_of_all {α : Type} {p : α → Prop} [DecidablePred p] {xs : List α}
    (h : xs.all (fun x => decide (p x)) = true) : ∀ x ∈ xs, p x :=
  fun x hx => of_decide_eq_true (List.all_eq_true.1 h x hx)

theorem flatMap_filter_eq {α β : Type} {p : α → Bool} {f : α → List β} {xs : List α}
    (h : ∀ x ∈ xs, ¬ p x → f x = []) : (xs.filter p).flatMap f = xs.flatMap f := by
  induction xs with
  | nil => rfl
  | cons x rest ih =>
    rw [List.forall_mem_cons] at h
    rw [List.flatMap_cons, ← ih h.2]
    by_cases hx : p x = true
    · rw [List.filter_cons_of_pos hx, List.flatMap_cons]
    · rw [List.filter_cons_of_neg hx, h.1 hx, List.nil_append]

theorem exists_map_eq {α β γ : Type} {p : β → Prop} {f : α → γ} {g : β → γ} {xs : List α}
    (h : ∀ x ∈ xs, ∃ y, p y ∧ f x = g y) :
    ∃ ys : List β, (∀ y ∈ ys, p y) ∧ xs.map f = ys.map g := by
  induction xs with
  | nil => exact ⟨[], List.forall_mem_nil _, rfl⟩
  | cons x rest ih =>
    rw [List.forall_mem_cons] at h
    obtain ⟨y, hy, hxy⟩ := h.1
    obtain ⟨ys, hys, hrest⟩ := ih h.2
    refine ⟨y :: ys, List.forall_mem_cons.2 ⟨hy, hys⟩, ?_⟩
    rw [List.map_cons, List.map_cons, hxy, hrest]

theorem exists_of_mem_forall₂ {α β : Type} {R : α → β → Prop} {xs : List α} {ys : List β}
    (h : List.Forall₂ R xs ys) : ∀ x ∈ xs, ∃ y ∈ ys, R x y := by
  induction h with
  | nil => exact nofun
  | cons hxy _ ih =>
    refine List.forall_mem_cons.2 ⟨⟨_, List.mem_cons_self, hxy⟩, fun x hx => ?_⟩
    obtain ⟨y, hy, hR⟩ := ih x hx
    exact ⟨y, List.mem_cons_of_mem _ hy, hR⟩

theorem forall₂_comp {α β γ : Type} {R : α → β → Prop} {S : β → γ → Prop} {xs : List α}
    {ys : List β} {zs : List γ} (h : List.Forall₂ R xs ys) (h' : List.Forall₂ S ys zs) :
    List.Forall₂ (fun x z => ∃ y, R x y ∧ S y z) xs zs := by
  induction h generalizing zs with
  | nil =>
    cases h'
    exact .nil
  | cons hxy _ ih =>
    cases h' with
    | cons hyz h' => exact .cons ⟨_, hxy, hyz⟩ (ih h')

theorem forall_mem_iff_of_forall₂ {α β : Type} {R : α → β → Prop} {p : α → Prop} {q : β → Prop}
    {xs : List α} {ys : List β} (h : List.Forall₂ R xs ys) (hpq : ∀ x y, R x y → (p x ↔ q y)) :
    (∀ x ∈ xs, p x) ↔ ∀ y ∈ ys, q y := by
  induction h with
  | nil => simp
  | cons hxy _ ih => rw [List.forall_mem_cons, List.forall_mem_cons, hpq _ _ hxy, ih]

/-- Elements whose match is taken away go with it. -/
theorem exists_forall₂_filter {α β : Type} {R : α → β → Prop} {xs : List α} {ys : List β}
    (h : List.Forall₂ R xs ys) (q : β → Bool) : ∃ xs', xs'.Sublist xs ∧
      List.Forall₂ (fun x y => R x y ∧ q y) xs' (ys.filter q) ∧
      ∀ x ∈ xs, x ∈ xs' ∨ ∃ y, R x y ∧ ¬ q y := by
  induction h with
  | nil => exact ⟨[], .slnil, .nil, by simp⟩
  | @cons x y xs ys hxy _ ih =>
    obtain ⟨xs', hsub, hmatch, hall⟩ := ih
    by_cases hy : q y = true
    · rw [List.filter_cons_of_pos hy]
      refine ⟨x :: xs', hsub.cons_cons x, .cons ⟨hxy, hy⟩ hmatch, List.forall_mem_cons.2 ⟨?_, ?_⟩⟩
      · exact .inl List.mem_cons_self
      · exact fun z hz => (hall z hz).imp_left (List.mem_cons_of_mem x)
    · rw [List.filter_cons_of_neg hy]
      refine ⟨xs', hsub.cons x, hmatch, List.forall_mem_cons.2 ⟨.inr ⟨y, hxy, hy⟩, hall⟩⟩

theorem forall₂_append_cons {α β : Type} {R : α → β → Prop} {xs : List α} {y : β}
    {before after : List β} (h : List.Forall₂ R xs (before ++ y :: after)) :
    ∃ front x back, xs = front ++ x :: back ∧ List.Forall₂ R front before ∧ R x y ∧
      List.Forall₂ R back after := by
  induction before generalizing xs with
  | nil =>
    cases h with
    | cons hxy h => exact ⟨[], _, _, rfl, .nil, hxy, h⟩
  | cons z before ih =>
    cases h with
    | cons hxz h =>
      obtain ⟨front, x, back, rfl, hfront, hxy, hback⟩ := ih h
      exact ⟨_ :: front, x, back, rfl, .cons hxz hfront, hxy, hback⟩

/-- The beginnings of a list with one more element are those of the list, and the list. -/
theorem forall_take_concat {α : Type} {P : List α → Prop} {xs : List α} {x : α} :
    (∀ n < (xs ++ [x]).length, P ((xs ++ [x]).take n)) ↔
      (∀ n < xs.length, P (xs.take n)) ∧ P xs := by
  rw [List.length_append, List.length_singleton]
  constructor
  · intro h
    refine ⟨fun n hn => ?_, ?_⟩
    · have hbefore := h n (Nat.lt_succ_of_lt hn)
      rwa [List.take_append_of_le_length (Nat.le_of_lt hn)] at hbefore
    · have hwhole := h xs.length (Nat.lt_succ_self _)
      rwa [List.take_left] at hwhole
  · rintro ⟨hbefore, hwhole⟩ n hn
    rcases Nat.lt_or_eq_of_le (Nat.le_of_lt_succ hn) with hlt | rfl
    · rw [List.take_append_of_le_length (Nat.le_of_lt hlt)]
      exact hbefore n hlt
    · rw [List.take_left]
      exact hwhole

/-- A mark ends what is before it if that does not hold it. -/
theorem append_cons_inj_of_not_mem {α : Type} {mark : α} {xs ys rest rest' : List α}
    (hxs : mark ∉ xs) (hys : mark ∉ ys) (h : xs ++ mark :: rest = ys ++ mark :: rest') :
    xs = ys ∧ rest = rest' := by
  induction xs generalizing ys with
  | nil =>
    cases ys with
    | nil => exact ⟨rfl, List.tail_eq_of_cons_eq h⟩
    | cons y ys => exact absurd (List.mem_cons.2 (.inl (List.head_eq_of_cons_eq h))) hys
  | cons x xs ih =>
    cases ys with
    | nil => exact absurd (List.mem_cons.2 (.inl (List.head_eq_of_cons_eq h).symm)) hxs
    | cons y ys =>
      obtain ⟨rfl, htail⟩ := List.cons.inj h
      obtain ⟨rfl, hrest⟩ := ih (List.not_mem_of_not_mem_cons hxs)
        (List.not_mem_of_not_mem_cons hys) htail
      exact ⟨rfl, hrest⟩

/-! ## Sorting -/

section Sorting
variable {α : Type} {le : α → α → Bool}

theorem eq_of_append_eq {q : α → Bool} {l₁ l₂ m₁ m₂ : List α} (h : l₁ ++ l₂ = m₁ ++ m₂)
    (hl₁ : ∀ b ∈ l₁, q b) (hl₂ : ∀ b ∈ l₂, ¬ q b) (hm₁ : ∀ b ∈ m₁, q b) (hm₂ : ∀ b ∈ m₂, ¬ q b) :
    l₁ = m₁ ∧ l₂ = m₂ := by
  have hfirst : l₁ = m₁ := by
    have hfilter := congrArg (List.filter q) h
    rwa [List.filter_append, List.filter_append, List.filter_eq_self.2 hl₁,
      List.filter_eq_nil_iff.2 hl₂, List.filter_eq_self.2 hm₁, List.filter_eq_nil_iff.2 hm₂,
      List.append_nil, List.append_nil] at hfilter
  rw [hfirst] at h
  exact ⟨hfirst, List.append_cancel_left h⟩

/-- What is sorted behind an element does not go before it. -/
theorem not_before_of_mergeSort (trans : ∀ a b c, le a b → le b c → le a c)
    (total : ∀ a b, le a b || le b a) {a : α} {l l₁ l₂ : List α}
    (h : l.mergeSort le = l₁ ++ a :: l₂) : ∀ b ∈ l₂, ¬ (!le a b) = true := by
  have hsorted := List.pairwise_mergeSort trans total l
  rw [h] at hsorted
  intro b hb
  simp [List.rel_of_pairwise_cons (List.pairwise_append.1 hsorted).2.1 hb]

/-- Elements taken away before sorting or after. -/
theorem filter_mergeSort (trans : ∀ a b c, le a b → le b c → le a c)
    (total : ∀ a b, le a b || le b a) (p : α → Bool) (l : List α) :
    (l.mergeSort le).filter p = (l.filter p).mergeSort le := by
  induction l with
  | nil => simp
  | cons a l ih =>
    obtain ⟨l₁, l₂, hsort, hrest, hbefore⟩ := List.mergeSort_cons trans total a l
    by_cases ha : p a
    · obtain ⟨m₁, m₂, hsort', hrest', hbefore'⟩ := List.mergeSort_cons trans total a (l.filter p)
      have hboth : m₁ ++ m₂ = l₁.filter p ++ l₂.filter p := by
        rw [← hrest', ← ih, hrest, List.filter_append]
      have hafter := not_before_of_mergeSort trans total hsort
      -- the elements before `a` are those that `a` does not come before
      obtain ⟨hfirst, hlast⟩ := eq_of_append_eq hboth hbefore'
        (not_before_of_mergeSort trans total hsort')
        (fun b hb => hbefore b (List.mem_filter.1 hb).1)
        fun b hb => hafter b (List.mem_filter.1 hb).1
      rw [hsort, List.filter_append, List.filter_cons_of_pos ha, List.filter_cons_of_pos ha,
        hsort', hfirst, hlast]
    · rw [hsort, List.filter_append, List.filter_cons_of_neg ha, List.filter_cons_of_neg ha,
        ← List.filter_append, ← hrest, ih]

end Sorting

end Sitemap
