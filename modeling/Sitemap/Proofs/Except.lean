import Sitemap.Proofs.Lists

/-!
# Computations that may fail

* `bind_eq_ok`, `mapError_eq_ok`, `mem_toOption`, `forall₂_of_mapM`, `exists_of_mem_mapM`,
  `foldlM_invariant` : what a success says about the steps before it;
* `bind_eq_error`, `mapM_eq_error`, `mapM_fails_iff`, `foldlM_eq_error` : what a failure says;
* `fault?` : the fault of a computation, which can be compared where results cannot;
* `Agree` : two computations succeed with related results, or both fail (`Agree.bind`,
  `Agree.foldlM`).
-/

namespace Sitemap

/-! ## Successes -/

section Success
variable {ε δ α β : Type}

theorem bind_eq_ok {x : Except ε α} {f : α → Except ε β} {b : β} :
    x >>= f = .ok b ↔ ∃ a, x = .ok a ∧ f a = .ok b := by
  cases x with
  | error e => simp [bind, Except.bind]
  | ok a => simp [bind, Except.bind]

theorem bind_eq_error {x : Except ε α} {f : α → Except ε β} {e : ε} :
    x >>= f = .error e ↔ x = .error e ∨ ∃ a, x = .ok a ∧ f a = .error e := by
  cases x with
  | error e => simp [bind, Except.bind]
  | ok a => simp [bind, Except.bind]

@[simp] theorem map_eq_error {f : α → β} {x : Except ε α} {e : ε} :
    f <$> x = .error e ↔ x = .error e := by
  cases x with
  | error e => simp [Functor.map, Except.map]
  | ok a => simp [Functor.map, Except.map]

theorem mapError_ok (f : ε → δ) (a : α) : (Except.ok a).mapError f = .ok a := rfl

theorem mapError_error (f : ε → δ) (e : ε) :
    (Except.error e : Except ε α).mapError f = .error (f e) := rfl

theorem mapError_eq_ok {x : Except ε α} {f : ε → δ} {a : α} :
    x.mapError f = .ok a ↔ x = .ok a := by
  cases x with
  | error e => simp [mapError_error]
  | ok a => simp [mapError_ok]

theorem mapError_eq_error {x : Except ε α} {f : ε → δ} {d : δ} :
    x.mapError f = .error d ↔ ∃ e, x = .error e ∧ f e = d := by
  cases x with
  | error e => simp [mapError_error]
  | ok a => simp [mapError_ok]

theorem mem_toOption {x : Except ε α} {a : α} : a ∈ x.toOption ↔ x = .ok a := by
  cases x with
  | error e => simp [Except.toOption]
  | ok b => simp [Except.toOption]

def fault? : Except ε α → Option ε
  | .ok _ => none
  | .error e => some e

theorem fault?_eq_some {x : Except ε α} {e : ε} : fault? x = some e ↔ x = .error e := by
  cases x with
  | error e => simp [fault?]
  | ok a => simp [fault?]

theorem exists_ok_iff {x : Except ε α} : (∃ a, x = .ok a) ↔ ¬ ∃ e, x = .error e := by
  cases x with
  | error e => simp
  | ok a => simp

/-- A list is turned into another one element by element. -/
theorem forall₂_of_mapM {f : α → Except ε β} {xs : List α} :
    ∀ {ys : List β}, xs.mapM f = .ok ys → List.Forall₂ (fun x y => f x = .ok y) xs ys := by
  induction xs with
  | nil =>
    intro ys h
    cases h
    exact .nil
  | cons x xs ih =>
    intro ys h
    rw [List.mapM_cons] at h
    obtain ⟨first, hfirst, h⟩ := bind_eq_ok.1 h
    obtain ⟨rest, hrest, h⟩ := bind_eq_ok.1 h
    cases h
    exact .cons hfirst (ih hrest)

theorem exists_of_mem_mapM {f : α → Except ε β} {xs : List α} {ys : List β}
    (h : xs.mapM f = .ok ys) : ∀ y ∈ ys, ∃ x ∈ xs, f x = .ok y :=
  exists_of_mem_forall₂ (forall₂_of_mapM h).flip

/-- What every step of a fold preserves holds of its result. -/
theorem foldlM_invariant {f : β → α → Except ε β} {P : β → Prop} {xs : List α}
    (hstep : ∀ x ∈ xs, ∀ b b', P b → f b x = .ok b' → P b') :
    ∀ {b b' : β}, P b → xs.foldlM f b = .ok b' → P b' := by
  induction xs with
  | nil =>
    intro b b' hb h
    cases h
    exact hb
  | cons x rest ih =>
    intro b b' hb h
    rw [List.forall_mem_cons] at hstep
    rw [List.foldlM_cons] at h
    obtain ⟨next, hnext, hrest⟩ := bind_eq_ok.1 h
    exact ih hstep.2 (hstep.1 b next hb hnext) hrest

/-- A fold fails at the first step that fails. -/
theorem foldlM_eq_error {f : β → α → Except ε β} {xs : List α} {e : ε} : ∀ {b : β},
    xs.foldlM f b = .error e ↔ ∃ before x after b', xs = before ++ x :: after ∧
      before.foldlM f b = .ok b' ∧ f b' x = .error e := by
  induction xs with
  | nil => simp [pure, Except.pure]
  | cons x rest ih =>
    intro b
    rw [List.foldlM_cons, bind_eq_error]
    constructor
    · rintro (h | ⟨b', hb', h⟩)
      · exact ⟨[], x, rest, b, rfl, rfl, h⟩
      · obtain ⟨before, y, after, c, rfl, hbefore, h⟩ := ih.1 h
        exact ⟨x :: before, y, after, c, rfl, bind_eq_ok.2 ⟨b', hb', hbefore⟩, h⟩
    · rintro ⟨before, y, after, c, hsplit, hbefore, h⟩
      cases before with
      | nil =>
        obtain ⟨rfl, rfl⟩ := List.cons.inj hsplit
        cases hbefore
        exact .inl h
      | cons _ before =>
        obtain ⟨rfl, rfl⟩ := List.cons.inj hsplit
        obtain ⟨b', hb', hbefore⟩ := bind_eq_ok.1 hbefore
        exact .inr ⟨b', hb', ih.2 ⟨before, y, after, c, rfl, hbefore, h⟩⟩

/-- A list cannot be turned into another one because of the first element that fails. -/
theorem mapM_eq_error {f : α → Except ε β} {xs : List α} {e : ε} :
    xs.mapM f = .error e ↔ ∃ before x after ys, xs = before ++ x :: after ∧
      before.mapM f = .ok ys ∧ f x = .error e := by
  induction xs with
  | nil => simp [pure, Except.pure]
  | cons x rest ih =>
    rw [List.mapM_cons, bind_eq_error]
    constructor
    · rintro (h | ⟨y, hy, h⟩)
      · exact ⟨[], x, rest, [], rfl, rfl, h⟩
      · rcases bind_eq_error.1 h with h | ⟨ys, -, h⟩
        · obtain ⟨before, x', after, ys, rfl, hbefore, h⟩ := ih.1 h
          refine ⟨x :: before, x', after, y :: ys, rfl, ?_, h⟩
          rw [List.mapM_cons, hy, hbefore]
          rfl
        · cases h
    · rintro ⟨before, x', after, ys, hsplit, hbefore, h⟩
      cases before with
      | nil =>
        obtain ⟨rfl, rfl⟩ := List.cons.inj hsplit
        exact .inl h
      | cons _ before =>
        obtain ⟨rfl, rfl⟩ := List.cons.inj hsplit
        rw [List.mapM_cons] at hbefore
        obtain ⟨y, hy, hbefore⟩ := bind_eq_ok.1 hbefore
        obtain ⟨ys', hys', -⟩ := bind_eq_ok.1 hbefore
        exact .inr ⟨y, hy, bind_eq_error.2 (.inl (ih.2 ⟨before, x', after, ys', rfl, hys', h⟩))⟩

/-- A list cannot be turned into another one just if some element fails. -/
theorem mapM_fails_iff {f : α → Except ε β} {xs : List α} :
    (∃ e, xs.mapM f = .error e) ↔ ∃ x ∈ xs, ∃ e, f x = .error e := by
  induction xs with
  | nil => simp [pure, Except.pure]
  | cons x rest ih =>
    rw [List.mapM_cons]
    simp only [List.mem_cons, exists_eq_or_imp, ← ih]
    cases hx : f x with
    | error e => simp [bind, Except.bind]
    | ok y =>
      cases hrest : rest.mapM f with
      | error e => simp [bind, Except.bind]
      | ok ys => simp [bind, Except.bind, pure, Except.pure]

theorem bind_ok_error_iff {x : Except ε α} {f : α → β} :
    (∃ e, (x >>= fun a => .ok (f a)) = .error e) ↔ ∃ e, x = .error e := by
  cases x with
  | error e => simp [bind, Except.bind]
  | ok a => simp [bind, Except.bind]

end Success

/-! ## Two computations side by side -/

section Agreement
variable {ε δ α β : Type}

/-- Both computations succeed with related results, or both fail. -/
def Agree (R : α → β → Prop) : Except ε α → Except δ β → Prop
  | .ok a, .ok b => R a b
  | .error _, .error _ => True
  | _, _ => False

theorem Agree.ok {R : α → β → Prop} {a : α} {b : β} (h : R a b) :
    Agree R (.ok a : Except ε α) (.ok b : Except δ β) := h

theorem Agree.error {R : α → β → Prop} (e : ε) (d : δ) :
    Agree R (.error e : Except ε α) (.error d : Except δ β) := trivial

theorem Agree.and_right {R : α → β → Prop} {P : β → Prop} {x : Except ε α} {y : Except δ β}
    (h : Agree R x y) (hP : ∀ b, y = .ok b → P b) : Agree (fun a b => R a b ∧ P b) x y := by
  cases x with
  | error e =>
    cases y with
    | error d => exact Agree.error e d
    | ok b => exact h.elim
  | ok a =>
    cases y with
    | error d => exact h.elim
    | ok b => exact Agree.ok ⟨h, hP b rfl⟩

theorem Agree.of_ok_iff {x : Except ε α} {y : Except δ α} (h : ∀ a, x = .ok a ↔ y = .ok a) :
    Agree Eq x y := by
  cases x with
  | ok a =>
    rw [(h a).1 rfl]
    exact Agree.ok rfl
  | error e =>
    cases y with
    | ok b => cases (h b).2 rfl
    | error d => exact Agree.error e d

theorem Agree.bind {α' β' : Type} {R : α → β → Prop} {S : α' → β' → Prop} {x : Except ε α}
    {y : Except δ β} {f : α → Except ε α'} {g : β → Except δ β'} (h : Agree R x y)
    (hfg : ∀ a b, R a b → Agree S (f a) (g b)) : Agree S (x >>= f) (y >>= g) := by
  cases x with
  | error e =>
    cases y with
    | error d => exact Agree.error e d
    | ok b => exact h.elim
  | ok a =>
    cases y with
    | error d => exact h.elim
    | ok b => exact hfg a b h

theorem Agree.foldlM {γ : Type} {R : α → β → Prop} {f : α → γ → Except ε α}
    {g : β → γ → Except δ β} (hstep : ∀ a b c, R a b → Agree R (f a c) (g b c)) (cs : List γ) :
    ∀ a b, R a b → Agree R (cs.foldlM f a) (cs.foldlM g b) := by
  induction cs with
  | nil => exact fun a b h => Agree.ok h
  | cons c cs ih =>
    intro a b h
    simp only [List.foldlM_cons]
    exact Agree.bind (hstep a b c h) fun a' b' h' => ih a' b' h'

theorem Agree.error_iff {R : α → β → Prop} {x : Except ε α} {y : Except δ β} (h : Agree R x y) :
    (∃ e, x = .error e) ↔ ∃ e, y = .error e := by
  cases x with
  | error e =>
    cases y with
    | error d => simp
    | ok b => exact h.elim
  | ok a =>
    cases y with
    | error d => exact h.elim
    | ok b => simp

end Agreement

end Sitemap
