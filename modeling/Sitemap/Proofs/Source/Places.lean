import Sitemap.Proofs.Lists
import Sitemap.Source.Tree

/-!
# Classes inside statements

* `Stmt.blocks`, `Stmt.ownScopes` : the blocks of a statement in source order, and the names that it
  puts before the names of what is inside;
* `Stmt.At`, `Stmt.In` : a statement stands at an address inside another one or in a body, with the
  scopes around it;
* `Enumerates` : values in the order of their addresses, each address once and none left out;
  `Enumerates.flatMap` puts such lists together, `Enumerates.filter` and `Enumerates.eraseDups` take
  values away, `Enumerates.last_iff` is about the last value of a kind;
* `ClassSite`, `classesOf` : the classes of a body with the scopes around them, from the outside in;
* `enumerates_classesOf`, `mem_classesOf_iff` : this list enumerates the class statements of the
  body.

An address is read from the outside in: the number of a statement in the body, the number of one of
its blocks, the number of a statement in that block, and so on. The order of addresses is then the
order in the source, and what holds a statement comes before it.
-/

namespace Sitemap.Source

/-! ## Addresses -/

namespace Stmt

/-- The blocks of a statement in source order. -/
def blocks : Stmt → List (List Stmt)
  | .function _ _ body => [body]
  | .classDef _ _ _ body => [body]
  | .branch body otherwise => [body, otherwise]
  | .loop body otherwise => [body, otherwise]
  | .withBlock body => [body]
  | .tryBlock body handlers otherwise final => body :: (handlers ++ [otherwise, final])
  | .cases bodies => bodies
  | _ => []

def ownScopes : Stmt → List String
  | .function name _ _ => [name, "<locals>"]
  | .classDef _ name _ _ => [name]
  | _ => []

/-- A statement stands at an address inside another one, with the scopes around it. -/
inductive At : Stmt → List Nat → List String → Stmt → Prop where
  | self (s : Stmt) : At s [] [] s
  | inside {s t u : Stmt} {block : List Stmt} {i j : Nat} {rest : List Nat} {scopes : List String}
      (hblock : s.blocks[j]? = some block) (ht : block[i]? = some t) (h : At t rest scopes u) :
      At s (j :: i :: rest) (s.ownScopes ++ scopes) u

/-- A statement stands at an address in a body, with the scopes around it. -/
def In (body : List Stmt) (address : List Nat) (scopes : List String) (u : Stmt) : Prop :=
  ∃ i rest s, address = i :: rest ∧ body[i]? = some s ∧ s.At rest scopes u

/-- At most one statement stands at an address. -/
theorem At.unique {s u : Stmt} {a : List Nat} {scopes : List String} (h : s.At a scopes u) :
    ∀ {scopes' : List String} {u' : Stmt}, s.At a scopes' u' → scopes' = scopes ∧ u' = u := by
  induction h with
  | self s =>
    intro scopes' u' h'
    cases h'
    exact ⟨rfl, rfl⟩
  | inside hblock ht _ ih =>
    intro scopes' u' h'
    cases h' with
    | inside hblock' ht' h' =>
      obtain rfl := Option.some.inj (hblock.symm.trans hblock')
      obtain rfl := Option.some.inj (ht.symm.trans ht')
      obtain ⟨rfl, rfl⟩ := ih h'
      exact ⟨rfl, rfl⟩

theorem In.unique {body : List Stmt} {a : List Nat} {scopes scopes' : List String} {u u' : Stmt}
    (h : In body a scopes u) (h' : In body a scopes' u') : scopes' = scopes ∧ u' = u := by
  obtain ⟨i, rest, s, rfl, hs, hat⟩ := h
  obtain ⟨_, _, _, ha, hs', hat'⟩ := h'
  obtain ⟨rfl, rfl⟩ := List.cons.inj ha
  obtain rfl := Option.some.inj (hs.symm.trans hs')
  exact hat.unique hat'

end Stmt

/-! ## Values in the order of their addresses -/

/-- The values are those that stand at addresses, in the order of the addresses. -/
def Enumerates {β : Type} (P : List Nat → β → Prop) (vs : List β) : Prop :=
  ∃ places : List (List Nat), places.Pairwise (· < ·) ∧ List.Forall₂ P places vs ∧
    ∀ a v, P a v → a ∈ places

section Enumerates
variable {α β γ : Type} {P Q : List Nat → β → Prop} {vs : List β}

theorem forall_mem_of_forall₂ {R : α → β → Prop} {S : α → Prop} {xs : List α} {ys : List β}
    (h : List.Forall₂ R xs ys) (hRS : ∀ x y, R x y → S x) : ∀ x ∈ xs, S x := by
  intro x hx
  obtain ⟨y, -, hxy⟩ := exists_of_mem_forall₂ h x hx
  exact hRS x y hxy

theorem Enumerates.congr (h : Enumerates P vs) (hPQ : ∀ a v, P a v ↔ Q a v) : Enumerates Q vs := by
  obtain ⟨places, hsorted, hmatch, hall⟩ := h
  exact ⟨places, hsorted, hmatch.imp fun a v => (hPQ a v).1,
    fun a v hQ => hall a v ((hPQ a v).2 hQ)⟩

theorem Enumerates.nil (h : ∀ a v, ¬ P a v) : Enumerates P [] :=
  ⟨[], .nil, .nil, fun a v hP => absurd hP (h a v)⟩

theorem Enumerates.map {g : β → γ} (h : Enumerates P vs) :
    Enumerates (fun a w => ∃ v, P a v ∧ w = g v) (vs.map g) := by
  obtain ⟨places, hsorted, hmatch, hall⟩ := h
  refine ⟨places, hsorted, ?_, fun a w hw => ?_⟩
  · rw [List.forall₂_map_right_iff]
    exact hmatch.imp fun a v hv => ⟨v, hv, rfl⟩
  · obtain ⟨v, hv, -⟩ := hw
    exact hall a v hv

theorem Enumerates.cons_of_lt {a₀ : List Nat} (v₀ : β) (h : Enumerates P vs)
    (hP : ∀ a v, P a v → a₀ < a) :
    Enumerates (fun a v => a = a₀ ∧ v = v₀ ∨ P a v) (v₀ :: vs) := by
  obtain ⟨places, hsorted, hmatch, hall⟩ := h
  refine ⟨a₀ :: places, List.pairwise_cons.2 ⟨forall_mem_of_forall₂ hmatch hP, hsorted⟩,
    .cons (.inl ⟨rfl, rfl⟩) (hmatch.imp fun a v hv => .inr hv), ?_⟩
  rintro a v (⟨rfl, -⟩ | hv)
  · exact List.mem_cons_self
  · exact List.mem_cons_of_mem _ (hall a v hv)

theorem Enumerates.cons (v₀ : β) (h : Enumerates P vs) (hP : ∀ a v, P a v → a ≠ []) :
    Enumerates (fun a v => a = [] ∧ v = v₀ ∨ P a v) (v₀ :: vs) := by
  refine h.cons_of_lt v₀ fun a v hv => ?_
  obtain ⟨i, rest, rfl⟩ := List.exists_cons_of_ne_nil (hP a v hv)
  exact List.nil_lt_cons i rest

/-- What is enumerated inside each element of a list is enumerated inside the list, where the number
of the element stands before the address. -/
theorem Enumerates.flatMap {R : α → List Nat → β → Prop} {f : α → List β} {xs : List α}
    (h : ∀ x ∈ xs, Enumerates (R x) (f x)) :
    Enumerates (fun a v => ∃ i rest x, a = i :: rest ∧ xs[i]? = some x ∧ R x rest v)
      (xs.flatMap f) := by
  induction xs with
  | nil =>
    refine Enumerates.nil ?_
    rintro a v ⟨i, rest, x, -, hx, -⟩
    cases hx
  | cons x xs ih =>
    rw [List.forall_mem_cons] at h
    obtain ⟨first, hfirst, hmatch, hall⟩ := h.1
    obtain ⟨others, hothers, hmatch', hall'⟩ := ih h.2
    have hcons := forall_mem_of_forall₂ hmatch' (S := fun a => ∃ i rest, a = i :: rest)
      fun a v ⟨i, rest, _, ha, _⟩ => ⟨i, rest, ha⟩
    refine ⟨first.map (0 :: ·) ++ others.map (List.modifyHead (· + 1)), ?_, ?_, ?_⟩
    · refine List.pairwise_append.2 ⟨?_, ?_, ?_⟩
      · rw [List.pairwise_map]
        exact hfirst.imp fun hab => List.cons_lt_cons_iff.2 (.inr ⟨rfl, hab⟩)
      · rw [List.pairwise_map]
        refine hothers.imp_of_mem fun ha hb hab => ?_
        obtain ⟨i, rest, rfl⟩ := hcons _ ha
        obtain ⟨j, rest', rfl⟩ := hcons _ hb
        simpa [List.cons_lt_cons_iff] using hab
      · intro a ha b hb
        obtain ⟨rest, -, rfl⟩ := List.mem_map.1 ha
        obtain ⟨b', hb', rfl⟩ := List.mem_map.1 hb
        obtain ⟨j, rest', rfl⟩ := hcons _ hb'
        exact List.cons_lt_cons_iff.2 (.inl (Nat.succ_pos j))
    · rw [List.flatMap_cons]
      refine List.rel_append ?_ ?_
      · rw [List.forall₂_map_left_iff]
        exact hmatch.imp fun rest v hv => ⟨0, rest, x, rfl, rfl, hv⟩
      · rw [List.forall₂_map_left_iff]
        refine hmatch'.imp ?_
        rintro a v ⟨i, rest, y, rfl, hy, hv⟩
        exact ⟨i + 1, rest, y, rfl, hy, hv⟩
    · rintro a v ⟨i, rest, y, rfl, hy, hv⟩
      cases i with
      | zero =>
        cases hy
        exact List.mem_append_left _ (List.mem_map_of_mem (hall rest v hv))
      | succ i =>
        have hmem := hall' (i :: rest) v ⟨i, rest, y, rfl, hy, hv⟩
        exact List.mem_append_right _ (List.mem_map.2 ⟨_, hmem, rfl⟩)

theorem Enumerates.elements (xs : List β) :
    Enumerates (fun a x => ∃ i, a = [i] ∧ xs[i]? = some x) xs := by
  have hself : ∀ x ∈ xs, Enumerates (fun a y => a = [] ∧ y = x ∨ False) [x] := fun x _ =>
    (Enumerates.nil fun _ _ => not_false).cons x fun _ _ h => h.elim
  have hall := Enumerates.flatMap hself
  rw [List.flatMap_singleton'] at hall
  refine hall.congr fun a x => ?_
  constructor
  · rintro ⟨i, rest, y, rfl, hy, ⟨rfl, rfl⟩ | h⟩
    · exact ⟨i, rfl, hy⟩
    · exact h.elim
  · rintro ⟨i, rfl, hx⟩
    exact ⟨i, [], x, rfl, hx, .inl ⟨rfl, rfl⟩⟩

/-! ### At most one value at an address -/

section Unique
variable (hunique : ∀ a v v', P a v → P a v' → v' = v)
include hunique

theorem Enumerates.mem_iff (h : Enumerates P vs) {v : β} : v ∈ vs ↔ ∃ a, P a v := by
  obtain ⟨places, -, hmatch, hall⟩ := h
  constructor
  · intro hv
    obtain ⟨a, -, ha⟩ := exists_of_mem_forall₂ hmatch.flip v hv
    exact ⟨a, ha⟩
  · rintro ⟨a, ha⟩
    obtain ⟨v', hv', ha'⟩ := exists_of_mem_forall₂ hmatch a (hall a v ha)
    rwa [hunique a v' v ha' ha]

theorem Enumerates.filter (h : Enumerates P vs) (q : β → Bool) :
    Enumerates (fun a v => P a v ∧ q v) (vs.filter q) := by
  obtain ⟨places, hsorted, hmatch, hall⟩ := h
  obtain ⟨places', hsub, hmatch', hkept⟩ := exists_forall₂_filter hmatch q
  refine ⟨places', hsorted.sublist hsub, hmatch', fun a v hv => ?_⟩
  refine (hkept a (hall a v hv.1)).resolve_right ?_
  rintro ⟨w, hw, hq⟩
  rw [hunique a v w hv.1 hw] at hq
  exact hq hv.2

/-- Each value once, at the first of its addresses: the induction takes the value that comes first
away wherever else it stands. -/
theorem Enumerates.eraseDups [DecidableEq β] (h : Enumerates P vs) :
    Enumerates (fun a v => P a v ∧ ∀ a', P a' v → ¬ a' < a) vs.eraseDups := by
  induction hn : vs.length using Nat.strongRecOn generalizing P vs with
  | ind n ih =>
    have hfiltered := fun q => h.filter hunique q
    obtain ⟨places, hsorted, hmatch, hall⟩ := h
    cases hmatch with
    | nil => exact Enumerates.nil fun a v hv => List.not_mem_nil (hall a v hv.1)
    | @cons a₀ v₀ places rest ha₀ _ =>
      have hbefore : ∀ a v, P a v → v ≠ v₀ → a₀ < a := by
        intro a v hv hne
        rcases List.mem_cons.1 (hall a v hv) with rfl | ha
        · exact absurd (hunique a v₀ v ha₀ hv) hne
        · exact List.rel_of_pairwise_cons hsorted ha
      have hfirst : ∀ a v, P a v → ¬ a < a₀ := by
        intro a v hv
        rcases List.mem_cons.1 (hall a v hv) with rfl | ha
        · exact List.lt_irrefl a
        · exact List.lt_asymm (List.rel_of_pairwise_cons hsorted ha)
      -- what is left without the first value
      have hother := ih _ (by simpa [← hn] using Nat.lt_succ_of_le (List.length_filter_le _ rest))
        (fun a v v' hv hv' => hunique a v v' hv.1 hv'.1) (hfiltered fun w => !w == v₀) rfl
      simp only [List.filter_cons, beq_self_eq_true, Bool.not_true, Bool.false_eq_true, if_false,
        Bool.not_eq_true', beq_eq_false_iff_ne] at hother
      rw [List.eraseDups_cons]
      refine (hother.cons_of_lt v₀ fun a v hv => hbefore a v hv.1.1 hv.1.2).congr fun a v => ?_
      constructor
      · rintro (⟨rfl, rfl⟩ | ⟨⟨hv, hne⟩, hleast⟩)
        · exact ⟨ha₀, fun a' hv => hfirst a' v hv⟩
        · exact ⟨hv, fun a' hv' => hleast a' ⟨hv', hne⟩⟩
      · rintro ⟨hv, hleast⟩
        by_cases hne : v = v₀
        · subst hne
          refine .inl ⟨?_, rfl⟩
          rcases List.mem_cons.1 (hall a v hv) with rfl | ha
          · rfl
          · exact absurd (List.rel_of_pairwise_cons hsorted ha) (hleast a₀ ha₀)
        · exact .inr ⟨⟨hv, hne⟩, fun a' hv' => hleast a' hv'.1⟩

/-- The last value of a kind is the one that no other of its kind stands behind. -/
theorem Enumerates.last_iff (h : Enumerates P vs) {q : β → Prop} {v : β} :
    (∃ before after, vs = before ++ v :: after ∧ ∀ w ∈ after, ¬ q w) ↔
      ∃ a, P a v ∧ ∀ a' w, P a' w → q w → ¬ a < a' := by
  obtain ⟨places, hsorted, hmatch, hall⟩ := h
  constructor
  · rintro ⟨before, after, rfl, hafter⟩
    obtain ⟨front, a, back, rfl, -, ha, hback⟩ := forall₂_append_cons hmatch
    obtain ⟨-, hsorted, hbefore⟩ := List.pairwise_append.1 hsorted
    refine ⟨a, ha, fun a' w hw hq hlt => ?_⟩
    rcases List.mem_append.1 (hall a' w hw) with hmem | hmem
    · exact List.lt_asymm hlt (hbefore a' hmem a List.mem_cons_self)
    rcases List.mem_cons.1 hmem with rfl | hmem
    · exact List.lt_irrefl a' hlt
    · obtain ⟨w', hw', ha'⟩ := exists_of_mem_forall₂ hback a' hmem
      rw [hunique a' w' w ha' hw] at hq
      exact hafter w' hw' hq
  · rintro ⟨a, ha, hlast⟩
    obtain ⟨front, back, rfl⟩ := List.append_of_mem (hall a v ha)
    obtain ⟨before, v', after, rfl, -, ha', hafter⟩ := forall₂_append_cons hmatch.flip
    obtain rfl := hunique a v v' ha ha'
    refine ⟨before, after, rfl, fun w hw hq => ?_⟩
    obtain ⟨a', hmem, hw'⟩ := exists_of_mem_forall₂ hafter w hw
    refine hlast a' w hw' hq ?_
    exact List.rel_of_pairwise_cons (List.pairwise_append.1 hsorted).2.1 hmem

end Unique

end Enumerates

/-! ## Classes -/

/-- A class with the scopes around it. -/
structure ClassSite where
  scopes : List String
  line : Nat
  name : String
  decorators : List Expr

def ClassSite.within (scopes : List String) (c : ClassSite) : ClassSite :=
  { c with scopes := scopes ++ c.scopes }

def ClassSite.IsOf (c : ClassSite) (s : Stmt) : Prop :=
  ∃ body, s = .classDef c.line c.name c.decorators body

mutual

/-- The classes of a statement, from the outside in and in source order. -/
def Stmt.classes : Stmt → List ClassSite
  | .classDef line name decorators body =>
    ⟨[], line, name, decorators⟩ :: (classesOf body).map (.within [name])
  | .function name _ body => (classesOf body).map (.within [name, "<locals>"])
  | .branch body otherwise => classesOf body ++ classesOf otherwise
  | .loop body otherwise => classesOf body ++ classesOf otherwise
  | .withBlock body => classesOf body
  | .tryBlock body handlers otherwise final =>
    classesOf body ++ classesOfAll handlers ++ classesOf otherwise ++ classesOf final
  | .cases bodies => classesOfAll bodies
  | _ => []

def classesOf : List Stmt → List ClassSite
  | [] => []
  | s :: rest => s.classes ++ classesOf rest

def classesOfAll : List (List Stmt) → List ClassSite
  | [] => []
  | body :: rest => classesOf body ++ classesOfAll rest

end

theorem classesOf_eq_flatMap (body : List Stmt) : classesOf body = body.flatMap Stmt.classes := by
  induction body with
  | nil => rfl
  | cons s rest ih => rw [classesOf, ih, List.flatMap_cons]

theorem classesOfAll_eq_flatMap (bodies : List (List Stmt)) :
    classesOfAll bodies = bodies.flatMap classesOf := by
  induction bodies with
  | nil => rfl
  | cons body rest ih => rw [classesOfAll, ih, List.flatMap_cons]

def Stmt.ownClass : Stmt → List ClassSite
  | .classDef line name decorators _ => [⟨[], line, name, decorators⟩]
  | _ => []

theorem map_within_nil (cs : List ClassSite) : cs.map (.within []) = cs := by
  rw [show ClassSite.within [] = id from rfl, List.map_id]

theorem Stmt.classes_eq (s : Stmt) : s.classes =
    s.ownClass ++ (s.blocks.flatMap classesOf).map (.within s.ownScopes) := by
  cases s <;>
    simp [Stmt.classes, ownClass, ownScopes, blocks, map_within_nil, classesOfAll_eq_flatMap]

/-- A class inside a statement is the statement itself or lies in one of its blocks. -/
theorem Stmt.at_class_iff (s : Stmt) (a : List Nat) (c : ClassSite) :
    (∃ u, s.At a c.scopes u ∧ c.IsOf u) ↔ a = [] ∧ c ∈ s.ownClass ∨
      ∃ c' : ClassSite, (∃ j rest block, a = j :: rest ∧ s.blocks[j]? = some block ∧
        ∃ u, Stmt.In block rest c'.scopes u ∧ c'.IsOf u) ∧ c = c'.within s.ownScopes := by
  constructor
  · rintro ⟨u, hat, hu⟩
    obtain ⟨scopes, line, name, decorators⟩ := c
    obtain ⟨body, rfl⟩ := hu
    generalize hscopes : (ClassSite.mk scopes line name decorators).scopes = scopes' at hat
    cases hat with
    | self =>
      subst hscopes
      exact .inl ⟨rfl, List.mem_singleton_self _⟩
    | inside hblock ht h =>
      subst hscopes
      exact .inr ⟨⟨_, line, name, decorators⟩,
        ⟨_, _, _, rfl, hblock, _, ⟨_, _, _, rfl, ht, h⟩, body, rfl⟩, rfl⟩
  · rintro (⟨rfl, hc⟩ |
      ⟨c', ⟨j, rest, block, rfl, hblock, u, ⟨i, rest', t, rfl, ht, hat⟩, hu⟩, rfl⟩)
    · cases s with
      | classDef line name decorators body =>
        obtain rfl := List.mem_singleton.1 hc
        exact ⟨_, .self _, body, rfl⟩
      | _ => cases hc
    · exact ⟨u, .inside hblock ht hat, hu⟩

/-- A class in a body, at an address and with the scopes around it. -/
def IsClassAt (body : List Stmt) (a : List Nat) (c : ClassSite) : Prop :=
  ∃ u, Stmt.In body a c.scopes u ∧ c.IsOf u

theorem enumerates_body {body : List Stmt}
    (h : ∀ s ∈ body, Enumerates (fun a c => ∃ u, s.At a c.scopes u ∧ c.IsOf u) s.classes) :
    Enumerates (IsClassAt body) (classesOf body) := by
  rw [classesOf_eq_flatMap]
  refine (Enumerates.flatMap h).congr fun a c => ?_
  constructor
  · rintro ⟨i, rest, s, rfl, hs, u, hat, hu⟩
    exact ⟨u, ⟨i, rest, s, rfl, hs, hat⟩, hu⟩
  · rintro ⟨u, ⟨i, rest, s, rfl, hs, hat⟩, hu⟩
    exact ⟨i, rest, s, rfl, hs, u, hat, hu⟩

/-- If the blocks of a statement have their classes enumerated, so has the statement. -/
theorem Stmt.enumerates_classes {s : Stmt}
    (h : ∀ block ∈ s.blocks, Enumerates (IsClassAt block) (classesOf block)) :
    Enumerates (fun a c => ∃ u, s.At a c.scopes u ∧ c.IsOf u) s.classes := by
  have hblocks := (Enumerates.flatMap h).map (g := ClassSite.within s.ownScopes)
  have hiff := s.at_class_iff
  rw [s.classes_eq]
  cases hown : s.ownClass with
  | nil =>
    refine hblocks.congr fun a c => ?_
    rw [hiff, hown]
    simp [IsClassAt]
  | cons c₀ others =>
    obtain rfl : others = [] := by
      cases s <;> simp [ownClass] at hown
      exact hown.2
    refine (hblocks.cons c₀ ?_).congr fun a c => ?_
    · rintro a c ⟨c', ⟨j, rest, block, rfl, -⟩, -⟩
      exact List.cons_ne_nil j rest
    · rw [hiff, hown, List.mem_singleton]
      rfl

/-- The classes of every statement of a body are enumerated: one case for each kind of statement
that has blocks. -/
theorem enumerates_classes_of_mem (body : List Stmt) : ∀ s ∈ body,
    Enumerates (fun a c => ∃ u, s.At a c.scopes u ∧ c.IsOf u) s.classes := by
  induction body using classesOf.induct
    (motive_1 := fun s =>
      Enumerates (fun a c => ∃ u, s.At a c.scopes u ∧ c.IsOf u) s.classes)
    (motive_2 := fun bodies => ∀ body ∈ bodies, ∀ s ∈ body,
      Enumerates (fun a c => ∃ u, s.At a c.scopes u ∧ c.IsOf u) s.classes) with
  | case1 line name decorators body ih =>
    exact Stmt.enumerates_classes (by simpa [Stmt.blocks] using enumerates_body ih)
  | case2 name parameters body ih =>
    exact Stmt.enumerates_classes (by simpa [Stmt.blocks] using enumerates_body ih)
  | case3 body otherwise ihbody ihotherwise =>
    have hboth := And.intro (enumerates_body ihbody) (enumerates_body ihotherwise)
    exact Stmt.enumerates_classes (by simpa [Stmt.blocks] using hboth)
  | case4 body otherwise ihbody ihotherwise =>
    have hboth := And.intro (enumerates_body ihbody) (enumerates_body ihotherwise)
    exact Stmt.enumerates_classes (by simpa [Stmt.blocks] using hboth)
  | case5 body ih =>
    exact Stmt.enumerates_classes (by simpa [Stmt.blocks] using enumerates_body ih)
  | case6 body handlers otherwise final ihbody ihhandlers ihotherwise ihfinal =>
    refine Stmt.enumerates_classes fun block hblock => ?_
    simp only [Stmt.blocks, List.mem_cons, List.mem_append, List.not_mem_nil, or_false] at hblock
    rcases hblock with rfl | hblock | rfl | rfl
    · exact enumerates_body ihbody
    · exact enumerates_body (ihhandlers block hblock)
    · exact enumerates_body ihotherwise
    · exact enumerates_body ihfinal
  | case7 bodies ih =>
    exact Stmt.enumerates_classes fun block hblock => enumerates_body (ih block hblock)
  | case8 s hclass hfunction hbranch hloop hwith htry hcases =>
    have hblocks : s.blocks = [] := by
      cases s with
      | classDef => exact (hclass _ _ _ _ rfl).elim
      | function => exact (hfunction _ _ _ rfl).elim
      | branch => exact (hbranch _ _ rfl).elim
      | loop => exact (hloop _ _ rfl).elim
      | withBlock => exact (hwith _ rfl).elim
      | tryBlock => exact (htry _ _ _ _ rfl).elim
      | cases => exact (hcases _ rfl).elim
      | _ => rfl
    exact Stmt.enumerates_classes (by simp [hblocks])
  | case9 => exact nofun
  | case10 s rest ih ihrest => exact List.forall_mem_cons.2 ⟨ih, ihrest⟩
  | case11 block hblock => cases hblock
  | case12 body rest ih ihrest block hblock s hs =>
    rcases List.mem_cons.1 hblock with rfl | hblock
    · exact ih s hs
    · exact ihrest block hblock s hs

theorem enumerates_classesOf (body : List Stmt) : Enumerates (IsClassAt body) (classesOf body) :=
  enumerates_body (enumerates_classes_of_mem body)

theorem IsClassAt.unique {body : List Stmt} {a : List Nat} {c c' : ClassSite}
    (h : IsClassAt body a c) (h' : IsClassAt body a c') : c' = c := by
  obtain ⟨u, hin, inner, rfl⟩ := h
  obtain ⟨u', hin', inner', rfl⟩ := h'
  obtain ⟨hscopes, hstmt⟩ := hin.unique hin'
  cases c
  cases c'
  cases hstmt
  cases hscopes
  rfl

theorem mem_classesOf_iff {body : List Stmt} {c : ClassSite} :
    c ∈ classesOf body ↔ ∃ a, IsClassAt body a c :=
  (enumerates_classesOf body).mem_iff fun _ _ _ h h' => h.unique h'

end Sitemap.Source
