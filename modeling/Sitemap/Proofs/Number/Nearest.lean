import Mathlib.Algebra.Order.Field.Power
import Mathlib.Data.Rat.Cast.Order
import Mathlib.Tactic.FieldSimp
import Mathlib.Tactic.Linarith
import Sitemap.Proofs.Number.Reading

/-!
# What a rational number is rounded to

* `Binary64.toRat` : the rational number that a finite number stands for;
* `Binary64.IsRepresentable` : the rational numbers with a significand of 53 bits, however large;
* `Binary64.Rounds` : a number is what a rational number is rounded to: no representable number is
  nearer, and if another is as near the significand is even (`unique`, `neg`);
* `rounds_ofRatio`, `rounds_ofDecimal` : what quotients and decimals are read as is what they are
  rounded to.
-/

namespace Sitemap

open Source

/-! ## Quotients -/

section Quotients
variable (num : Nat) {den : Nat} (hden : 0 < den)
include hden

/-- A quotient is rounded by one half at most, and by one half to an even number only. -/
theorem roundHalfEven_near :
    |(num : ℚ) / den - roundHalfEven num den| ≤ 1 / 2 ∧
      (|(num : ℚ) / den - roundHalfEven num den| = 1 / 2 → roundHalfEven num den % 2 = 0) := by
  have hden' : (0 : ℚ) < den := by exact_mod_cast hden
  have hsum : (num : ℚ) / den = (num / den : Nat) + (num % den : Nat) / den := by
    have h : (den : ℚ) * (num / den : Nat) + (num % den : Nat) = num := by
      exact_mod_cast Nat.div_add_mod num den
    field_simp
    linarith
  have hlt : num % den < den := Nat.mod_lt num hden
  rw [hsum]
  unfold roundHalfEven
  generalize num / den = k at *
  generalize num % den = rem at *
  have hrem : (0 : ℚ) ≤ rem / den := by positivity
  dsimp only
  split_ifs with hdown
  · -- the remainder is less than one half, or one half above an even number
    have hle : (rem : ℚ) / den ≤ 1 / 2 := by
      have h : (2 * rem : ℚ) ≤ den := by exact_mod_cast (by omega : 2 * rem ≤ den)
      rw [div_le_iff₀ hden']
      linarith
    rw [add_sub_cancel_left, abs_of_nonneg hrem]
    refine ⟨hle, fun heq => ?_⟩
    have h : 2 * rem = den := by
      rw [div_eq_iff hden'.ne'] at heq
      exact_mod_cast (by linarith : (2 * rem : ℚ) = den)
    omega
  · have hge : 1 / 2 ≤ (rem : ℚ) / den := by
      have h : (den : ℚ) ≤ 2 * rem := by exact_mod_cast (by omega : den ≤ 2 * rem)
      rw [le_div_iff₀ hden']
      linarith
    have hone : (rem : ℚ) / den < 1 := by
      rw [div_lt_one hden']
      exact_mod_cast hlt
    have habs : |(k : ℚ) + rem / den - (k + 1 : Nat)| = 1 - rem / den := by
      rw [Nat.cast_add, Nat.cast_one, abs_of_nonpos (by linarith)]
      ring
    rw [habs]
    refine ⟨by linarith, fun heq => ?_⟩
    have h : 2 * rem = den := by
      have hhalf : (rem : ℚ) / den = 1 / 2 := by linarith
      rw [div_eq_iff hden'.ne'] at hhalf
      exact_mod_cast (by linarith : (2 * rem : ℚ) = den)
    omega

/-- No integer is nearer to a quotient than what it is rounded to, and if another one is as near
then this one is even. -/
theorem roundHalfEven_nearest (j : ℤ) :
    |(num : ℚ) / den - roundHalfEven num den| ≤ |(num : ℚ) / den - j| ∧
      ((j : ℚ) ≠ roundHalfEven num den →
        |(num : ℚ) / den - j| = |(num : ℚ) / den - roundHalfEven num den| →
        roundHalfEven num den % 2 = 0) := by
  obtain ⟨hnear, heven⟩ := roundHalfEven_near num hden
  generalize (num : ℚ) / den = t at *
  generalize roundHalfEven num den = k at *
  by_cases hj : j = k
  · subst hj
    exact ⟨le_refl _, fun hne => absurd (Int.cast_natCast k) hne⟩
  · have hone : (1 : ℚ) ≤ |(k : ℚ) - j| := by
      have h : (1 : ℤ) ≤ |(k : ℤ) - j| := Int.one_le_abs (sub_ne_zero.2 (Ne.symm hj))
      exact_mod_cast h
    have htriangle : |(k : ℚ) - j| ≤ |t - k| + |t - j| := by
      have h := abs_sub_le (k : ℚ) t j
      rwa [abs_sub_comm (k : ℚ) t] at h
    refine ⟨by linarith, fun _ htie => heven ?_⟩
    linarith

end Quotients

namespace Binary64

/-! ## Representable numbers -/

def toRat (x : Binary64) : ℚ := x.units / 2 ^ 1074

def significand : Binary64 → Nat
  | .finite _ m _ _ => m
  | _ => 0

/-- A rational number `± m · 2^(q - 1074)` with a significand of 53 bits; here the exponent has no
upper end. -/
def IsRepresentable (v : ℚ) : Prop :=
  ∃ m q : Nat, m < 2 ^ 53 ∧ |v| = m * 2 ^ q / 2 ^ 1074

/-- A number is what a rational number is rounded to: no representable number is nearer, and it has
an even significand if another one is as near. A rational number that is nearer to `2^1024`, or as
near, than to all finite numbers is rounded to none. -/
structure Rounds (r : ℚ) (x : Binary64) : Prop where
  isFinite : x.IsFinite
  nearest : ∀ v, IsRepresentable v → |r - x.toRat| ≤ |r - v|
  even : ∀ v, IsRepresentable v → v ≠ x.toRat → |r - v| = |r - x.toRat| → x.significand % 2 = 0

section Rounds
variable {r : ℚ} {x y : Binary64}

/-- A number of 53 bits on a coarser grid lies on a finer one, and one on a finer grid is small. -/
theorem IsRepresentable.on_grid {v : ℚ} {m p : Nat} (hm : m < 2 ^ 53) (hv : |v| = m * 2 ^ p)
    (q : Nat) : (∃ j : ℤ, v = j * 2 ^ q) ∨ 0 < q ∧ |v| < 2 ^ 52 * 2 ^ q := by
  by_cases hq : q ≤ p
  · left
    have hpow : (m : ℚ) * 2 ^ p = (m * 2 ^ (p - q) : Nat) * 2 ^ q := by
      push_cast
      rw [mul_assoc, ← pow_add, Nat.sub_add_cancel hq]
    rw [hpow] at hv
    rcases abs_choice v with habs | habs
    · exact ⟨(m * 2 ^ (p - q) : Nat), by rw [Int.cast_natCast, ← hv, habs]⟩
    · refine ⟨-(m * 2 ^ (p - q) : Nat), ?_⟩
      rw [Int.cast_neg, Int.cast_natCast, neg_mul, ← hv, habs, neg_neg]
  · right
    refine ⟨by omega, ?_⟩
    have hle : (2 : ℚ) ^ (p + 1) ≤ 2 ^ q := pow_le_pow_right₀ (by norm_num) (by omega)
    have hlt : (m : ℚ) < 2 ^ 53 := by exact_mod_cast hm
    calc |v| = m * 2 ^ p := hv
      _ < 2 ^ 53 * 2 ^ p := mul_lt_mul_of_pos_right hlt (by positivity)
      _ = 2 ^ 52 * 2 ^ (p + 1) := by ring
      _ ≤ 2 ^ 52 * 2 ^ q := mul_le_mul_of_nonneg_left hle (by positivity)

/-- What is rounded to an integer of a grid is rounded so among all representable numbers, if the
grid is fine enough for it. -/
theorem grid_nearest {t v : ℚ} {k q m p : Nat}
    (hround : ∀ j : ℤ, |t / 2 ^ q - k| ≤ |t / 2 ^ q - j| ∧
      ((j : ℚ) ≠ k → |t / 2 ^ q - j| = |t / 2 ^ q - k| → k % 2 = 0))
    (hlow : 0 < q → 2 ^ 52 * 2 ^ q ≤ t) (hm : m < 2 ^ 53) (hv : |v| = m * 2 ^ p) :
    |t - k * 2 ^ q| ≤ |t - v| ∧ (v ≠ k * 2 ^ q → |t - v| = |t - k * 2 ^ q| → k % 2 = 0) := by
  have hpos : (0 : ℚ) < 2 ^ q := by positivity
  have hscale : ∀ a : ℚ, |t - a * 2 ^ q| = |t / 2 ^ q - a| * 2 ^ q := by
    intro a
    have h : t - a * 2 ^ q = (t / 2 ^ q - a) * 2 ^ q := by
      rw [sub_mul, div_mul_cancel₀ t hpos.ne']
    rw [h, abs_mul, abs_of_pos hpos]
  rcases IsRepresentable.on_grid hm hv q with ⟨j, rfl⟩ | ⟨hq, hsmall⟩
  · obtain ⟨hnear, heven⟩ := hround j
    rw [hscale, hscale]
    refine ⟨mul_le_mul_of_nonneg_right hnear hpos.le, fun hne htie => heven ?_ ?_⟩
    · intro heq
      apply hne
      rw [heq]
    · exact mul_right_cancel₀ hpos.ne' htie
  · -- the least number with 53 bits on the grid is nearer than anything below it
    have hleast := (hround (2 ^ 52 : Nat)).1
    have hnear : |t - k * 2 ^ q| ≤ |t - 2 ^ 52 * 2 ^ q| := by
      rw [hscale, hscale]
      apply mul_le_mul_of_nonneg_right _ hpos.le
      exact_mod_cast hleast
    rw [abs_of_nonneg (sub_nonneg.2 (hlow hq))] at hnear
    have hlt : |t - k * 2 ^ q| < |t - v| := by
      have hv' := le_abs_self v
      have ht := le_abs_self (t - v)
      linarith
    exact ⟨hlt.le, fun _ htie => absurd htie hlt.ne'⟩

theorem units_neg (x : Binary64) : x.neg.units = -x.units := by
  cases x with
  | nan | infinite s => rfl
  | finite s m q h => cases s <;> simp [neg, units]

theorem toRat_neg (x : Binary64) : x.neg.toRat = -x.toRat := by
  rw [toRat, toRat, units_neg, Int.cast_neg, neg_div]

theorem significand_neg (x : Binary64) : x.neg.significand = x.significand := by
  cases x <;> rfl

theorem IsFinite.neg (h : x.IsFinite) : x.neg.IsFinite := by
  obtain ⟨s, m, q, hcanonical, rfl⟩ := h
  exact ⟨!s, m, q, hcanonical, rfl⟩

theorem IsRepresentable.neg {v : ℚ} (h : IsRepresentable v) : IsRepresentable (-v) := by
  obtain ⟨m, q, hm, hv⟩ := h
  exact ⟨m, q, hm, by rw [abs_neg, hv]⟩

/-- Rounding does not depend on the sign. -/
theorem Rounds.neg (h : Rounds r x) : Rounds (-r) x.neg := by
  have hdist : ∀ a : ℚ, |-r - a| = |r - -a| := by
    intro a
    rw [← abs_neg]
    congr 1
    ring
  refine ⟨h.isFinite.neg, fun v hv => ?_, fun v hv hne htie => ?_⟩
  · rw [toRat_neg, hdist, hdist, neg_neg]
    exact h.nearest (-v) hv.neg
  · rw [toRat_neg] at hne htie
    rw [hdist, hdist, neg_neg] at htie
    rw [significand_neg]
    exact h.even (-v) hv.neg (fun heq => hne (by rw [← heq, neg_neg])) htie

theorem rounds_toRat (hx : x.IsFinite) : Rounds x.toRat x := by
  refine ⟨hx, fun v _ => ?_, fun v _ hne htie => ?_⟩
  · rw [sub_self, abs_zero]
    exact abs_nonneg _
  · rw [sub_self, abs_zero, abs_eq_zero, sub_eq_zero] at htie
    exact absurd htie.symm hne

/-- A number on a grid that is fine enough is what is rounded to it on the grid. -/
theorem rounds_of_grid {k q : Nat} (hx : x.IsFinite) (hunits : (x.units : ℚ) = k * 2 ^ q)
    (heven : k % 2 = 0 → x.significand % 2 = 0)
    (hround : ∀ j : ℤ, |r * 2 ^ 1074 / 2 ^ q - k| ≤ |r * 2 ^ 1074 / 2 ^ q - j| ∧
      ((j : ℚ) ≠ k → |r * 2 ^ 1074 / 2 ^ q - j| = |r * 2 ^ 1074 / 2 ^ q - k| → k % 2 = 0))
    (hlow : 0 < q → 2 ^ 52 * 2 ^ q ≤ r * 2 ^ 1074) : Rounds r x := by
  have hpos : (0 : ℚ) < 2 ^ 1074 := by positivity
  have hnear := fun v m p => @grid_nearest (r * 2 ^ 1074) (v * 2 ^ 1074) k q m p hround hlow
  have hself : x.toRat * 2 ^ 1074 = k * 2 ^ q := by
    rw [toRat, hunits, div_mul_cancel₀ _ hpos.ne']
  have hrepresentable : ∀ v : ℚ, IsRepresentable v → ∃ m p : Nat, m < 2 ^ 53 ∧
      |v * 2 ^ 1074| = (m : ℚ) * 2 ^ p := by
    rintro v ⟨m, p, hm, hv⟩
    exact ⟨m, p, hm, by rw [abs_mul, hv, abs_of_pos hpos, div_mul_cancel₀ _ hpos.ne']⟩
  generalize (2 : ℚ) ^ 1074 = c at *
  have hscale : ∀ a : ℚ, |r * c - a * c| = |r - a| * c := by
    intro a
    rw [← sub_mul, abs_mul, abs_of_pos hpos]
  rw [← hself] at hnear
  refine ⟨hx, fun v hv => ?_, fun v hv hne htie => heven ?_⟩
  · obtain ⟨m, p, hm, hv⟩ := hrepresentable v hv
    have h := (hnear v m p hm hv).1
    rw [hscale, hscale] at h
    exact le_of_mul_le_mul_right h hpos
  · obtain ⟨m, p, hm, hv⟩ := hrepresentable v hv
    apply (hnear v m p hm hv).2
    · exact fun heq => hne (mul_right_cancel₀ hpos.ne' heq)
    · rw [hscale, hscale, htie]

end Rounds

/-! ## Rounding to a number -/

section Quotients
variable (num : Nat) {den : Nat} (hden : 0 < den)
include hden

/-- The grid that a quotient is rounded on leaves it 53 bits. -/
theorem grid_of_quotient : let q := (num / den).log2 - 52
    num < 2 ^ 53 * (den * 2 ^ q) ∧ (0 < q → 2 ^ 52 * (den * 2 ^ q) ≤ num) := by
  intro q
  have hq : q = (num / den).log2 - 52 := rfl
  have hfloor : num / den * den ≤ num := Nat.div_mul_le_self num den
  have hceil : num < (num / den + 1) * den := by
    rw [Nat.add_mul, Nat.one_mul]
    exact Nat.lt_div_mul_add hden
  constructor
  · have hlt : num / den + 1 ≤ 2 ^ (53 + q) := by
      have hlog : num / den < 2 ^ ((num / den).log2 + 1) := Nat.lt_log2_self
      have hle : 2 ^ ((num / den).log2 + 1) ≤ 2 ^ (53 + q) :=
        Nat.pow_le_pow_right (by decide) (by omega)
      omega
    calc num < (num / den + 1) * den := hceil
      _ ≤ 2 ^ (53 + q) * den := Nat.mul_le_mul_right den hlt
      _ = 2 ^ 53 * (den * 2 ^ q) := by rw [Nat.pow_add, Nat.mul_assoc, Nat.mul_comm den]
  · intro hpos
    have hne : num / den ≠ 0 := by
      intro hzero
      rw [hzero, Nat.log2_zero] at hq
      omega
    have hle : 2 ^ (52 + q) ≤ num / den := by
      rw [show 52 + q = (num / den).log2 by omega]
      exact Nat.log2_self_le hne
    calc 2 ^ 52 * (den * 2 ^ q) = 2 ^ (52 + q) * den := by
          rw [Nat.pow_add, Nat.mul_assoc, Nat.mul_comm den]
      _ ≤ num / den * den := Nat.mul_le_mul_right den hle
      _ ≤ num := hfloor

theorem roundHalfEven_bounds {low high : Nat} (hlow : low * den ≤ num) (hhigh : num < high * den) :
    low ≤ roundHalfEven num den ∧ roundHalfEven num den ≤ high := by
  have hle : low ≤ num / den := (Nat.le_div_iff_mul_le hden).2 hlow
  have hlt : num / den < high := (Nat.div_lt_iff_lt_mul hden).2 hhigh
  unfold roundHalfEven
  dsimp only
  split_ifs <;> omega

/-- A quotient that is rounded to a finite number is rounded to it on its grid; a significand with
54 bits is halved. -/
theorem ofUnits_eq_finite {negative s : Bool} {m p : Nat} {h : Canonical m p}
    (hfinite : ofUnits negative num den = .finite s m p h) :
    let q := (num / den).log2 - 52
    let k := roundHalfEven num (den * 2 ^ q)
    s = negative ∧ m * 2 ^ p = k * 2 ^ q ∧ (k % 2 = 0 → m % 2 = 0) := by
  intro q k
  obtain ⟨hhigh, hlow⟩ := grid_of_quotient num hden
  have hgrid : 0 < den * 2 ^ q := Nat.mul_pos hden (Nat.two_pow_pos q)
  unfold ofUnits at hfinite
  dsimp only at hfinite
  split_ifs at hfinite with hcanonical hhalf
  · cases hfinite
    exact ⟨rfl, rfl, id⟩
  · -- the grid was too fine for the rounded quotient, which has all bits but one zero
    have hk : k = 2 ^ 53 := by
      have hzero : 0 * (den * 2 ^ q) ≤ num := by
        rw [Nat.zero_mul]
        exact Nat.zero_le num
      have hle : k ≤ 2 ^ 53 := (roundHalfEven_bounds num hgrid hzero hhigh).2
      have hge : ¬ k < 2 ^ 53 := by
        intro hlt
        apply hcanonical
        refine ⟨hlt, ?_, by have := hhalf.2.2; omega⟩
        by_cases hq : 0 < q
        · exact .inr (roundHalfEven_bounds num hgrid (hlow hq) hhigh).1
        · exact .inl (by omega)
      omega
    cases hfinite
    refine ⟨rfl, ?_, fun _ => ?_⟩
    · show k / 2 * 2 ^ (q + 1) = k * 2 ^ q
      rw [hk, show 2 ^ 53 / 2 = 2 ^ 52 by decide, ← Nat.pow_add, ← Nat.pow_add]
      congr 1
      omega
    · show k / 2 % 2 = 0
      rw [hk]
      decide

/-- A quotient of units is rounded to what it is read as. -/
theorem rounds_ofUnits {x : Binary64} (hx : ofUnits false num den = x) (hfinite : x.IsFinite)
    {r : ℚ} (hr : r * 2 ^ 1074 = (num : ℚ) / den) : Rounds r x := by
  obtain ⟨s, m, p, h, rfl⟩ := hfinite
  obtain ⟨rfl, hunits, heven⟩ := ofUnits_eq_finite num hden hx
  have hlow := (grid_of_quotient num hden).2
  generalize (num / den).log2 - 52 = q at *
  have hgrid : 0 < den * 2 ^ q := Nat.mul_pos hden (Nat.two_pow_pos q)
  have hscaled : r * 2 ^ 1074 / 2 ^ q = (num : ℚ) / (den * 2 ^ q : Nat) := by
    rw [hr, div_div, Nat.cast_mul, Nat.cast_pow, Nat.cast_ofNat]
  have hfinite : (finite false m p h).IsFinite := ⟨_, _, _, _, rfl⟩
  refine rounds_of_grid (k := roundHalfEven num (den * 2 ^ q)) (q := q) hfinite ?_ heven ?_ ?_
  · rw [units_finite]
    exact_mod_cast hunits
  · rw [hscaled]
    exact roundHalfEven_nearest num hgrid
  · intro hq
    have hle : ((2 ^ 52 * (den * 2 ^ q) : Nat) : ℚ) ≤ num := by exact_mod_cast hlow hq
    have hden' : (0 : ℚ) < den := by exact_mod_cast hden
    rw [hr, le_div_iff₀ hden']
    push_cast at hle
    linarith

theorem rounds_ofRatio {x : Binary64} (hx : ofRatio false num den = x) (hfinite : x.IsFinite) :
    Rounds ((num : ℚ) / den) x := by
  have hcast : ∀ p : Nat, (num : ℚ) / den * 2 ^ p = (num * 2 ^ p : Nat) / den := fun p => by
    rw [Nat.cast_mul, Nat.cast_pow, Nat.cast_ofNat, div_mul_eq_mul_div]
  exact rounds_ofUnits (num * 2 ^ 1074) hden hx hfinite (by rw [hcast])

end Quotients

/-! ## One number only -/

section Unique
variable {r : ℚ} {x y : Binary64}

theorem IsFinite.exists_units (hx : x.IsFinite) : ∃ m q, Canonical m q ∧ x.significand = m ∧
    |(x.units : ℚ)| = m * 2 ^ q := by
  obtain ⟨s, m, q, h, rfl⟩ := hx
  refine ⟨m, q, h, rfl, ?_⟩
  have hsize : |((finite false m q h).units : ℚ)| = m * 2 ^ q := by
    rw [units_finite]
    push_cast
    exact abs_of_nonneg (by positivity)
  cases s with
  | false => exact hsize
  | true =>
    have hneg : (finite true m q h).units = -(finite false m q h).units :=
      units_neg (finite false m q h)
    rw [hneg, Int.cast_neg, abs_neg, hsize]

theorem Canonical.unique {m q m' q' : Nat} (h : Canonical m q) (h' : Canonical m' q') (hm : m ≠ 0)
    (heq : m * 2 ^ q = m' * 2 ^ q') : m = m' := by
  have hm' : m' ≠ 0 := by
    rintro rfl
    rw [Nat.zero_mul] at heq
    exact Nat.mul_ne_zero hm (Nat.two_pow_pos q).ne' heq
  have hread := ofUnits_whole false h hm
  rw [heq, ofUnits_whole false h' hm'] at hread
  injection hread with _ hsame
  exact hsame.symm

/-- Between two numbers that are not negative and have even significands there is another. -/
theorem exists_units_between (hx : x.IsFinite) (hy : y.IsFinite) (hlow : 0 ≤ x.units)
    (hlt : x.units < y.units) (hxeven : x.significand % 2 = 0) (hyeven : y.significand % 2 = 0) :
    ∃ m q : Nat, m < 2 ^ 53 ∧ (x.units : ℚ) < m * 2 ^ q ∧ (m * 2 ^ q : ℚ) < y.units := by
  obtain ⟨m, q, hm, rfl, hunits⟩ := hx.exists_units
  obtain ⟨m', q', hm', rfl, hunits'⟩ := hy.exists_units
  generalize x.significand = m at *
  generalize y.significand = m' at *
  have hlow' : (0 : ℚ) ≤ x.units := by exact_mod_cast hlow
  have hlt' : (x.units : ℚ) < y.units := by exact_mod_cast hlt
  have hpos : (0 : ℚ) < 2 ^ q := by positivity
  rw [abs_of_nonneg hlow'] at hunits
  have hnext : m + 1 < 2 ^ 53 := by
    have := hm.1
    omega
  refine ⟨m + 1, q, hnext, ?_, lt_of_le_of_ne ?_ ?_⟩
  · rw [hunits]
    exact mul_lt_mul_of_pos_right (by exact_mod_cast Nat.lt_succ_self m) hpos
  · -- the upper number lies on the grid of the lower one
    rcases IsRepresentable.on_grid hm'.1 hunits' q with ⟨j, hj⟩ | ⟨hq, hsmall⟩
    · rw [hj, hunits] at hlt'
      rw [hj]
      have hj' : (m : ℤ) < j := by exact_mod_cast lt_of_mul_lt_mul_right hlt' hpos.le
      apply mul_le_mul_of_nonneg_right _ hpos.le
      exact_mod_cast Int.add_one_le_of_lt hj'
    · have hbits : (2 ^ 52 : ℚ) ≤ m := by exact_mod_cast hm.2.1.resolve_left hq.ne'
      have hle : 2 ^ 52 * 2 ^ q ≤ (m : ℚ) * 2 ^ q := mul_le_mul_of_nonneg_right hbits hpos.le
      have habs := le_abs_self (y.units : ℚ)
      linarith
  · -- and it is not the next one, whose significand is odd
    intro heq
    rw [← heq, abs_of_pos (by positivity)] at hunits'
    have hcanonical : Canonical (m + 1) q :=
      ⟨hnext, hm.2.1.imp_right fun hle => Nat.le_succ_of_le hle, hm.2.2⟩
    have hsame := hcanonical.unique hm' m.succ_ne_zero (by exact_mod_cast hunits')
    omega

theorem isRepresentable_of_units {m : Nat} (hm : m < 2 ^ 53) (q : Nat) :
    IsRepresentable (m * 2 ^ q / 2 ^ 1074) :=
  ⟨m, q, hm, abs_of_nonneg (by positivity)⟩

theorem IsFinite.isRepresentable (hx : x.IsFinite) : IsRepresentable x.toRat := by
  obtain ⟨m, q, hm, -, hunits⟩ := hx.exists_units
  have hpos : (0 : ℚ) < 2 ^ 1074 := by positivity
  exact ⟨m, q, hm.1, by rw [toRat, abs_div, hunits, abs_of_pos hpos]⟩

theorem toRat_lt_toRat : x.toRat < y.toRat ↔ x.units < y.units := by
  have hpos : (0 : ℚ) < 2 ^ 1074 := by positivity
  rw [toRat, toRat, div_lt_div_iff_of_pos_right hpos, Int.cast_lt]

/-- Between two numbers with even significands there is a representable one. -/
theorem exists_between (hx : x.IsFinite) (hy : y.IsFinite) (hlt : x.toRat < y.toRat)
    (hxeven : x.significand % 2 = 0) (hyeven : y.significand % 2 = 0) :
    ∃ v, IsRepresentable v ∧ x.toRat < v ∧ v < y.toRat := by
  have hpos : (0 : ℚ) < 2 ^ 1074 := by positivity
  have hunits := toRat_lt_toRat.1 hlt
  by_cases hlow : 0 ≤ x.units
  · obtain ⟨m, q, hm, hxm, hmy⟩ := exists_units_between hx hy hlow hunits hxeven hyeven
    refine ⟨_, isRepresentable_of_units hm q, ?_, ?_⟩
    · exact div_lt_div_of_pos_right hxm hpos
    · exact div_lt_div_of_pos_right hmy hpos
  · by_cases hhigh : y.units ≤ 0
    · -- the same on the other side of zero
      obtain ⟨m, q, hm, hym, hmx⟩ := exists_units_between hy.neg hx.neg
        (by rw [units_neg]; exact neg_nonneg.2 hhigh)
        (by rw [units_neg, units_neg]; exact neg_lt_neg hunits)
        (by rw [significand_neg]; exact hyeven) (by rw [significand_neg]; exact hxeven)
      refine ⟨_, (isRepresentable_of_units hm q).neg, ?_, ?_⟩
      · rw [← neg_lt_neg_iff, neg_neg, ← toRat_neg]
        exact div_lt_div_of_pos_right hmx hpos
      · rw [← neg_lt_neg_iff, neg_neg, ← toRat_neg]
        exact div_lt_div_of_pos_right hym hpos
    · have hzero : IsRepresentable 0 := ⟨0, 0, by decide, by simp⟩
      refine ⟨0, hzero, ?_, ?_⟩
      · apply div_neg_of_neg_of_pos _ hpos
        exact_mod_cast not_le.1 hlow
      · apply div_pos _ hpos
        exact_mod_cast not_le.1 hhigh

/-- A rational number is rounded to one number only; the two zeros are one. -/
theorem Rounds.unique (hx : Rounds r x) (hy : Rounds r y) : y.toRat = x.toRat := by
  have hdist : |r - x.toRat| = |r - y.toRat| :=
    le_antisymm (hx.nearest _ hy.isFinite.isRepresentable) (hy.nearest _ hx.isFinite.isRepresentable)
  by_contra hne
  have hxeven := hx.even _ hy.isFinite.isRepresentable hne hdist.symm
  have hyeven := hy.even _ hx.isFinite.isRepresentable (Ne.symm hne) hdist
  -- a number between the two would be nearer than both
  have hnearer : ∀ a b v : ℚ, a < v → v < b → |r - a| = |r - b| → |r - v| < |r - a| := by
    intro a b v hav hvb heq
    have hr : r = (a + b) / 2 := by
      rcases abs_eq_abs.1 heq with h | h <;> linarith
    rw [hr, abs_lt]
    have ha : |(a + b) / 2 - a| = (b - a) / 2 := by
      rw [show (a + b) / 2 - a = (b - a) / 2 by ring]
      exact abs_of_nonneg (by linarith)
    rw [ha]
    constructor <;> linarith
  rcases lt_or_gt_of_ne hne with hlt | hlt
  · obtain ⟨v, hv, hyv, hvx⟩ := exists_between hy.isFinite hx.isFinite hlt hyeven hxeven
    exact absurd (hy.nearest v hv) (not_le.2 (hnearer _ _ v hyv hvx hdist.symm))
  · obtain ⟨v, hv, hxv, hvy⟩ := exists_between hx.isFinite hy.isFinite hlt hxeven hyeven
    exact absurd (hx.nearest v hv) (not_le.2 (hnearer _ _ v hxv hvy hdist))

end Unique

end Binary64

/-! ## Decimals -/

def Decimal.toRat (d : Decimal) : ℚ := d.digits * 10 ^ d.exponent

namespace Binary64

/-- A decimal is rounded to what it is read as, if that is neither infinite nor zero. -/
theorem rounds_ofDecimal {d : Decimal} {s : Bool} {m q : Nat} {h : Canonical m q}
    (hd : ofDecimal false d = .finite s m q h) (hm : m ≠ 0) : Rounds d.toRat (.finite s m q h) := by
  obtain ⟨hdigits, hhigh, hlow⟩ := places_of_ofDecimal hd hm
  rw [ofDecimal_of_places false hdigits hhigh hlow] at hd
  have hten : 0 < 10 ^ (-d.exponent).toNat := Nat.pow_pos (by decide)
  have hrounds := rounds_ofRatio _ hten hd ⟨_, _, _, _, rfl⟩
  have hvalue : d.toRat =
      (d.digits * 10 ^ d.exponent.toNat : Nat) / (10 ^ (-d.exponent).toNat : Nat) := by
    have hexponent : (10 : ℚ) ^ d.exponent =
        10 ^ d.exponent.toNat / 10 ^ (-d.exponent).toNat := by
      rw [← zpow_natCast, ← zpow_natCast, ← zpow_sub₀ (by norm_num)]
      congr 1
      omega
    rw [Decimal.toRat, hexponent]
    push_cast
    ring
  rwa [hvalue]

end Binary64

end Sitemap
