import Mathlib.Tactic.Positivity
import Mathlib.Tactic.Ring
import Sitemap.Number.Decimal

/-!
# Rounding depends on the value, and the shortest decimal reads back

* `ofUnits_congr` : equal quotients round to the same number;
* `ofUnits_whole` : a number rounds to itself;
* `ofDecimal_shift` : zeros at the end of the digits may be moved into the exponent;
* `ofDecimal_exact` : the decimal equal to a number reads back as it;
* `ofDecimal_shortest` : so does the shortest one.
-/

namespace Sitemap

attribute [local instance (2000)] instPowNat

/-! ## Quotients -/

theorem roundHalfEven_mul (c num den : Nat) (hc : 0 < c) :
    roundHalfEven (c * num) (c * den) = roundHalfEven num den := by
  unfold roundHalfEven
  have htwice : 2 * (c * (num % den)) = c * (2 * (num % den)) := by ring
  simp only [Nat.mul_div_mul_left _ _ hc, Nat.mul_mod_mul_left, htwice, Nat.mul_lt_mul_left hc,
    Nat.mul_right_inj (Nat.pos_iff_ne_zero.1 hc)]

theorem roundHalfEven_one (n : Nat) : roundHalfEven n 1 = n := by
  simp [roundHalfEven, Nat.mod_one]

namespace Binary64

/-- A number that is neither infinite nor not-a-number. -/
def IsFinite (x : Binary64) : Prop := ∃ s m q h, x = .finite s m q h

theorem ofUnits_mul (negative : Bool) (c num den : Nat) (hc : 0 < c) :
    ofUnits negative (c * num) (c * den) = ofUnits negative num den := by
  unfold ofUnits
  simp only [Nat.mul_div_mul_left _ _ hc, Nat.mul_assoc c den, roundHalfEven_mul c _ _ hc]

theorem ofUnits_congr (negative : Bool) {num den num' den' : Nat} (hden : 0 < den)
    (hden' : 0 < den') (h : num * den' = num' * den) :
    ofUnits negative num den = ofUnits negative num' den' := by
  calc ofUnits negative num den = ofUnits negative (den' * num) (den' * den) :=
        (ofUnits_mul negative den' num den hden').symm
    _ = ofUnits negative (den * num') (den * den') := by
        rw [Nat.mul_comm den' num, h, Nat.mul_comm num' den, Nat.mul_comm den' den]
    _ = ofUnits negative num' den' := ofUnits_mul negative den num' den' hden

theorem ofRatio_congr (negative : Bool) {num den num' den' : Nat} (hden : 0 < den)
    (hden' : 0 < den') (h : num * den' = num' * den) :
    ofRatio negative num den = ofRatio negative num' den' := by
  refine ofUnits_congr negative hden hden' ?_
  rw [Nat.mul_right_comm, h, Nat.mul_right_comm]

theorem log2_of_canonical {m q : Nat} (h : Canonical m q) (hm : m ≠ 0) :
    (m * 2 ^ q).log2 - 52 = q := by
  obtain ⟨hlt, hq, -⟩ := h
  have hne : m * 2 ^ q ≠ 0 := Nat.mul_ne_zero hm (Nat.pos_iff_ne_zero.1 (Nat.two_pow_pos q))
  rcases hq with rfl | hle
  · have hlog : (m * 2 ^ 0).log2 < 53 := (Nat.log2_lt hne).2 (by rwa [Nat.pow_zero, Nat.mul_one])
    omega
  · have hlog : (m * 2 ^ q).log2 = 52 + q := by
      rw [Nat.log2_eq_iff hne, Nat.pow_add, show 52 + q + 1 = 53 + q by omega, Nat.pow_add 2 53]
      exact ⟨Nat.mul_le_mul_right _ hle, Nat.mul_lt_mul_of_pos_right hlt (Nat.two_pow_pos q)⟩
    omega

theorem ofUnits_whole (negative : Bool) {m q : Nat} (h : Canonical m q) (hm : m ≠ 0) :
    ofUnits negative (m * 2 ^ q) 1 = .finite negative m q h := by
  have hround : roundHalfEven (m * 2 ^ q) (1 * 2 ^ q) = m := by
    have hmul := roundHalfEven_mul (2 ^ q) m 1 (Nat.two_pow_pos q)
    rwa [Nat.mul_comm (2 ^ q) m, Nat.mul_comm (2 ^ q) 1, roundHalfEven_one] at hmul
  unfold ofUnits
  simp only [Nat.div_one, log2_of_canonical h hm, hround, h, dif_pos]

theorem isNegative_ofUnits (negative : Bool) (num den : Nat) :
    (ofUnits negative num den).isNegative = negative := by
  unfold ofUnits
  simp only
  split
  · rfl
  · split <;> rfl

end Binary64

/-! ## Decimals -/

theorem digitCount_pos (n : Nat) : 0 < digitCount n := Nat.length_toDigits_pos

theorem digitCount_le_iff {n k : Nat} (hk : 0 < k) : digitCount n ≤ k ↔ n < 10 ^ k :=
  Nat.length_toDigits_le_iff (by decide) hk

theorem lt_digitCount_iff {n k : Nat} (hk : 0 < k) : k < digitCount n ↔ 10 ^ k ≤ n := by
  rw [← Nat.not_le, digitCount_le_iff hk, Nat.not_lt]

theorem digitCount_mul_ten {n : Nat} (hn : 0 < n) : digitCount (n * 10) = digitCount n + 1 := by
  unfold digitCount
  have happend := Nat.toDigits_append_toDigits (b := 10) (d := 0) (by decide) hn (by decide)
  rw [Nat.add_zero, Nat.toDigits_zero, Nat.mul_comm] at happend
  rw [← happend, List.length_append, List.length_singleton]

theorem digitCount_mul_pow {n : Nat} (hn : 0 < n) (k : Nat) :
    digitCount (n * 10 ^ k) = digitCount n + k := by
  induction k with
  | zero => simp
  | succ k ih =>
    rw [Nat.pow_succ, ← Nat.mul_assoc, digitCount_mul_ten (Nat.mul_pos hn (Nat.pow_pos (by decide))),
      ih, Nat.add_assoc]

namespace Binary64

theorem isNegative_ofDecimal (negative : Bool) (d : Decimal) :
    (ofDecimal negative d).isNegative = negative := by
  unfold ofDecimal ofRatio
  simp only
  split
  · rfl
  · split
    · rfl
    · split
      · rfl
      · split <;> exact isNegative_ofUnits _ _ _

theorem ofDecimal_of_places (negative : Bool) {d : Decimal} (hd : d.digits ≠ 0)
    (hhigh : d.exponent + digitCount d.digits ≤ 400)
    (hlow : -400 ≤ d.exponent + digitCount d.digits) :
    ofDecimal negative d =
      ofRatio negative (d.digits * 10 ^ d.exponent.toNat) (10 ^ (-d.exponent).toNat) := by
  unfold ofDecimal
  simp only [hd, if_false, Int.not_lt.2 hhigh, Int.not_lt.2 hlow]
  by_cases he : d.exponent < 0
  · rw [if_pos he, show d.exponent.toNat = 0 by omega, Nat.pow_zero, Nat.mul_one]
  · rw [if_neg he, show (-d.exponent).toNat = 0 by omega, Nat.pow_zero]

/-- A decimal that reads back as a finite number other than zero has its leading digit near the
point. -/
theorem places_of_ofDecimal {negative s : Bool} {d : Decimal} {m q : Nat} {h : Canonical m q}
    (hd : ofDecimal negative d = .finite s m q h) (hm : m ≠ 0) :
    d.digits ≠ 0 ∧ d.exponent + digitCount d.digits ≤ 400 ∧
      -400 ≤ d.exponent + digitCount d.digits := by
  unfold ofDecimal at hd
  simp only at hd
  split at hd
  · cases hd
    exact absurd rfl hm
  · rename_i hdigits
    split at hd
    · cases hd
    · rename_i hhigh
      split at hd
      · cases hd
        exact absurd rfl hm
      · rename_i hlow
        exact ⟨hdigits, Int.not_lt.1 hhigh, Int.not_lt.1 hlow⟩

/-- Zeros at the end of the digits may be moved into the exponent. -/
theorem ofDecimal_shift (negative : Bool) {n : Nat} (hn : 0 < n) (k : Nat) (e : Int) :
    ofDecimal negative ⟨n * 10 ^ k, e⟩ = ofDecimal negative ⟨n, e + k⟩ := by
  have hne : n * 10 ^ k ≠ 0 := by positivity
  have hplaces : e + digitCount (n * 10 ^ k) = e + k + digitCount n := by
    rw [digitCount_mul_pow hn]
    push_cast
    ring
  by_cases hhigh : e + k + digitCount n ≤ 400
  · by_cases hlow : -400 ≤ e + k + digitCount n
    · rw [ofDecimal_of_places negative hne (by simpa only [hplaces]) (by simpa only [hplaces]),
        ofDecimal_of_places negative (Nat.pos_iff_ne_zero.1 hn) hhigh hlow]
      refine ofRatio_congr negative (by positivity) (by positivity) ?_
      simp only [Nat.mul_assoc, ← Nat.pow_add]
      congr 2
      omega
    · unfold ofDecimal
      simp only [hne, Nat.pos_iff_ne_zero.1 hn, hplaces, if_false, Int.not_lt.2 hhigh,
        Int.not_le.1 hlow, if_true]
  · unfold ofDecimal
    simp only [hne, Nat.pos_iff_ne_zero.1 hn, hplaces, if_false, gt_iff_lt, Int.not_le.1 hhigh,
      if_true]

/-- The decimal equal to a number reads back as it. -/
theorem ofDecimal_exact {m q : Nat} (h : Canonical m q) (hm : m ≠ 0) :
    ofDecimal false (exact m q) = .finite false m q h := by
  have hpos : 1 ≤ m * 2 ^ q := Nat.mul_pos (Nat.pos_iff_ne_zero.2 hm) (Nat.two_pow_pos q)
  have hupper : m * 2 ^ q * 5 ^ 1074 < 10 ^ 1474 := by
    have hq : ∀ k, q ≤ k → 2 ^ q ≤ 2 ^ k := fun k => Nat.pow_le_pow_right (by decide)
    have hunits := Nat.mul_lt_mul_of_lt_of_le h.1 (hq 2045 h.2.2) (Nat.two_pow_pos 2045)
    calc m * 2 ^ q * 5 ^ 1074 < 2 ^ 53 * 2 ^ 2045 * 5 ^ 1074 :=
          Nat.mul_lt_mul_of_pos_right hunits (pow_pos (by decide) 1074)
      _ ≤ 10 ^ 1474 := by decide +kernel
  have hlower : 10 ^ 673 ≤ m * 2 ^ q * 5 ^ 1074 := by
    calc 10 ^ 673 ≤ 1 * 5 ^ 1074 := by decide +kernel
      _ ≤ m * 2 ^ q * 5 ^ 1074 := Nat.mul_le_mul_right _ hpos
  have hhigh := (digitCount_le_iff (by decide)).2 hupper
  have hlow := (lt_digitCount_iff (by decide)).2 hlower
  have hdigits : m * 2 ^ q * 5 ^ 1074 = (exact m q).digits := by rw [exact]
  have hexponent : (exact m q).exponent = -1074 := by rw [exact]
  have hne : (exact m q).digits ≠ 0 := by
    rw [← hdigits]
    positivity
  rw [hdigits] at hhigh hlow
  rw [ofDecimal_of_places false hne (by omega) (by omega), ← ofUnits_whole false h hm]
  have hcross : ∀ k, m * 2 ^ q * 5 ^ k * 10 ^ 0 * 2 ^ k * 1 = m * 2 ^ q * 10 ^ k := fun k => by
    rw [Nat.pow_zero, Nat.mul_one, Nat.mul_one, Nat.mul_assoc, ← Nat.mul_pow]
  refine ofUnits_congr false (pow_pos (by decide) _) (by decide) ?_
  simp only [← hdigits, hexponent, Int.neg_neg, Int.reduceNeg, Int.reduceToNat]
  exact hcross 1074

/-- A number that is not negative is the one whose parts it has. -/
theorem eq_finite_of_hasParts {m q : Nat} {x : Binary64} (h : Canonical m q)
    (hx : x.hasParts m q = true) (hsign : x.isNegative = false) : x = .finite false m q h := by
  cases x with
  | nan | infinite s => cases hx
  | finite s m' q' h' =>
    simp only [hasParts, Bool.and_eq_true, beq_iff_eq] at hx
    obtain ⟨rfl, rfl⟩ := hx
    cases hsign
    rfl

theorem ofDecimal_of_onGrid? {m q count : Nat} {d : Decimal} (h : Canonical m q)
    (hd : onGrid? m q count = some d) : ofDecimal false d = .finite false m q h := by
  unfold onGrid? at hd
  dsimp only at hd
  have hback := List.find?_some hd
  exact eq_finite_of_hasParts h hback (isNegative_ofDecimal false d)

theorem ofDecimal_shortest {m q : Nat} (h : Canonical m q) (hm : m ≠ 0) :
    ofDecimal false (shortest m q) = .finite false m q h := by
  unfold shortest
  cases hfind : (List.range 17).findSome? fun i => onGrid? m q (i + 1) with
  | none => exact ofDecimal_exact h hm
  | some d =>
    obtain ⟨i, -, hi⟩ := List.exists_of_findSome?_eq_some hfind
    exact ofDecimal_of_onGrid? h hi

end Binary64

end Sitemap
