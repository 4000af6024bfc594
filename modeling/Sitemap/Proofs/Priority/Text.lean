import Sitemap.Proofs.Number.Nearest

/-!
# The text of a priority

* `Decimal.IsWritten`, `StandsFor` : the rational number that a text in decimal stands for;
* `exists_standsFor_text` : the text of a priority stands for a number that is rounded to it;
* `textOfValue_finite` : such a text reads back, and belongs to one number only.
-/

namespace Sitemap

open Source

/-! ## Texts in decimal -/

/-- Characters write a decimal: digits, or a numeral with a part behind the point or with a power
of ten. -/
inductive Decimal.IsWritten : List Char → Decimal → Prop
  | digits {ds : List Char} (hne : ds ≠ []) (hds : AreDigits ds) : IsWritten ds ⟨digitsValue ds, 0⟩
  | numeral (n : Numeral) : IsWritten n.chars n.decimal

/-- A text stands for a rational number: it writes its size as a decimal, behind a minus sign if it
is negative. -/
inductive StandsFor : String → ℚ → Prop
  | unsigned {s : String} {d : Decimal} (h : d.IsWritten s.toList) : StandsFor s d.toRat
  | minus {s : String} {cs : List Char} {d : Decimal} (hs : s.toList = '-' :: cs)
      (h : d.IsWritten cs) : StandsFor s (-d.toRat)

/-! ## Priorities -/

namespace Priority

variable {x y : Binary64}

/-- A finite number is an integer if it has the value of one. -/
theorem integral?_eq_some_iff (hx : x.IsFinite) {n : ℤ} : x.integral? = some n ↔ x.toRat = n := by
  obtain ⟨s, m, q, h, rfl⟩ := hx
  have hvalue : ∀ (u : ℤ) (p : Nat), (u : ℚ) / 2 ^ p = n ↔ u = n * 2 ^ p := by
    intro u p
    rw [div_eq_iff (by positivity)]
    exact_mod_cast Iff.rfl
  rw [Binary64.toRat, hvalue]
  have hpos : (0 : ℤ) < 2 ^ 1074 := by positivity
  unfold Binary64.integral?
  dsimp only
  generalize (Binary64.finite s m q h).units = u
  generalize (2 : ℤ) ^ 1074 = c at *
  split_ifs with hmod
  · rw [Option.some.injEq]
    exact Int.ediv_eq_iff_eq_mul_left hpos.ne' (Int.dvd_of_emod_eq_zero hmod)
  · have hnot : u ≠ n * c := by
      rintro rfl
      exact hmod (Int.mul_emod_left n c)
    exact iff_of_false not_false hnot

theorem eq_iff_toRat (hx : x.IsFinite) (hy : y.IsFinite) :
    x.eq y = true ↔ x.toRat = y.toRat := by
  obtain ⟨s, m, q, h, rfl⟩ := hx
  obtain ⟨s', m', q', h', rfl⟩ := hy
  have hpos : (0 : ℚ) < 2 ^ 1074 := by positivity
  rw [Binary64.toRat, Binary64.toRat, div_left_inj' hpos.ne', Int.cast_inj]
  simp only [Binary64.eq, Binary64.point?, Binary64.Point.eq, beq_iff_eq]

/-- The text of a priority stands for a rational number that is rounded to the priority. -/
theorem exists_standsFor_text (hx : x.IsFinite) :
    ∃ r, StandsFor (text x) r ∧ Binary64.Rounds r x := by
  unfold text
  cases hn : x.integral? with
  | some n =>
    refine ⟨x.toRat, ?_, Binary64.rounds_toRat hx⟩
    have hdigits : Decimal.IsWritten (digitsOf n.natAbs) ⟨n.natAbs, 0⟩ := by
      have h := Decimal.IsWritten.digits (digitsOf_ne_nil n.natAbs) (areDigits_toDigits n.natAbs)
      rwa [digitsValue_digitsOf] at h
    have hsize : (Decimal.toRat ⟨n.natAbs, 0⟩) = (n.natAbs : ℤ) := by
      rw [Decimal.toRat, zpow_zero, mul_one, Int.cast_natCast]
    have hchars := toList_toString_int n
    rw [(integral?_eq_some_iff hx).1 hn]
    show StandsFor (toString n) n
    by_cases hneg : n < 0
    · rw [if_pos hneg] at hchars
      have h := StandsFor.minus hchars hdigits
      rwa [hsize, ← Int.cast_neg, show -((n.natAbs : Nat) : ℤ) = n by omega] at h
    · rw [if_neg hneg] at hchars
      have h := StandsFor.unsigned (hchars.symm ▸ hdigits)
      rwa [hsize, show ((n.natAbs : Nat) : ℤ) = n by omega] at h
  | none =>
    obtain ⟨s, m, q, h, rfl⟩ := hx
    obtain ⟨numeral, hchars, hread⟩ := exists_numeral_text h
    have hrounds := Binary64.rounds_ofDecimal hread (ne_zero_of_integral? hn)
    cases s with
    | false => exact ⟨_, .unsigned (hchars.symm ▸ .numeral numeral), hrounds⟩
    | true =>
      have hsigned := text_of_negative h
      rw [hchars] at hsigned
      exact ⟨_, .minus hsigned (.numeral numeral), hrounds.neg⟩

/-- Every finite number has a priority text: it stands for a rational number that is rounded to this
number and to no other, it reads back as a number equal to it, that of an integer is made of its
digits, and numbers with the same text are equal. -/
theorem textOfValue_finite (hx : x.IsFinite) : ∃ s, textOfValue (.float x) = .ok s ∧
    (∃ r, StandsFor s r ∧ Binary64.Rounds r x ∧ ∀ y, Binary64.Rounds r y → y.toRat = x.toRat) ∧
    (∃ y, Binary64.parse? s = some y ∧ y.IsFinite ∧ y.eq x = true) ∧
    (∀ n : ℤ, x.toRat = n →
      s.toList = (if n < 0 then ['-'] else []) ++ Nat.toDigits 10 n.natAbs) ∧
    ∀ y, y.IsFinite → textOfValue (.float y) = .ok s → y.toRat = x.toRat := by
  have hback : (if x = .zero true then .zero false else x).IsFinite := by
    split_ifs
    · exact ⟨_, _, _, _, rfl⟩
    · exact hx
  refine ⟨text x, rfl, ?_, ⟨_, parse?_text hx, hback, eq_readBack hx⟩, ?_, ?_⟩
  · obtain ⟨r, hr, hrounds⟩ := exists_standsFor_text hx
    exact ⟨r, hr, hrounds, fun y => hrounds.unique⟩
  · intro n hn
    unfold text
    rw [(integral?_eq_some_iff hx).2 hn]
    show (toString n).toList = _
    rw [toList_toString_int]
    split_ifs <;> rfl
  · intro y hy hsame
    have htext : text y = text x := Except.ok.inj hsame
    have hread := parse?_text hy
    rw [htext, parse?_text hx, Option.some.injEq] at hread
    have hxeq := eq_readBack hx
    have hyeq := eq_readBack hy
    rw [← hread, eq_iff_toRat hback hy] at hyeq
    rw [eq_iff_toRat hback hx] at hxeq
    exact hyeq.symm.trans hxeq

theorem canonical_least : Binary64.Canonical 1 0 := by decide

def least : Binary64 := .finite false 1 0 canonical_least

def large : Binary64 := .finite true (2 ^ 53 - 1) 1084 (by decide)

theorem textOfValue_least_large :
    (least.IsFinite ∧ large.IsFinite) ∧
    (textOfValue (.float least) = .ok "5e-324" ∧
      (∃ r, StandsFor "5e-324" r ∧ Binary64.Rounds r least) ∧
      ∃ y, Binary64.parse? "5e-324" = some y ∧ y.eq least = true) ∧
    ∃ s, textOfValue (.float large) = .ok s ∧ s.toList = "-9223372036854774784".toList := by
  have hleast : least.IsFinite := ⟨_, _, _, _, rfl⟩
  have hlarge : large.IsFinite := ⟨_, _, _, _, rfl⟩
  have htext : textOfValue (.float least) = .ok "5e-324" := by decide +kernel
  refine ⟨⟨hleast, hlarge⟩, ⟨htext, ?_⟩, ?_⟩
  · obtain ⟨s, hs, ⟨r, hr, hrounds, -⟩, ⟨y, hread, -, heq⟩, -⟩ := textOfValue_finite hleast
    cases htext.symm.trans hs
    exact ⟨⟨r, hr, hrounds⟩, y, hread, heq⟩
  · obtain ⟨s, hs, -, -, hwhole, -⟩ := textOfValue_finite hlarge
    refine ⟨s, hs, (hwhole (-9223372036854774784) ?_).trans (by decide)⟩
    apply (integral?_eq_some_iff hlarge).1
    decide +kernel

end Priority

end Sitemap
