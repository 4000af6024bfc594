import Mathlib.Algebra.Order.Ring.Int
import Sitemap.Proofs.Number.Reading

/-!
# Clamping numbers of every kind and size

* `Binary64.Point.Le` : the exact order of numbers of both kinds;
* `Value.lesser`, `Value.greater` : the first of two numbers unless the second is beyond it;
* `Priority.exists_ofValue` : what an integer or a float is clamped to;
* `Priority.ofValue_eq_toFloat` : a priority is clamped before it is converted, so that the
  conversion cannot fail;
* `Priority.exists_ofValue_inRange`, `Priority.ofValue_mono` : a clamped number is in range, and
  the order of numbers is kept.
-/

namespace Sitemap

/-! ## Comparing numbers -/

/-- A point of the extended number line is at most another. -/
def Binary64.Point.Le (a b : Binary64.Point) : Prop := a.lt b ∨ a.eq b

instance (a b : Binary64.Point) : Decidable (a.Le b) := by
  unfold Binary64.Point.Le
  infer_instance

theorem Binary64.Point.at_le_at {a b : ℤ} : (Binary64.Point.at a).Le (.at b) ↔ a ≤ b := by
  rw [Binary64.Point.Le, Binary64.Point.lt, Binary64.Point.eq, decide_eq_true_eq, beq_iff_eq]
  exact le_iff_lt_or_eq.symm

namespace Value

/-- A number is less than another; both are compared exactly, and not-a-number is less than none. -/
def less (v w : Value) : Bool :=
  match v.asPoint?, w.asPoint? with
  | some (some a), some (some b) => a.lt b
  | _, _ => false

/-- The second of two numbers if it is less, else the first. -/
def lesser (v w : Value) : Value := if w.less v then w else v

/-- The second of two numbers if it is greater, else the first. -/
def greater (v w : Value) : Value := if v.less w then w else v

theorem less_float (x y : Binary64) : less (.float x) (.float y) = x.lt y := by
  unfold less Binary64.lt
  simp only [asPoint?]
  cases x.point? <;> cases y.point? <;> rfl

theorem lesser_float (x y : Binary64) :
    lesser (.float x) (.float y) = .float (if y.lt x then y else x) := by
  rw [lesser, less_float]
  split <;> rfl

theorem greater_float (x y : Binary64) :
    greater (.float x) (.float y) = .float (if x.lt y then y else x) := by
  rw [greater, less_float]
  split <;> rfl

theorem less_iff {v w : Value} {a b : ℤ} (hv : v.asPoint? = some (some (.at a)))
    (hw : w.asPoint? = some (some (.at b))) : v.less w = true ↔ a < b := by
  rw [less, hv, hw]
  simp only [Binary64.Point.lt, decide_eq_true_eq]

theorem isFloat_or_asInt? {v : Value} {p : Option Binary64.Point} (h : v.asPoint? = some p) :
    (∃ x, v = .float x ∧ x.point? = p) ∨
      ∃ n, v.asInt? = some n ∧ some (Binary64.pointOfInt n) = p := by
  cases v with
  | float x =>
    cases h
    exact .inl ⟨x, rfl, rfl⟩
  | _ => exact .inr (Option.map_eq_some_iff.1 h)

end Value

namespace Priority

theorem one_ne_zero_true : Binary64.one ≠ .zero true := by
  rintro ⟨⟩

theorem zero_false_ne_zero_true : Binary64.zero false ≠ .zero true := by
  rintro ⟨⟩

/-! ## Clamping -/

/-- The units of what a number is clamped to; `none` is not-a-number. -/
def clampUnits : Option Binary64.Point → ℤ
  | some .least => 0
  | some (.at u) => max 0 (min u (2 ^ 1074))
  | some .greatest => 2 ^ 1074
  | none => 2 ^ 1074

theorem unit_pos : (0 : ℤ) < 2 ^ 1074 := Int.pow_pos (by decide)

theorem clampUnits_of_le {u : ℤ} (h : u ≤ 0) : clampUnits (some (.at u)) = 0 := by
  have hone := unit_pos
  rw [clampUnits, min_eq_left (h.trans hone.le), max_eq_left h]

theorem clampUnits_of_ge {u : ℤ} (h : 2 ^ 1074 ≤ u) : clampUnits (some (.at u)) = 2 ^ 1074 := by
  rw [clampUnits, min_eq_right h, max_eq_right unit_pos.le]

theorem clampUnits_of_mem {u : ℤ} (hlow : 0 ≤ u) (hhigh : u ≤ 2 ^ 1074) :
    clampUnits (some (.at u)) = u := by
  rw [clampUnits, min_eq_left hhigh, max_eq_right hlow]

theorem clampUnits_mem (p : Option Binary64.Point) :
    0 ≤ clampUnits p ∧ clampUnits p ≤ 2 ^ 1074 := by
  have hone := unit_pos.le
  match p with
  | none => exact ⟨hone, le_refl _⟩
  | some .least => exact ⟨le_refl _, hone⟩
  | some (.at u) => exact ⟨le_max_left _ _, max_le hone (min_le_right _ _)⟩
  | some .greatest => exact ⟨hone, le_refl _⟩

theorem clampUnits_mono {a b : Binary64.Point} (h : a.Le b) :
    clampUnits (some a) ≤ clampUnits (some b) := by
  cases a with
  | least => exact (clampUnits_mem (some b)).1
  | «at» u =>
    cases b with
    | least => rcases h with h | h <;> cases h
    | «at» w => exact max_le_max_left 0 (min_le_min_right _ (Binary64.Point.at_le_at.1 h))
    | greatest => exact (clampUnits_mem (some (.at u))).2
  | greatest =>
    cases b with
    | greatest => exact le_refl _
    | _ => rcases h with h | h <;> cases h

theorem zero_lt_one : (Binary64.zero false).lt .one = true := by
  rw [Binary64.lt_iff_units (Binary64.isFinite_zero false) Binary64.isFinite_one, Binary64.units_zero,
    Binary64.units_one]
  exact unit_pos

theorem clamp_of_not_lt {x : Binary64} (h : x.lt .one = false) : clamp x = .one := by
  unfold clamp
  simp only [h, Bool.false_eq_true, if_false, zero_lt_one, if_true]

theorem clamp_of_lt {x : Binary64} (h : x.lt .one = true) :
    clamp x = if (Binary64.zero false).lt x then x else .zero false := by
  unfold clamp
  simp only [h, if_true]

/-- A number is clamped to a finite one, and never to the negative zero. -/
theorem clamp_spec (x : Binary64) : (clamp x).IsFinite ∧ clamp x ≠ .zero true ∧
    (clamp x).units = clampUnits x.point? := by
  cases x with
  | nan =>
    rw [clamp_of_not_lt rfl]
    exact ⟨Binary64.isFinite_one, one_ne_zero_true, Binary64.units_one⟩
  | infinite negative =>
    cases negative with
    | true =>
      rw [clamp_of_lt rfl]
      exact ⟨Binary64.isFinite_zero false, zero_false_ne_zero_true, Binary64.units_zero false⟩
    | false =>
      rw [clamp_of_not_lt rfl]
      exact ⟨Binary64.isFinite_one, one_ne_zero_true, Binary64.units_one⟩
  | finite s m q h =>
    -- a finite number is compared by its units, whatever its form is
    have hx : (Binary64.finite s m q h).IsFinite := ⟨s, m, q, h, rfl⟩
    generalize Binary64.finite s m q h = x at hx
    have hlow := Binary64.lt_iff_units (Binary64.isFinite_zero false) hx
    have hhigh := Binary64.lt_iff_units hx Binary64.isFinite_one
    rw [Binary64.units_zero] at hlow
    rw [Binary64.units_one] at hhigh
    rw [Binary64.point?_of_isFinite hx]
    by_cases hbelow : x.units < 2 ^ 1074
    · rw [clamp_of_lt (hhigh.2 hbelow)]
      by_cases habove : 0 < x.units
      · rw [if_pos (hlow.2 habove)]
        refine ⟨hx, ?_, (clampUnits_of_mem habove.le hbelow.le).symm⟩
        rintro rfl
        rw [Binary64.units_zero] at habove
        exact absurd habove (lt_irrefl 0)
      · rw [if_neg (fun h => habove (hlow.1 h))]
        exact ⟨Binary64.isFinite_zero false, zero_false_ne_zero_true,
          (Binary64.units_zero false).trans (clampUnits_of_le (not_lt.1 habove)).symm⟩
    · rw [clamp_of_not_lt (Bool.eq_false_iff.2 fun h => hbelow (hhigh.1 h))]
      exact ⟨Binary64.isFinite_one, one_ne_zero_true,
        Binary64.units_one.trans (clampUnits_of_ge (not_lt.1 hbelow)).symm⟩

theorem clampInt_spec (n : ℤ) : (clampInt n).IsFinite ∧ clampInt n ≠ .zero true ∧
    (clampInt n).units = clampUnits (some (Binary64.pointOfInt n)) := by
  have hone := unit_pos
  unfold clampInt Binary64.pointOfInt
  by_cases hn : 0 < n
  · rw [if_pos hn]
    refine ⟨Binary64.isFinite_one, one_ne_zero_true, Binary64.units_one.trans (clampUnits_of_ge ?_).symm⟩
    exact le_mul_of_one_le_left hone.le hn
  · rw [if_neg hn]
    refine ⟨Binary64.isFinite_zero false, zero_false_ne_zero_true,
      (Binary64.units_zero false).trans (clampUnits_of_le ?_).symm⟩
    exact mul_nonpos_of_nonpos_of_nonneg (not_lt.1 hn) hone.le

theorem ofValue_of_asInt? {v : Value} {n : ℤ} (h : v.asInt? = some n) :
    ofValue v = .ok (clampInt n) := by
  cases v <;> cases h <;> rfl

theorem exists_ofValue {v : Value} {p : Option Binary64.Point} (h : v.asPoint? = some p) :
    ∃ x, ofValue v = .ok x ∧ x.IsFinite ∧ x ≠ .zero true ∧ x.units = clampUnits p := by
  rcases Value.isFloat_or_asInt? h with ⟨x, rfl, rfl⟩ | ⟨n, hn, rfl⟩
  · exact ⟨clamp x, rfl, clamp_spec x⟩
  · exact ⟨clampInt n, ofValue_of_asInt? hn, clampInt_spec n⟩

/-! ## Clamping before converting -/

/-- The number is compared as it is, and what is converted afterwards is a float: an integer of any
size is clamped without a conversion of its own. -/
theorem ofValue_eq_toFloat {v : Value} {p : Option Binary64.Point} (h : v.asPoint? = some p) :
    ofValue v = (Value.greater (.float (.zero false)) (Value.lesser (.float .one) v)).toFloat := by
  rcases Value.isFloat_or_asInt? h with ⟨x, rfl, rfl⟩ | ⟨n, hn, rfl⟩
  · rw [Value.lesser_float, Value.greater_float]
    rfl
  · have hzero : (Value.float (.zero false)).asPoint? = some (some (.at 0)) := by
      rw [Value.asPoint?, Binary64.point?_of_isFinite (Binary64.isFinite_zero false), Binary64.units_zero]
    have hone : (Value.float .one).asPoint? = some (some (.at (2 ^ 1074))) := by
      rw [Value.asPoint?, Binary64.point?_of_isFinite Binary64.isFinite_one, Binary64.units_one]
    have hunit := unit_pos
    rw [ofValue_of_asInt? hn, clampInt, Value.lesser]
    by_cases hpos : 0 < n
    · rw [if_pos hpos, if_neg, Value.greater_float, if_pos zero_lt_one]
      · rfl
      · rw [Value.less_iff h hone, not_lt]
        exact le_mul_of_one_le_left hunit.le hpos
    · have hn := mul_nonpos_of_nonpos_of_nonneg (not_lt.1 hpos) hunit.le
      have hless := (Value.less_iff h hone).2 (hn.trans_lt hunit)
      rw [if_neg hpos, if_pos hless, Value.greater, if_neg]
      · rfl
      · rw [Value.less_iff hzero h, not_lt]
        exact hn

/-! ## Every number of every size -/

/-- A clamped number is in range, no negative zero, and equal to the number if that is in range. -/
theorem exists_ofValue_inRange {v : Value} {p : Option Binary64.Point}
    (h : v.asPoint? = some p) : ∃ x, ofValue v = .ok x ∧ InRange x ∧ x ≠ .zero true ∧
      ∀ a, p = some a → (Binary64.pointOfInt 0).Le a → a.Le (Binary64.pointOfInt 1) →
        x.point? = some a := by
  obtain ⟨x, hx, hfinite, hsign, hunits⟩ := exists_ofValue h
  refine ⟨x, hx, inRange_iff.2 ⟨hfinite, ?_⟩, hsign, ?_⟩
  · rw [hunits]
    exact clampUnits_mem p
  · rintro a rfl hlow hhigh
    rw [Binary64.point?_of_isFinite hfinite, hunits]
    cases a with
    | «at» u =>
      have hlow := Binary64.Point.at_le_at.1 hlow
      have hhigh := Binary64.Point.at_le_at.1 hhigh
      rw [zero_mul] at hlow
      rw [one_mul] at hhigh
      rw [clampUnits_of_mem hlow hhigh]
    | least => rcases hlow with h | h <;> cases h
    | greatest => rcases hhigh with h | h <;> cases h

theorem ofValue_mono {v w : Value} {a b : Binary64.Point}
    (hv : v.asPoint? = some (some a)) (hw : w.asPoint? = some (some b)) (h : a.Le b) :
    ∃ x y, ofValue v = .ok x ∧ ofValue w = .ok y ∧ x.le y := by
  obtain ⟨x, hx, hfinite, -, hunits⟩ := exists_ofValue hv
  obtain ⟨y, hy, hfinite', -, hunits'⟩ := exists_ofValue hw
  refine ⟨x, y, hx, hy, (Binary64.le_iff_units hfinite hfinite').2 ?_⟩
  rw [hunits, hunits']
  exact clampUnits_mono h

end Priority

end Sitemap
