import Sitemap.Proofs.Number.Numerals
import Sitemap.Validation

/-!
# Numbers are read back from texts

* `Binary64.ofDecimal_neg` : the sign is put before what is read;
* `prepared_numeral` : plain numerals are read without preparation;
* `ofChars?_chars` : a numeral is read as the decimal that it stands for;
* `Binary64.ofDecimal_integral` : a whole number is read from its digits;
* `Binary64.le_iff_units`, `Priority.inRange_iff` : the order of finite numbers, and those from 0
  to 1;
* `Priority.parse?_text` : the text of a priority reads back as the priority.
-/

namespace Sitemap

open Source

/-! ## Signs -/

namespace Binary64

theorem ofUnits_neg (num den : Nat) : ofUnits true num den = (ofUnits false num den).neg := by
  unfold ofUnits
  simp only
  split
  · rfl
  · split <;> rfl

theorem ofDecimal_neg (d : Decimal) : ofDecimal true d = (ofDecimal false d).neg := by
  unfold ofDecimal ofRatio
  simp only
  split
  · rfl
  · split
    · rfl
    · split
      · rfl
      · split <;> exact ofUnits_neg _ _

end Binary64

/-! ## Characters -/

def IsNumeralChar (c : Char) : Prop := c.isDigit ∨ c = '.' ∨ c = 'e' ∨ c = '-' ∨ c = '+'

theorem toNat_of_isDigit {c : Char} (h : c.isDigit) : 48 ≤ c.toNat ∧ c.toNat ≤ 57 := by
  simp only [Char.isDigit, Bool.and_eq_true, decide_eq_true_eq, ge_iff_le,
    UInt32.le_iff_toNat_le] at h
  exact h

/-- Numerals are written in ASCII, without blanks and underscores. -/
theorem IsNumeralChar.plain {c : Char} (h : IsNumeralChar c) :
    plainNumeralChar c = c ∧ isAsciiPad c = false ∧ c ≠ '_' := by
  rcases h with hdigit | rfl | rfl | rfl | rfl
  · have hrange := toNat_of_isDigit hdigit
    have hspace : c ≠ ' ' := by
      rintro rfl
      cases hdigit
    refine ⟨if_pos (by omega), ?_, ?_⟩
    · simp only [isAsciiPad, Bool.or_eq_false_iff, beq_eq_false_iff_ne, Bool.and_eq_false_iff,
        decide_eq_false_iff_not]
      exact ⟨hspace, .inr (by omega)⟩
    · rintro rfl
      cases hdigit
  all_goals decide

theorem trimList_eq_self {p : Char → Bool} {cs : List Char} (h : ∀ c ∈ cs, p c = false) :
    trimList p cs = cs := by
  have hdrop : ∀ ds : List Char, (∀ c ∈ ds, p c = false) → ds.dropWhile p = ds := by
    intro ds hds
    cases ds with
    | nil => rfl
    | cons d ds => rw [List.dropWhile_cons_of_neg (by simp [hds d])]
  unfold trimList
  rw [hdrop cs h, hdrop cs.reverse (by simpa using h), List.reverse_reverse]

theorem dropUnderscores?_eq_self {cs : List Char} (h : '_' ∉ cs) (afterDigit : Bool) :
    dropUnderscores? afterDigit cs = some cs := by
  induction cs generalizing afterDigit with
  | nil => cases afterDigit <;> rfl
  | cons c cs ih =>
    rw [List.mem_cons, not_or] at h
    have hc : c ≠ '_' := fun heq => h.1 heq.symm
    rw [dropUnderscores?]
    · rw [if_neg hc, ih h.2]
      rfl
    · exact fun _ _ _ heq _ => hc heq

theorem prepared_numeral {cs : List Char} (h : ∀ c ∈ cs, IsNumeralChar c) :
    dropUnderscores? false (trimList isAsciiPad (cs.map plainNumeralChar)) = some cs := by
  have hplain : cs.map plainNumeralChar = cs := by
    conv_rhs => rw [← List.map_id cs]
    exact List.map_congr_left fun c hc => (h c hc).plain.1
  have hunderscore : '_' ∉ cs := fun hmem => (h _ hmem).plain.2.2 rfl
  rw [hplain, trimList_eq_self fun c hc => (h c hc).plain.2.1, dropUnderscores?_eq_self hunderscore]

namespace Binary64

theorem toLower_of_isDigit {c : Char} (h : c.isDigit) : c.toLower = c := by
  have hrange := toNat_of_isDigit h
  have hA : 'A'.val.toNat = 65 := rfl
  have hc : c.val.toNat = c.toNat := rfl
  unfold Char.toLower
  refine dif_neg fun hupper => ?_
  have hlow := UInt32.le_iff_toNat_le.1 hupper.1
  omega

/-- What begins with a digit is no name. -/
theorem unsigned?_of_digit {c : Char} (hc : c.isDigit) (negative : Bool) (cs : List Char) :
    unsigned? negative (c :: cs) =
      (Decimal.ofChars? (c :: cs)).map (ofDecimal negative) := by
  have hne : ∀ name : String, (name.toList.head?.any Char.isDigit) = false →
      (String.ofList ((c :: cs).map Char.toLower) == name) = false := by
    intro name hname
    rw [beq_eq_false_iff_ne]
    rintro rfl
    rw [String.toList_ofList, List.map_cons, List.head?_cons, Option.any_some,
      toLower_of_isDigit hc, hc] at hname
    cases hname
  unfold unsigned?
  simp only [hne "inf" (by decide), hne "infinity" (by decide), hne "nan" (by decide), Bool.or_self,
    Bool.false_eq_true, if_false]

theorem ofChars?_digit {c : Char} {cs : List Char} (hc : c.isDigit)
    (h : ∀ d ∈ c :: cs, IsNumeralChar d) :
    ofChars? (c :: cs) = (Decimal.ofChars? (c :: cs)).map (ofDecimal false) := by
  unfold ofChars?
  simp only [prepared_numeral h, Option.bind_eq_bind, Option.bind_some]
  split
  · rename_i heq
    obtain ⟨rfl, -⟩ := List.cons.inj heq
    cases hc
  · rename_i heq
    obtain ⟨rfl, -⟩ := List.cons.inj heq
    cases hc
  · exact unsigned?_of_digit hc false cs

theorem ofChars?_minus {c : Char} {cs : List Char} (hc : c.isDigit)
    (h : ∀ d ∈ c :: cs, IsNumeralChar d) :
    ofChars? ('-' :: c :: cs) = (Decimal.ofChars? (c :: cs)).map (ofDecimal true) := by
  have hminus : ∀ d ∈ '-' :: c :: cs, IsNumeralChar d :=
    List.forall_mem_cons.2 ⟨.inr (.inr (.inr (.inl rfl))), h⟩
  unfold ofChars?
  simp only [prepared_numeral hminus, Option.bind_eq_bind, Option.bind_some]
  exact unsigned?_of_digit hc true cs

end Binary64

/-! ## Decimals -/

theorem spanDigits_append {ds : List Char} (hds : AreDigits ds) {rest : List Char}
    (hrest : ∀ c ∈ rest.head?, c.isDigit = false) :
    spanDigits (ds ++ rest) = (ds.map fun c => c.toNat - 48, rest) := by
  have htake : rest.takeWhile Char.isDigit = [] := by
    cases rest with
    | nil => rfl
    | cons c rest => rw [List.takeWhile_cons_of_neg (by simp [hrest c rfl])]
  have hdrop : rest.dropWhile Char.isDigit = rest := by
    cases rest with
    | nil => rfl
    | cons c rest => rw [List.dropWhile_cons_of_neg (by simp [hrest c rfl])]
  unfold spanDigits
  rw [List.takeWhile_append_of_pos hds, List.dropWhile_append_of_pos hds, htake, hdrop,
    List.append_nil]

theorem spanDigits_digits {ds : List Char} (hds : AreDigits ds) :
    spanDigits ds = (ds.map fun c => c.toNat - 48, []) := by
  have hnil : ∀ c ∈ ([] : List Char).head?, c.isDigit = false := nofun
  have hspan := spanDigits_append hds hnil
  rwa [List.append_nil] at hspan

/-- The exponent of a numeral is read up to the end. -/
theorem exponent?_chars (n : Numeral) : exponent? n.exponentChars = some n.power := by
  unfold Numeral.exponentChars Numeral.power
  cases he : n.exponent with
  | none => rfl
  | some e =>
    obtain ⟨negative, ds⟩ := e
    obtain ⟨hne, hdigits, hlength⟩ := n.exponent_digits _ he
    have hspan := spanDigits_digits hdigits
    have hvalue := clampedNat_eq hlength
    obtain ⟨d, ds', rfl⟩ := List.exists_cons_of_ne_nil hne
    rw [List.map_cons] at hspan hvalue
    cases negative with
    | true => simp [exponent?, hspan, hvalue]
    | false => simp [exponent?, hspan, hvalue]

theorem exponentChars_head (n : Numeral) : ∀ c ∈ n.exponentChars.head?, c = 'e' := by
  unfold Numeral.exponentChars
  cases n.exponent with
  | none => exact nofun
  | some e =>
    intro c hc
    cases hc
    rfl

/-- A numeral is read as the decimal that it stands for. -/
theorem ofChars?_chars (n : Numeral) : Decimal.ofChars? n.chars = some n.decimal := by
  have hexponent : ∀ c ∈ n.exponentChars.head?, c.isDigit = false := by
    intro c hc
    rw [exponentChars_head n c hc]
    rfl
  unfold Decimal.ofChars? Numeral.chars Numeral.fractionChars
  rw [List.append_assoc]
  by_cases hfraction : n.fraction = []
  · have hspan := spanDigits_append n.whole_digits hexponent
    have hnopoint : ∀ rest, n.exponentChars ≠ '.' :: rest := by
      intro rest heq
      have hpoint := exponentChars_head n '.' (by rw [heq]; rfl)
      cases hpoint
    rw [if_pos hfraction, List.nil_append, hspan]
    simp [n.whole_ne_nil, exponent?_chars, Numeral.decimal, digitsValue, hfraction]
  · have hpoint : ∀ c ∈ ('.' :: n.fraction ++ n.exponentChars).head?, c.isDigit = false := by
      intro c hc
      cases hc
      rfl
    have hspan := spanDigits_append n.whole_digits hpoint
    have hspan' := spanDigits_append n.fraction_digits hexponent
    rw [if_neg hfraction, hspan]
    simp [n.whole_ne_nil, hspan', exponent?_chars, Numeral.decimal, digitsValue]

theorem ofChars?_digits {ds : List Char} (hne : ds ≠ []) (hds : AreDigits ds) :
    Decimal.ofChars? ds = some ⟨digitsValue ds, 0⟩ := by
  unfold Decimal.ofChars?
  rw [spanDigits_digits hds]
  simp [hne, exponent?, digitsValue]

namespace Binary64

/-! ## Numbers -/

theorem parse?_text {x : Binary64} (hx : x.IsFinite) : parse? x.text = some x := by
  obtain ⟨s, m, q, hcanonical, rfl⟩ := hx
  obtain ⟨n, hchars, hvalue⟩ := exists_numeral_text hcanonical
  obtain ⟨c, d, rest, hcons, hc, -⟩ := n.chars_eq_cons
  have hmem : ∀ d ∈ n.chars, IsNumeralChar d := fun d hd => n.mem_chars hd
  have hread := ofChars?_chars n
  rw [hcons] at hmem hread
  cases s with
  | false => rw [parse?, hchars, hcons, ofChars?_digit hc hmem, hread, Option.map_some, hvalue]
  | true =>
    rw [parse?, text_of_negative, hchars, hcons, ofChars?_minus hc hmem, hread, Option.map_some,
      ofDecimal_neg, hvalue]
    rfl

/-- A whole number is read from the digits of its size. -/
theorem ofDecimal_integral {m q a : Nat} (h : Canonical m q) (ha : a ≠ 0)
    (hunits : a * 2 ^ 1074 = m * 2 ^ q) : ofDecimal false ⟨a, 0⟩ = .finite false m q h := by
  have hm : m ≠ 0 := by
    rintro rfl
    rw [Nat.zero_mul] at hunits
    exact Nat.mul_ne_zero ha (Nat.pos_iff_ne_zero.1 (Nat.two_pow_pos _)) hunits
  have hbound : a < 10 ^ 400 := by
    refine Nat.lt_of_mul_lt_mul_right (a := 2 ^ 1074) ?_
    have hq := Nat.pow_le_pow_right (n := 2) (by decide) h.2.2
    calc a * 2 ^ 1074 = m * 2 ^ q := hunits
      _ < 2 ^ 53 * 2 ^ 2045 := Nat.mul_lt_mul_of_lt_of_le h.1 hq (Nat.two_pow_pos 2045)
      _ ≤ 10 ^ 400 * 2 ^ 1074 := by decide +kernel
  have hcount := (digitCount_le_iff (by decide)).2 hbound
  rw [ofDecimal_of_places false (d := ⟨a, 0⟩) ha (by simpa using hcount) (by simp)]
  simp only [Int.toNat_zero, Int.neg_zero, Nat.pow_zero, Nat.mul_one, ofRatio, hunits]
  exact ofUnits_whole false h hm

theorem units_finite (m q : Nat) (h : Canonical m q) :
    (finite false m q h).units = (m : Int) * 2 ^ q := by
  rw [units, if_neg Bool.false_ne_true, Int.natCast_mul, Int.natCast_pow]
  rfl

theorem units_zero (negative : Bool) : (zero negative).units = 0 := by
  cases negative <;> rfl

theorem units_one : one.units = 2 ^ 1074 := by
  rw [one, units_finite, Int.natCast_pow]
  exact (Int.pow_add 2 52 1022).symm

theorem isFinite_zero (negative : Bool) : (zero negative).IsFinite := ⟨_, _, _, _, rfl⟩

theorem isFinite_one : one.IsFinite := ⟨_, _, _, _, rfl⟩

theorem point?_of_isFinite {x : Binary64} (h : x.IsFinite) : x.point? = some (.at x.units) := by
  obtain ⟨s, m, q, hcanonical, rfl⟩ := h
  rfl

theorem lt_iff_units {x y : Binary64} (hx : x.IsFinite) (hy : y.IsFinite) :
    x.lt y = true ↔ x.units < y.units := by
  rw [lt, point?_of_isFinite hx, point?_of_isFinite hy]
  simp only [Point.lt, decide_eq_true_eq]

theorem le_iff_units {x y : Binary64} (hx : x.IsFinite) (hy : y.IsFinite) :
    x.le y = true ↔ x.units ≤ y.units := by
  rw [le, Bool.or_eq_true, lt_iff_units hx hy, eq, point?_of_isFinite hx, point?_of_isFinite hy]
  simp only [Point.eq, beq_iff_eq]
  exact Int.le_iff_lt_or_eq.symm

end Binary64

/-! ## Priorities -/

/-- The text of an integer: its digits, behind a minus sign if it is negative. -/
theorem toList_toString_int (n : Int) : (toString n).toList =
    if n < 0 then '-' :: digitsOf n.natAbs else digitsOf n.natAbs := by
  cases n with
  | ofNat m =>
    rw [if_neg (by simp)]
    change (toString m).toList = digitsOf m
    simp [digitsOf, Nat.toList_repr]
  | negSucc m =>
    rw [if_pos (Int.negSucc_lt_zero m)]
    change ("-" ++ toString (m + 1)).toList = '-' :: digitsOf (m + 1)
    simp [digitsOf]

namespace Priority

/-- An integer whose multiple has a given sign and size has that sign and divides the size. -/
theorem natAbs_of_mul_eq {n : Int} {den size : Nat} {s : Bool} (hden : 0 < den)
    (h : n * den = if s then -(size : Int) else size) :
    n.natAbs * den = size ∧ (0 < size → (n < 0 ↔ s = true)) := by
  have habs : n.natAbs * den = size := by
    rw [← Int.natAbs_natCast den, ← Int.natAbs_mul, h]
    cases s <;> simp
  refine ⟨habs, fun hsize => ?_⟩
  have hden' : (0 : Int) < den := by exact_mod_cast hden
  have hsize' : (0 : Int) < size := by exact_mod_cast hsize
  cases s with
  | false =>
    have hn : 0 < n * den := by simpa [h] using hsize
    have hpos := (pos_iff_pos_of_mul_pos hn).2 hden'
    simp only [Bool.false_eq_true, iff_false, not_lt]
    exact hpos.le
  | true =>
    have hn : n * den < 0 := by simpa [h] using hsize
    simpa using neg_of_mul_neg_left hn hden'.le

theorem natAbs_of_integral? {s : Bool} {m q : Nat} {h : Binary64.Canonical m q} {n : Int}
    (hn : (Binary64.finite s m q h).integral? = some n) :
    n.natAbs * 2 ^ 1074 = m * 2 ^ q ∧ (0 < m * 2 ^ q → (n < 0 ↔ s = true)) := by
  refine natAbs_of_mul_eq (pow_pos two_pos 1074) ?_
  simp only [Binary64.integral?] at hn
  split at hn
  · rename_i hmod
    cases hn
    rw [Nat.cast_pow, Nat.cast_ofNat]
    exact Int.ediv_mul_cancel (Int.dvd_of_emod_eq_zero hmod)
  · cases hn

/-- The text of a whole number reads as that number, a zero as the positive one. -/
theorem parse?_toString {s : Bool} {m q : Nat} (h : Binary64.Canonical m q) {n : Int}
    (hn : (Binary64.finite s m q h).integral? = some n) :
    Binary64.parse? (toString n) =
      some (if m = 0 then .zero false else .finite s m q h) := by
  obtain ⟨hunits, hsign⟩ := natAbs_of_integral? hn
  by_cases hm : m = 0
  · have hzero : n.natAbs = 0 := by
      rw [hm, Nat.zero_mul] at hunits
      exact (Nat.mul_eq_zero.1 hunits).resolve_right (pow_ne_zero _ two_ne_zero)
    obtain rfl : n = 0 := Int.natAbs_eq_zero.1 hzero
    rw [if_pos hm]
    decide
  · have hsize := Nat.mul_pos (Nat.pos_of_ne_zero hm) (Nat.two_pow_pos q)
    have hne : n.natAbs ≠ 0 := by
      intro hzero
      rw [hzero, Nat.zero_mul] at hunits
      exact hsize.ne hunits
    have hread := ofChars?_digits (digitsOf_ne_nil n.natAbs) (areDigits_toDigits n.natAbs)
    rw [digitsValue_digitsOf] at hread
    have hwhole := Binary64.ofDecimal_integral h hne hunits
    have hmem : ∀ c ∈ digitsOf n.natAbs, IsNumeralChar c :=
      fun c hc => .inl (areDigits_toDigits _ c hc)
    obtain ⟨c, cs, hcons⟩ := List.exists_cons_of_ne_nil (digitsOf_ne_nil n.natAbs)
    have hc : c.isDigit := areDigits_toDigits n.natAbs c (by rw [hcons]; exact List.mem_cons_self)
    rw [if_neg hm, Binary64.parse?, toList_toString_int]
    rw [hcons] at hread hmem ⊢
    cases s with
    | false =>
      rw [if_neg (by simpa using hsign hsize), Binary64.ofChars?_digit hc hmem, hread,
        Option.map_some, hwhole]
    | true =>
      rw [if_pos (by simpa using hsign hsize), Binary64.ofChars?_minus hc hmem, hread,
        Option.map_some, Binary64.ofDecimal_neg, hwhole]
      rfl

/-- A number that is no integer is not zero. -/
theorem ne_zero_of_integral? {s : Bool} {m q : Nat} {h : Binary64.Canonical m q}
    (hnone : (Binary64.finite s m q h).integral? = none) : m ≠ 0 := by
  rintro rfl
  have hunits : (Binary64.finite s 0 q h).units = 0 := by
    cases s <;> simp only [Binary64.units, Nat.zero_mul] <;> rfl
  simp only [Binary64.integral?, hunits, Int.zero_emod, if_true] at hnone
  cases hnone

theorem parse?_text {x : Binary64} (hx : x.IsFinite) :
    Binary64.parse? (text x) = some (if x = .zero true then .zero false else x) := by
  obtain ⟨s, m, q, h, rfl⟩ := hx
  unfold text
  cases hn : (Binary64.finite s m q h).integral? with
  | none =>
    have hm := ne_zero_of_integral? hn
    rw [if_neg fun heq => hm (by injection heq)]
    exact Binary64.parse?_text ⟨s, m, q, h, rfl⟩
  | some n =>
    refine (parse?_toString h hn).trans (congrArg some ?_)
    by_cases hm : m = 0
    · subst hm
      obtain rfl : q = 0 := by
        obtain ⟨-, hq, -⟩ := h
        omega
      cases s <;> rfl
    · rw [if_neg hm, if_neg fun heq => hm (by injection heq)]

/-- The text of a priority is a numeral. -/
theorem isNumeralChar_of_mem_text {x : Binary64} (hx : x.IsFinite) {c : Char}
    (hc : c ∈ (text x).toList) : IsNumeralChar c := by
  have hdigits : ∀ n : Nat, c ∈ digitsOf n → IsNumeralChar c :=
    fun n hc => .inl (areDigits_toDigits n c hc)
  unfold text at hc
  split at hc
  · rw [toList_toString_int] at hc
    split at hc
    · rcases List.mem_cons.1 hc with rfl | hc
      · exact .inr (.inr (.inr (.inl rfl)))
      · exact hdigits _ hc
    · exact hdigits _ hc
  · obtain ⟨s, m, q, h, rfl⟩ := hx
    obtain ⟨n, hchars, -⟩ := exists_numeral_text h
    cases s with
    | false =>
      rw [hchars] at hc
      exact n.mem_chars hc
    | true =>
      rw [text_of_negative, hchars] at hc
      rcases List.mem_cons.1 hc with rfl | hc
      · exact .inr (.inr (.inr (.inl rfl)))
      · exact n.mem_chars hc

/-! ## The range of priorities -/

/-- A number from 0 to 1. -/
def InRange (x : Binary64) : Prop := (Binary64.zero false).le x ∧ x.le .one

instance (x : Binary64) : Decidable (InRange x) := by
  unfold InRange
  infer_instance

theorem InRange.isFinite {x : Binary64} (h : InRange x) : x.IsFinite := by
  obtain ⟨hlow, hhigh⟩ := h
  cases x with
  | nan => cases hlow
  | infinite negative =>
    cases negative with
    | false => cases hhigh
    | true => cases hlow
  | finite s m q h => exact ⟨s, m, q, h, rfl⟩

/-- The numbers from 0 to 1 are finite, and not-a-number is none of them. -/
theorem inRange_iff {x : Binary64} :
    InRange x ↔ x.IsFinite ∧ 0 ≤ x.units ∧ x.units ≤ 2 ^ 1074 := by
  have hzero := Binary64.isFinite_zero false
  have hone := Binary64.isFinite_one
  rw [← Binary64.units_one, ← Binary64.units_zero false]
  constructor
  · intro h
    exact ⟨h.isFinite, (Binary64.le_iff_units hzero h.isFinite).1 h.1,
      (Binary64.le_iff_units h.isFinite hone).1 h.2⟩
  · rintro ⟨hx, hlow, hhigh⟩
    exact ⟨(Binary64.le_iff_units hzero hx).2 hlow, (Binary64.le_iff_units hx hone).2 hhigh⟩

theorem inRange_zero (negative : Bool) : InRange (.zero negative) := by
  rw [inRange_iff, Binary64.units_zero]
  exact ⟨Binary64.isFinite_zero negative, Int.le_refl 0, Int.pow_nonneg (by decide)⟩

theorem InRange.ne_nan {x : Binary64} (h : InRange x) : x ≠ .nan := by
  rintro rfl
  cases h.1

theorem eq_readBack {x : Binary64} (hx : x.IsFinite) :
    (if x = .zero true then .zero false else x).eq x = true := by
  obtain ⟨s, m, q, h, rfl⟩ := hx
  split
  · rename_i heq
    rw [heq]
    decide
  · simp [Binary64.eq, Binary64.point?, Binary64.Point.eq]

theorem isPriority_text {x : Binary64} (h : InRange x) : Validation.isPriority (text x) = true := by
  have hread : InRange (if x = .zero true then .zero false else x) := by
    split
    · exact inRange_zero false
    · exact h
  rw [Validation.isPriority, parse?_text h.isFinite]
  exact Bool.and_eq_true_iff.2 hread

end Priority

end Sitemap
