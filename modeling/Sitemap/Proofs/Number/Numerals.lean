import Sitemap.Proofs.Number.Rounding
import Sitemap.Source.Numeral

/-!
# A number is read back from its text

* `Numeral` : a numeral with a fraction or an exponent, in parts;
* `readDecimal?_numeral` : it is read as the decimal that it stands for;
* `exists_numeral` : the text of a decimal is a numeral for the same number;
* `readNumeral?_text` : the text of a number without a sign is read as that number.
-/

namespace Sitemap.Source

/-! ## Digits -/

def AreDigits (cs : List Char) : Prop := ∀ c ∈ cs, c.isDigit

theorem AreDigits.append {cs ds : List Char} (hcs : AreDigits cs) (hds : AreDigits ds) :
    AreDigits (cs ++ ds) := fun c hc => (List.mem_append.1 hc).elim (hcs c) (hds c)

theorem areDigits_toDigits (n : Nat) : AreDigits (digitsOf n) :=
  fun _ hc => Nat.isDigit_of_mem_toDigits (by decide) (by decide) hc

theorem areDigits_replicate_zero (n : Nat) : AreDigits (List.replicate n '0') := by
  intro c hc
  rw [(List.mem_replicate.1 hc).2]
  decide

/-- The number that digits write. -/
def digitsValue (cs : List Char) : Nat := natOfDigits (cs.map fun c => c.toNat - 48)

theorem digitsValue_eq (cs : List Char) : digitsValue cs = Nat.ofDigitChars 10 cs 0 := by
  unfold digitsValue natOfDigits Nat.ofDigitChars
  rw [List.foldl_map]
  congr 1
  funext n c
  rw [Nat.mul_comm]
  rfl

theorem digitsValue_digitsOf (n : Nat) : digitsValue (digitsOf n) = n := by
  rw [digitsValue_eq]
  exact Nat.ofDigitChars_ten_toDigits

theorem digitsValue_zeros_append (n : Nat) (cs : List Char) :
    digitsValue (List.replicate n '0' ++ cs) = digitsValue cs := by
  simp [digitsValue_eq, Nat.ofDigitChars_append]

theorem digitsValue_append_zeros (n : Nat) (cs : List Char) :
    digitsValue (cs ++ List.replicate n '0') = digitsValue cs * 10 ^ n := by
  simp [digitsValue_eq, Nat.ofDigitChars_append, Nat.mul_comm]

/-- Zeros in front do not count. -/
theorem natOfDigits_dropWhile (ds : List Nat) :
    natOfDigits (ds.dropWhile (· = 0)) = natOfDigits ds := by
  induction ds with
  | nil => rfl
  | cons d ds ih =>
    by_cases hd : d = 0
    · subst hd
      exact ih
    · rw [List.dropWhile_cons_of_neg (by simpa using hd)]

/-- A number of few digits is not cut off. -/
theorem clampedNat_eq {cs : List Char} (h : cs.length ≤ 20) :
    clampedNat (cs.map fun c => c.toNat - 48) = digitsValue cs := by
  have hlength := (List.dropWhile_sublist (· = 0) (l := cs.map fun c => c.toNat - 48)).length_le
  rw [List.length_map] at hlength
  unfold clampedNat
  simp only [if_neg (Nat.not_lt.2 (hlength.trans h)), natOfDigits_dropWhile]
  rfl

/-! ## Numerals -/

/-- A numeral in parts: digits, digits after a point if there are any, and an exponent with its
sign. One of the last two is there, so that the numeral is no integer. -/
structure Numeral where
  whole : List Char
  fraction : List Char
  exponent : Option (Bool × List Char)
  whole_ne_nil : whole ≠ []
  whole_digits : AreDigits whole
  fraction_digits : AreDigits fraction
  exponent_digits : ∀ e ∈ exponent, e.2 ≠ [] ∧ AreDigits e.2 ∧ e.2.length ≤ 20
  not_integer : fraction ≠ [] ∨ exponent.isSome

namespace Numeral

def fractionChars (n : Numeral) : List Char := if n.fraction = [] then [] else '.' :: n.fraction

def exponentChars (n : Numeral) : List Char :=
  match n.exponent with
  | none => []
  | some (negative, ds) => 'e' :: (if negative then '-' else '+') :: ds

def chars (n : Numeral) : List Char := n.whole ++ n.fractionChars ++ n.exponentChars

def power (n : Numeral) : Int :=
  match n.exponent with
  | none => 0
  | some (negative, ds) => if negative then -(digitsValue ds : Int) else digitsValue ds

/-- The decimal that a numeral stands for. -/
def decimal (n : Numeral) : Decimal :=
  ⟨digitsValue (n.whole ++ n.fraction), n.power - n.fraction.length⟩

end Numeral

/-- A character that can follow a numeral without being part of it. -/
def EndsNumber (c : Char) : Prop := isWordChar c = false ∧ c ≠ '.'

theorem EndsNumber.not_digit {c : Char} (h : EndsNumber c) : c.isDigit = false := by
  have hword := h.1
  unfold isWordChar Char.isAlphanum at hword
  simp only [Bool.or_eq_false_iff] at hword
  exact hword.1.1.2

theorem EndsNumber.ne {c d : Char} (h : EndsNumber c) (hd : isWordChar d = true) : c ≠ d := by
  rintro rfl
  rw [h.1] at hd
  cases hd

theorem digitRun?_append {ds : List Char} (hds : AreDigits ds) {c : Char}
    (hdigit : c.isDigit = false) (hunderscore : c ≠ '_') (rest : List Char) :
    digitRun? Char.isDigit (ds ++ c :: rest) = some (ds, c :: rest) := by
  induction ds with
  | nil =>
    rw [List.nil_append, digitRun?.eq_def]
    simp [hdigit, hunderscore]
  | cons d ds ih =>
    have hd := hds d List.mem_cons_self
    rw [List.cons_append, digitRun?.eq_def]
    simp [hd, ih fun x hx => hds x (List.mem_cons_of_mem _ hx)]

section Read
variable {c : Char} {rest : List Char}

theorem endsNumeral_cons (h : EndsNumber c) : endsNumeral (c :: rest) = true := by
  unfold endsNumeral
  dsimp only
  split
  case h_4 => exact absurd rfl (h.ne (d := 'i') (by decide))
  case h_7 => rw [h.1]; rfl
  all_goals rfl

theorem readFraction?_chars (n : Numeral) (tail : List Char)
    (htail : ∃ c rest, tail = c :: rest ∧ c.isDigit = false ∧ c ≠ '_' ∧ c ≠ '.') :
    readFraction? (n.fractionChars ++ tail) =
      some (if n.fraction = [] then none else some n.fraction, tail) := by
  obtain ⟨c, rest, rfl, hdigit, hunderscore, hpoint⟩ := htail
  unfold Numeral.fractionChars
  cases hf : n.fraction with
  | nil =>
    rw [if_pos rfl, if_pos rfl, List.nil_append]
    unfold readFraction?
    split
    · rename_i heq
      exact absurd (List.cons.inj heq).1 hpoint
    · rfl
  | cons d ds =>
    have hdigits := n.fraction_digits
    rw [hf] at hdigits
    have hd := hdigits d List.mem_cons_self
    have hrun := digitRun?_append hdigits hdigit hunderscore rest
    rw [List.cons_append] at hrun
    simp [readFraction?, hd, hrun]

theorem readExponent?_chars (n : Numeral) (h : EndsNumber c) :
    readExponent? (n.exponentChars ++ c :: rest) =
      some (n.exponent.map fun _ => n.power, c :: rest) := by
  unfold Numeral.exponentChars Numeral.power
  cases he : n.exponent with
  | none =>
    have hlower := h.ne (d := 'e') (by decide)
    have hupper := h.ne (d := 'E') (by decide)
    simp [readExponent?, hlower, hupper]
  | some e =>
    obtain ⟨negative, ds⟩ := e
    obtain ⟨hne, hdigits, hlength⟩ := n.exponent_digits _ he
    have hrun := digitRun?_append hdigits h.not_digit (h.ne (by decide)) rest
    have hvalue := clampedNat_eq hlength
    obtain ⟨d, ds', rfl⟩ := List.exists_cons_of_ne_nil hne
    have hd := hdigits d List.mem_cons_self
    rw [List.cons_append] at hrun
    rw [List.map_cons] at hvalue
    cases negative with
    | true => simp [readExponent?, hd, hrun, hvalue]
    | false => simp [readExponent?, hd, hrun, hvalue]

/-- A numeral is read as the decimal that it stands for. -/
theorem readDecimal?_numeral (n : Numeral) (h : EndsNumber c) :
    readDecimal? (n.chars ++ c :: rest) =
      some (.float (.ofDecimal false n.decimal), c :: rest) := by
  have hafter : ∃ d tail, n.exponentChars ++ c :: rest = d :: tail ∧
      d.isDigit = false ∧ d ≠ '_' ∧ d ≠ '.' := by
    unfold Numeral.exponentChars
    cases n.exponent with
    | none => exact ⟨c, rest, rfl, h.not_digit, h.ne (by decide), h.2⟩
    | some e => exact ⟨'e', _, rfl, by decide, by decide, by decide⟩
  have hwhole : digitRun? Char.isDigit
      (n.whole ++ (n.fractionChars ++ (n.exponentChars ++ c :: rest))) =
      some (n.whole, n.fractionChars ++ (n.exponentChars ++ c :: rest)) := by
    unfold Numeral.fractionChars
    split
    · obtain ⟨d, tail, heq, hdigit, hunderscore, -⟩ := hafter
      rw [List.nil_append, heq]
      exact digitRun?_append n.whole_digits hdigit hunderscore _
    · exact digitRun?_append n.whole_digits (by decide) (by decide) _
  unfold Numeral.chars readDecimal?
  rw [List.append_assoc, List.append_assoc, hwhole]
  simp only [Option.bind_eq_bind, Option.bind_some, readFraction?_chars n _ hafter,
    readExponent?_chars n h]
  have hj : ¬(c = 'j' ∨ c = 'J') := not_or.2 ⟨h.ne (by decide), h.ne (by decide)⟩
  have hfraction : (if n.fraction = [] then none else some n.fraction).getD [] = n.fraction := by
    split
    · rename_i hnil
      exact hnil.symm
    · rfl
  have hpower : (n.exponent.map fun _ => n.power).getD 0 = n.power := by
    unfold Numeral.power
    cases n.exponent with
    | none => rfl
    | some e => rfl
  have hfloat : ((if n.fraction = [] then none else some n.fraction).isSome ||
      (n.exponent.map fun _ => n.power).isSome) = true := by
    rcases n.not_integer with hne | hsome
    · rw [if_neg hne]
      rfl
    · rw [Option.isSome_map, hsome, Bool.or_true]
  simp only [hj, if_false, endsNumeral_cons h, hfraction, hpower, hfloat]
  rfl

end Read

/-! ## The text of a decimal -/

theorem ofDecimal_trimZeros_go (fuel : Nat) (d : Decimal) :
    Binary64.ofDecimal false (Decimal.trimZeros.go fuel d) = Binary64.ofDecimal false d := by
  induction fuel generalizing d with
  | zero => rfl
  | succ fuel ih =>
    unfold Decimal.trimZeros.go
    split
    · rename_i hzero
      have hpos : 0 < d.digits / 10 := by omega
      have hdigits : d.digits / 10 * 10 ^ 1 = d.digits := by omega
      have hshift := Binary64.ofDecimal_shift false hpos 1 d.exponent
      rw [hdigits] at hshift
      exact (ih _).trans hshift.symm
    · rfl

theorem ofDecimal_trimZeros (d : Decimal) :
    Binary64.ofDecimal false d.trimZeros = Binary64.ofDecimal false d :=
  ofDecimal_trimZeros_go _ d

theorem length_digitsOf (n : Nat) : (digitsOf n).length = digitCount n := rfl

theorem digitsOf_ne_nil (n : Nat) : digitsOf n ≠ [] := Nat.toDigits_ne_nil

theorem areDigits_take {cs : List Char} (h : AreDigits cs) (n : Nat) : AreDigits (cs.take n) :=
  fun c hc => h c (List.mem_of_mem_take hc)

theorem areDigits_drop {cs : List Char} (h : AreDigits cs) (n : Nat) : AreDigits (cs.drop n) :=
  fun c hc => h c (List.mem_of_mem_drop hc)

theorem exponentDigits (size : Nat) (h : size < 10 ^ 3) :
    let ds := (if size < 10 then ['0'] else []) ++ digitsOf size
    ds ≠ [] ∧ AreDigits ds ∧ ds.length ≤ 20 ∧ digitsValue ds = size := by
  have hcount := (digitCount_le_iff (by decide)).2 h
  rw [← length_digitsOf] at hcount
  split
  · refine ⟨List.cons_ne_nil _ _, ?_, ?_, ?_⟩
    · exact (areDigits_replicate_zero 1).append (areDigits_toDigits size)
    · rw [List.length_append, List.length_singleton]
      omega
    · exact (digitsValue_zeros_append 1 _).trans (digitsValue_digitsOf size)
  · exact ⟨digitsOf_ne_nil size, areDigits_toDigits size, by simp only [List.nil_append]; omega,
      digitsValue_digitsOf size⟩

/-- Digits without an exponent. -/
def Numeral.positional (whole fraction : List Char) (hne : whole ≠ []) (hwhole : AreDigits whole)
    (hfraction : AreDigits fraction) (hpoint : fraction ≠ []) : Numeral where
  whole := whole
  fraction := fraction
  exponent := none
  whole_ne_nil := hne
  whole_digits := hwhole
  fraction_digits := hfraction
  exponent_digits := by simp
  not_integer := .inl hpoint

section Positional
variable {whole fraction : List Char} {hne : whole ≠ []} {hwhole : AreDigits whole}
  {hfraction : AreDigits fraction} {hpoint : fraction ≠ []}

@[simp] theorem Numeral.positional_chars :
    (Numeral.positional whole fraction hne hwhole hfraction hpoint).chars =
      whole ++ '.' :: fraction := by
  simp [chars, fractionChars, exponentChars, positional, hpoint]

@[simp] theorem Numeral.positional_decimal :
    (Numeral.positional whole fraction hne hwhole hfraction hpoint).decimal =
      ⟨digitsValue (whole ++ fraction), -(fraction.length : Int)⟩ := by
  simp [decimal, power, positional]

end Positional

/-- Digits with an exponent, the point behind the first of them. -/
def Numeral.scientific (ds : List Char) (negative : Bool) (size : Nat) (hne : ds ≠ [])
    (hds : AreDigits ds) (hsize : size < 10 ^ 3) : Numeral where
  whole := ds.take 1
  fraction := ds.drop 1
  exponent := some (negative, (if size < 10 then ['0'] else []) ++ digitsOf size)
  whole_ne_nil := by simpa using hne
  whole_digits := areDigits_take hds 1
  fraction_digits := areDigits_drop hds 1
  exponent_digits := by
    have h := exponentDigits size hsize
    intro e he
    cases he
    exact ⟨h.1, h.2.1, h.2.2.1⟩
  not_integer := .inr rfl

section Scientific
variable {ds : List Char} {negative : Bool} {size : Nat} {hne : ds ≠ []} {hds : AreDigits ds}
  {hsize : size < 10 ^ 3}

@[simp] theorem Numeral.scientific_chars :
    (Numeral.scientific ds negative size hne hds hsize).chars =
      ds.take 1 ++ (if ds.length = 1 then [] else '.' :: ds.drop 1) ++
        'e' :: (if negative then '-' else '+') ::
          ((if size < 10 then ['0'] else []) ++ digitsOf size) := by
  have hpos := List.length_pos_of_ne_nil hne
  have hlength : ds.drop 1 = [] ↔ ds.length = 1 := by
    rw [List.drop_eq_nil_iff]
    omega
  simp only [chars, fractionChars, exponentChars, scientific, hlength]

@[simp] theorem Numeral.scientific_decimal :
    (Numeral.scientific ds negative size hne hds hsize).decimal =
      ⟨digitsValue ds, (if negative then -(size : Int) else size) - (ds.length - 1 : Nat)⟩ := by
  have hvalue := (exponentDigits size hsize).2.2.2
  simp only [decimal, power, scientific, List.take_append_drop, hvalue, List.length_drop]

end Scientific

/-- The text of a decimal near the point is a numeral for the same number. -/
theorem exists_numeral (d : Decimal)
    (hhigh : d.trimZeros.exponent + digitCount d.trimZeros.digits ≤ 400)
    (hlow : -400 ≤ d.trimZeros.exponent + digitCount d.trimZeros.digits)
    (hdigits : d.trimZeros.digits ≠ 0) :
    ∃ n : Numeral, (d.text ".0").toList = n.chars ∧
      Binary64.ofDecimal false n.decimal = Binary64.ofDecimal false d := by
  rw [← ofDecimal_trimZeros d]
  unfold Decimal.text
  generalize d.trimZeros = t at *
  obtain ⟨digits, exponent⟩ := t
  dsimp only at *
  have hne := digitsOf_ne_nil digits
  have hds := areDigits_toDigits digits
  have hvalue := digitsValue_digitsOf digits
  have hcount := length_digitsOf digits
  have hpos := digitCount_pos digits
  rw [← hcount] at hhigh hlow hpos
  generalize digitsOf digits = ds at *
  split
  · -- an exponent
    have hsize : (exponent + ds.length - 1).natAbs < 10 ^ 3 := by omega
    refine ⟨.scientific ds (exponent + ds.length - 1 < 0) _ hne hds hsize, ?_, ?_⟩
    · rw [Numeral.scientific_chars]
      by_cases hneg : exponent + ds.length - 1 < 0 <;>
        by_cases hten : (exponent + ds.length - 1).natAbs < 10 <;> simp [hneg, hten]
    · rw [Numeral.scientific_decimal, hvalue]
      congr 2
      simp only [decide_eq_true_eq]
      split <;> omega
  · split
    · -- zeros behind the point
      refine ⟨.positional ['0'] (List.replicate (-(exponent + ds.length)).toNat '0' ++ ds)
        (by simp) (areDigits_replicate_zero 1) ((areDigits_replicate_zero _).append hds)
        (by simp [hne]), by simp, ?_⟩
      rw [Numeral.positional_decimal, show ['0'] = List.replicate 1 '0' from rfl,
        digitsValue_zeros_append, digitsValue_zeros_append, hvalue]
      congr 2
      simp only [List.length_append, List.length_replicate]
      omega
    · split
      · -- a whole number
        refine ⟨.positional (ds ++ List.replicate ((exponent + ds.length).toNat - ds.length) '0')
          ['0'] (by simp [hne]) (hds.append (areDigits_replicate_zero _))
          (areDigits_replicate_zero 1) (by simp), by simp, ?_⟩
        rw [Numeral.positional_decimal, show ['0'] = List.replicate 1 '0' from rfl,
          digitsValue_append_zeros, digitsValue_append_zeros, hvalue, Nat.mul_assoc, ← Nat.pow_add,
          Binary64.ofDecimal_shift false (Nat.pos_of_ne_zero hdigits)]
        congr 2
        simp only [List.length_replicate]
        omega
      · -- the point between the digits
        have hpoint : (exponent + ds.length).toNat < ds.length := by omega
        have hwhole : ds.take (exponent + ds.length).toNat ≠ [] := by
          rw [ne_eq, List.take_eq_nil_iff, not_or]
          exact ⟨by omega, hne⟩
        have hfraction : ds.drop (exponent + ds.length).toNat ≠ [] := by
          rw [ne_eq, List.drop_eq_nil_iff]
          omega
        refine ⟨.positional _ _ hwhole (areDigits_take hds _) (areDigits_drop hds _) hfraction,
          by simp, ?_⟩
        rw [Numeral.positional_decimal, List.take_append_drop, hvalue, List.length_drop]
        congr 2
        omega

/-! ## The text of a number -/

/-- The text of a number without a sign is a numeral for it. -/
theorem exists_numeral_text {m q : Nat} (h : Binary64.Canonical m q) :
    ∃ n : Numeral, (Binary64.finite false m q h).text.toList = n.chars ∧
      Binary64.ofDecimal false n.decimal = .finite false m q h := by
  by_cases hm : m = 0
  · subst hm
    obtain rfl : q = 0 := by
      obtain ⟨-, hq, -⟩ := h
      omega
    refine ⟨.positional ['0'] ['0'] (by simp) (areDigits_replicate_zero 1)
      (areDigits_replicate_zero 1) (by simp), ?_, rfl⟩
    simp [Binary64.text, Binary64.textWith]
  · have hread := Binary64.ofDecimal_shortest h hm
    obtain ⟨hdigits, hhigh, hlow⟩ :=
      Binary64.places_of_ofDecimal ((ofDecimal_trimZeros _).trans hread) hm
    obtain ⟨n, hchars, hvalue⟩ := exists_numeral _ hhigh hlow hdigits
    refine ⟨n, ?_, hvalue.trans hread⟩
    simpa [Binary64.text, Binary64.textWith, hm] using hchars

/-- A numeral consists of digits, the point and the marks of its exponent. -/
theorem Numeral.mem_chars (n : Numeral) {c : Char} (hc : c ∈ n.chars) :
    c.isDigit ∨ c = '.' ∨ c = 'e' ∨ c = '-' ∨ c = '+' := by
  simp only [Numeral.chars, List.mem_append] at hc
  rcases hc with (hwhole | hfraction) | hexponent
  · exact .inl (n.whole_digits c hwhole)
  · unfold Numeral.fractionChars at hfraction
    split at hfraction
    · cases hfraction
    · rcases List.mem_cons.1 hfraction with rfl | hfraction
      · exact .inr (.inl rfl)
      · exact .inl (n.fraction_digits c hfraction)
  · unfold Numeral.exponentChars at hexponent
    split at hexponent
    · cases hexponent
    · rename_i negative ds he
      have hds := (n.exponent_digits _ he).2.1
      simp only [List.mem_cons] at hexponent
      rcases hexponent with rfl | hsign | hexponent
      · exact .inr (.inr (.inl rfl))
      · cases negative
        · exact .inr (.inr (.inr (.inr hsign)))
        · exact .inr (.inr (.inr (.inl hsign)))
      · exact .inl (hds c hexponent)

/-- A numeral begins with a digit, and what follows is no letter for a base. -/
theorem Numeral.chars_eq_cons (n : Numeral) : ∃ c d rest, n.chars = c :: d :: rest ∧
    c.isDigit ∧ (d.isDigit ∨ d = '.' ∨ d = 'e') := by
  obtain ⟨c, ds, hwhole⟩ := List.exists_cons_of_ne_nil n.whole_ne_nil
  have hdigits := n.whole_digits
  rw [hwhole] at hdigits
  have hc := hdigits c List.mem_cons_self
  unfold Numeral.chars
  rw [hwhole]
  cases ds with
  | cons d ds => exact ⟨c, d, _, rfl, hc, .inl (hdigits d (by simp))⟩
  | nil =>
    unfold Numeral.fractionChars
    by_cases hfraction : n.fraction = []
    · have hsome := n.not_integer.resolve_left (not_not_intro hfraction)
      obtain ⟨e, he⟩ := Option.isSome_iff_exists.1 hsome
      rw [if_pos hfraction]
      unfold Numeral.exponentChars
      rw [he]
      exact ⟨c, 'e', _, rfl, hc, .inr (.inr rfl)⟩
    · rw [if_neg hfraction]
      exact ⟨c, '.', _, rfl, hc, .inr (.inl rfl)⟩

theorem readNumeral?_numeral (n : Numeral) (tail : List Char) :
    readNumeral? (n.chars ++ tail) = readDecimal? (n.chars ++ tail) := by
  obtain ⟨c, d, rest, hchars, hc, hd⟩ := n.chars_eq_cons
  have hne : ∀ letter, letter.isDigit = false → letter ≠ '.' → letter ≠ 'e' → d ≠ letter := by
    rintro letter hdigit hpoint he rfl
    rcases hd with h | h | h
    · rw [h] at hdigit
      cases hdigit
    · exact hpoint h
    · exact he h
  have hx := hne 'x' (by decide) (by decide) (by decide)
  have hX := hne 'X' (by decide) (by decide) (by decide)
  have ho := hne 'o' (by decide) (by decide) (by decide)
  have hO := hne 'O' (by decide) (by decide) (by decide)
  have hb := hne 'b' (by decide) (by decide) (by decide)
  have hB := hne 'B' (by decide) (by decide) (by decide)
  rw [hchars, List.cons_append, List.cons_append]
  unfold readNumeral?
  split
  · rename_i heq
    obtain ⟨-, heq⟩ := List.cons.inj heq
    obtain ⟨rfl, -⟩ := List.cons.inj heq
    simp [hx, hX, ho, hO, hb, hB]
  · rfl

theorem readNumeral?_text {m q : Nat} (h : Binary64.Canonical m q) {c : Char} (hc : EndsNumber c)
    (rest : List Char) :
    (∃ d ds, (Binary64.finite false m q h).text.toList = d :: ds ∧ d.isDigit) ∧
      readNumeral? ((Binary64.finite false m q h).text.toList ++ c :: rest) =
        some (.float (.finite false m q h), c :: rest) := by
  obtain ⟨n, hchars, hvalue⟩ := exists_numeral_text h
  obtain ⟨d, e, ds, hcons, hd, -⟩ := n.chars_eq_cons
  rw [hchars, readNumeral?_numeral, readDecimal?_numeral n hc, hvalue]
  exact ⟨⟨d, e :: ds, hcons, hd⟩, rfl⟩

theorem text_of_negative {m q : Nat} (h : Binary64.Canonical m q) :
    (Binary64.finite true m q h).text.toList = '-' :: (Binary64.finite false m q h).text.toList := by
  simp [Binary64.text, Binary64.textWith]

end Sitemap.Source
