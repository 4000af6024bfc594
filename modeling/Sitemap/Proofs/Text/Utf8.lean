import Mathlib.Tactic.SplitIfs
import Sitemap.Text.Utf8

/-!
# Decoding what was encoded

* `step_encodeChar` : the bytes of a character are read as the character;
* `decode_encode`, `decodeLossyFrom_flatMap` : the bytes of a text are read as the text.
-/

namespace Sitemap.Utf8

/-! ## Bytes as numbers -/

theorem toNat_toUInt8 {n : Nat} (h : n < 0x100) : n.toUInt8.toNat = n := by
  simp only [Nat.toUInt8, UInt8.toNat_ofNat']
  omega

theorem isTail_iff (b : UInt8) : isTail b = true ↔ 0x80 ≤ b.toNat ∧ b.toNat ≤ 0xbf := by
  simp [isTail, UInt8.le_iff_toNat_le]

theorem tailValue_tail (n : Nat) : tailValue (0x80 + n % 64).toUInt8 = n % 64 := by
  rw [tailValue, toNat_toUInt8 (by omega)]
  omega

theorem isTail_tail (n : Nat) : isTail (0x80 + n % 64).toUInt8 = true := by
  rw [isTail_iff, toNat_toUInt8 (by omega)]
  omega

theorem readTail_tail (count value good n : Nat) (rest : List UInt8) :
    readTail (count + 1) value good ((0x80 + n % 64).toUInt8 :: rest) =
      readTail count (value * 64 + n % 64) (good + 1) rest := by
  rw [readTail, if_pos (isTail_tail n), tailValue_tail]

/-- A second byte fits a first one that begins a character of two to four bytes, but for the four
first bytes whose range is narrower. -/
theorem secondRange?_fits {first second : Nat} (hfirst : 0xc2 ≤ first ∧ first ≤ 0xf4)
    (hsecond : 0x80 ≤ second ∧ second ≤ 0xbf)
    (hlow : (first = 0xe0 → 0xa0 ≤ second) ∧ (first = 0xf0 → 0x90 ≤ second))
    (hhigh : (first = 0xed → second ≤ 0x9f) ∧ (first = 0xf4 → second ≤ 0x8f)) :
    ∃ low high, secondRange? first.toUInt8 = some (low, high) ∧
      low.toNat ≤ second ∧ second ≤ high.toNat := by
  have hbyte := toNat_toUInt8 (n := first) (by omega)
  have hrange : (first.toUInt8 < 0xc2 || 0xf4 < first.toUInt8) = false := by
    simp only [UInt8.lt_iff_toNat_lt, hbyte, UInt8.reduceToNat, Bool.or_eq_false_iff,
      decide_eq_false_iff_not]
    omega
  have heq : ∀ n : Nat, n < 0x100 → (first.toUInt8 == n.toUInt8) = decide (first = n) := by
    intro n hn
    rw [Bool.eq_iff_iff, beq_iff_eq, decide_eq_true_eq, ← UInt8.toNat_inj, hbyte, toNat_toUInt8 hn]
  unfold secondRange?
  rw [hrange]
  by_cases he0 : first = 0xe0
  · exact ⟨0xa0, 0xbf, by simp [he0], hlow.1 he0, hsecond.2⟩
  by_cases hed : first = 0xed
  · exact ⟨0x80, 0x9f, by simp [hed], hsecond.1, hhigh.1 hed⟩
  by_cases hf0 : first = 0xf0
  · exact ⟨0x90, 0xbf, by simp [hf0], hlow.2 hf0, hsecond.2⟩
  by_cases hf4 : first = 0xf4
  · exact ⟨0x80, 0x8f, by simp [hf4], hsecond.1, hhigh.2 hf4⟩
  have h0 : (first.toUInt8 == 0xe0) = false := (heq 0xe0 (by decide)).trans (decide_eq_false he0)
  have hd : (first.toUInt8 == 0xed) = false := (heq 0xed (by decide)).trans (decide_eq_false hed)
  have hf : (first.toUInt8 == 0xf0) = false := (heq 0xf0 (by decide)).trans (decide_eq_false hf0)
  have h4 : (first.toUInt8 == 0xf4) = false := (heq 0xf4 (by decide)).trans (decide_eq_false hf4)
  exact ⟨0x80, 0xbf, by simp [h0, hd, hf, h4], hsecond⟩

theorem tailCount_eq {first : Nat} (h : first < 0x100) :
    tailCount first.toUInt8 = if first < 0xe0 then 1 else if first < 0xf0 then 2 else 3 := by
  simp [tailCount, UInt8.lt_iff_toNat_lt, toNat_toUInt8 h]

theorem headValue_eq {first : Nat} (h : first < 0x100) :
    headValue first.toUInt8 = if first < 0xe0 then first % 32 else if first < 0xf0 then first % 16
      else first % 8 := by
  simp [headValue, UInt8.lt_iff_toNat_lt, toNat_toUInt8 h]

/-! ## Characters -/

theorem toNat_lt (c : Char) : c.toNat < 0xd800 ∨ 0xdfff < c.toNat ∧ c.toNat < 0x110000 := c.valid

theorem step_short {c : Char} (h : c.toNat < 0x80) (rest : List UInt8) :
    step c.toNat.toUInt8 rest = .ok (c, 1) := by
  have hbyte : c.toNat.toUInt8 < 0x80 := by
    rw [UInt8.lt_iff_toNat_lt, toNat_toUInt8 (by omega)]
    exact h
  unfold step
  rw [if_pos hbyte, toNat_toUInt8 (by omega), Char.ofNat_toNat]

/-- A first byte with a second one in its range, and the bytes that continue. -/
theorem step_long {first second : Nat} {c : Char} {length : Nat} {rest : List UInt8}
    (hfirst : 0xc2 ≤ first ∧ first ≤ 0xf4)
    (hlow : (first = 0xe0 → 32 ≤ second % 64) ∧ (first = 0xf0 → 16 ≤ second % 64))
    (hhigh : (first = 0xed → second % 64 ≤ 31) ∧ (first = 0xf4 → second % 64 ≤ 15))
    (htail : readTail (tailCount first.toUInt8 - 1) (headValue first.toUInt8 * 64 + second % 64) 2
      rest = .ok (c.toNat, length)) :
    step first.toUInt8 ((0x80 + second % 64).toUInt8 :: rest) = .ok (c, length) := by
  have hbyte : ¬first.toUInt8 < 0x80 := by
    have hliteral : (0x80 : UInt8).toNat = 0x80 := rfl
    rw [UInt8.lt_iff_toNat_lt, toNat_toUInt8 (by omega), hliteral]
    omega
  obtain ⟨low, high, hrange, hle, hge⟩ := secondRange?_fits hfirst
    (show 0x80 ≤ 0x80 + second % 64 ∧ 0x80 + second % 64 ≤ 0xbf by omega) ⟨fun h => by have := hlow.1 h; omega, fun h => by have := hlow.2 h; omega⟩
    ⟨fun h => by have := hhigh.1 h; omega, fun h => by have := hhigh.2 h; omega⟩
  have hsecond : (decide (low ≤ (0x80 + second % 64).toUInt8) &&
      decide ((0x80 + second % 64).toUInt8 ≤ high)) = true := by
    simp only [UInt8.le_iff_toNat_le, toNat_toUInt8 (show 0x80 + second % 64 < 0x100 by omega),
      Bool.and_eq_true, decide_eq_true_eq]
    exact ⟨hle, hge⟩
  unfold step
  rw [if_neg hbyte, hrange]
  simp only [hsecond, if_true, tailValue_tail, htail, Char.ofNat_toNat]

/-- The bytes of a character are read as the character. -/
theorem step_encodeChar (c : Char) : ∃ b bs, encodeChar c = b :: bs ∧
    ∀ rest, step b (bs ++ rest) = .ok (c, bs.length + 1) := by
  have hvalid := toNat_lt c
  by_cases h1 : c.toNat < 0x80
  · exact ⟨_, [], by simp [encodeChar, h1], step_short h1⟩
  by_cases h2 : c.toNat < 0x800
  · refine ⟨(0xc0 + c.toNat / 64).toUInt8, [(0x80 + c.toNat % 64).toUInt8],
      by simp [encodeChar, h1, h2], fun rest => ?_⟩
    refine step_long (by omega) (by omega) (by omega) ?_
    rw [tailCount_eq (by omega), headValue_eq (by omega), if_pos (by omega), if_pos (by omega),
      readTail]
    congr 2
    omega
  by_cases h3 : c.toNat < 0x10000
  · refine ⟨(0xe0 + c.toNat / 4096).toUInt8,
      [(0x80 + c.toNat / 64 % 64).toUInt8, (0x80 + c.toNat % 64).toUInt8],
      by simp [encodeChar, h1, h2, h3], fun rest => ?_⟩
    refine step_long (by omega) (by omega) (by omega) ?_
    rw [tailCount_eq (by omega), headValue_eq (by omega), if_neg (by omega), if_pos (by omega),
      if_neg (by omega), if_pos (by omega), List.append_eq, List.cons_append, readTail_tail,
      readTail]
    congr 2
    omega
  · refine ⟨(0xf0 + c.toNat / 262144).toUInt8,
      [(0x80 + c.toNat / 4096 % 64).toUInt8, (0x80 + c.toNat / 64 % 64).toUInt8,
        (0x80 + c.toNat % 64).toUInt8], by simp [encodeChar, h1, h2, h3], fun rest => ?_⟩
    refine step_long (by omega) (by omega) (by omega) ?_
    rw [tailCount_eq (by omega), headValue_eq (by omega), if_neg (by omega), if_neg (by omega),
      if_neg (by omega), if_neg (by omega), List.append_eq, List.cons_append, List.cons_append,
      readTail_tail, readTail_tail, readTail]
    congr 2
    omega

/-! ## Texts -/

theorem decodeFrom_skip (offset : Nat) (bs rest : List UInt8) :
    decodeFrom offset bs.length (bs ++ rest) = decodeFrom (offset + bs.length) 0 rest := by
  induction bs generalizing offset with
  | nil => rfl
  | cons b bs ih =>
    rw [List.length_cons, List.cons_append, decodeFrom, ih]
    congr 1
    omega

theorem decodeFrom_flatMap (offset : Nat) (cs : List Char) :
    decodeFrom offset 0 (cs.flatMap encodeChar) = .ok cs := by
  induction cs generalizing offset with
  | nil => rfl
  | cons c cs ih =>
    obtain ⟨b, bs, hbytes, hstep⟩ := step_encodeChar c
    rw [List.flatMap_cons, hbytes, List.cons_append, decodeFrom, hstep]
    simp only [Nat.add_sub_cancel, decodeFrom_skip, ih]

theorem decode_encode (s : String) : decode (encode s) = .ok s := by
  rw [decode, encode, decodeFrom_flatMap]
  exact congrArg Except.ok (String.ofList_toList)

theorem decodeLossyFrom_skip (replacement : Char) (bs rest : List UInt8) :
    decodeLossyFrom replacement bs.length (bs ++ rest) = decodeLossyFrom replacement 0 rest := by
  induction bs with
  | nil => rfl
  | cons b bs ih => rw [List.length_cons, List.cons_append, decodeLossyFrom, ih]

theorem decodeLossyFrom_flatMap (replacement : Char) (cs : List Char) :
    decodeLossyFrom replacement 0 (cs.flatMap encodeChar) = cs := by
  induction cs with
  | nil => rfl
  | cons c cs ih =>
    obtain ⟨b, bs, hbytes, hstep⟩ := step_encodeChar c
    rw [List.flatMap_cons, hbytes, List.cons_append, decodeLossyFrom, hstep]
    simp only [Nat.add_sub_cancel, decodeLossyFrom_skip, ih]

/-! ## Bytes of one character -/

/-- A byte below 128 is a character by itself. -/
theorem mem_encodeChar_of_lt {c : Char} {b : UInt8} (h : b ∈ encodeChar c) (hb : b.toNat < 0x80) :
    c.toNat = b.toNat := by
  have hvalid := toNat_lt c
  have hne : ∀ n, 0x80 ≤ n → n < 0x100 → b ≠ n.toUInt8 := by
    rintro n hn hlt rfl
    rw [toNat_toUInt8 hlt] at hb
    omega
  simp only [encodeChar] at h
  split_ifs at h with h1 h2 h3
  · rw [List.mem_singleton.1 h, toNat_toUInt8 (by omega)]
  all_goals
    simp only [List.mem_cons, List.not_mem_nil, or_false] at h
  · rcases h with h | h <;> exact absurd h (hne _ (by omega) (by omega))
  · rcases h with h | h | h <;> exact absurd h (hne _ (by omega) (by omega))
  · rcases h with h | h | h | h <;> exact absurd h (hne _ (by omega) (by omega))

end Sitemap.Utf8
