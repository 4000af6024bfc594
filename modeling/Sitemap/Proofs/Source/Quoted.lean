import Sitemap.Source.TextLiteral
import Sitemap.Text.Quoted

/-!
# A quoted text is a literal for the text

* `quoteFor_eq` : the quotes are single or double;
* `isShown_of_mem_quoted` : a quoted text holds no control character;
* `readText?_escapedBody` : the literal ends where the quoted text ends;
* `decodeText?_escapedBody` : its body stands for the text.
-/

namespace Sitemap.Source

attribute [local instance (2000)] instPowNat

/-! ## Characters -/

/-- No control character of ASCII: neither a line end nor a byte of zero. -/
def IsShown (c : Char) : Prop := 0x20 ≤ c.toNat

instance (c : Char) : Decidable (IsShown c) := by unfold IsShown; infer_instance

theorem isShown_of_isPrintable {c : Char} (h : isPrintable c) : IsShown c := by
  unfold isPrintable at h
  unfold IsShown
  split at h
  · have hval := of_decide_eq_true h
    exact UInt32.le_iff_toNat_le.1 hval
  · rename_i hval
    have hge : 0x7f ≤ c.toNat := UInt32.le_iff_toNat_le.1 (UInt32.not_lt.1 hval)
    omega

theorem quoteFor_eq (cs : List Char) : quoteFor cs = '\'' ∨ quoteFor cs = '"' := by
  unfold quoteFor
  split
  · exact .inr rfl
  · exact .inl rfl

/-! ## Hexadecimal digits -/

theorem hexDigit?_digitChar : ∀ d < 16, hexDigit? (Nat.digitChar d) = some d := by decide

theorem length_hexDigits (width n : Nat) : (hexDigits width n).length = width := by
  induction width generalizing n with
  | zero => rfl
  | succ width ih => rw [hexDigits, List.length_append, ih, List.length_singleton]

theorem hexDigit?_isSome_of_mem {width n : Nat} {c : Char} (hc : c ∈ hexDigits width n) :
    (hexDigit? c).isSome := by
  induction width generalizing n with
  | zero => cases hc
  | succ width ih =>
    rw [hexDigits, List.mem_append, List.mem_singleton] at hc
    rcases hc with hc | rfl
    · exact ih hc
    · rw [hexDigit?_digitChar _ (Nat.mod_lt n (by decide))]
      rfl

theorem foldlM_hexDigits (width n before : Nat) :
    (hexDigits width n).foldlM (fun n d => (hexDigit? d).map (n * 16 + ·)) before =
      some (before * 16 ^ width + n % 16 ^ width) := by
  induction width generalizing n with
  | zero => simp [hexDigits, Nat.mod_one]
  | succ width ih =>
    have hdigit := hexDigit?_digitChar _ (Nat.mod_lt n (by decide : 16 > 0))
    simp only [hexDigits, List.foldlM_append, ih, List.foldlM_cons, List.foldlM_nil, hdigit,
      Option.bind_eq_bind, Option.bind_some, Option.map_some]
    refine congrArg some ?_
    rw [Nat.pow_succ, Nat.mul_comm (16 ^ width) 16, Nat.mod_mul, Nat.add_mul, Nat.mul_assoc,
      Nat.mul_comm (16 ^ width) 16]
    omega

theorem hexValue?_hexDigits (width : Nat) {n : Nat} (h : n < 16 ^ width) (rest : List Char) :
    hexValue? width (hexDigits width n ++ rest) = some n := by
  have htake : (hexDigits width n ++ rest).take width = hexDigits width n := by
    rw [List.take_append_of_le_length (Nat.le_of_eq (length_hexDigits width n).symm)]
    exact List.take_of_length_le (Nat.le_of_eq (length_hexDigits width n))
  unfold hexValue?
  simp only [htake, length_hexDigits, Nat.lt_irrefl, if_false, foldlM_hexDigits, Nat.zero_mul,
    Nat.zero_add, Nat.mod_eq_of_lt h]

theorem unitOfNumber?_toNat (c : Char) : unitOfNumber? c.toNat = some (.char c) := by
  have hvalid : c.toNat < 0xd800 ∨ 0xdfff < c.toNat ∧ c.toNat < 0x110000 := c.valid
  unfold unitOfNumber?
  rw [if_neg, if_neg, Char.ofNat_toNat]
  · omega
  · omega

/-! ## One character -/

def IsPlain (quote c : Char) : Prop := c ≠ quote ∧ c ≠ '\n' ∧ c ≠ '\\'

instance (quote c : Char) : Decidable (IsPlain quote c) := by unfold IsPlain; infer_instance

/-- The two forms of a character between quotes: as it is, or a backslash with characters after it
of which only the first may be special. -/
inductive EscapedAs (quote : Char) : List Char → Prop where
  | plain {c : Char} (hc : IsPlain quote c) (hshown : IsShown c) : EscapedAs quote [c]
  | backslash {d : Char} {ds : List Char} (hd : IsShown d)
      (hds : ∀ c ∈ ds, IsPlain quote c ∧ IsShown c) : EscapedAs quote ('\\' :: d :: ds)

theorem hexDigit?_of_not_isShown : ∀ n < 0x20, hexDigit? (Char.ofNat n) = none := by decide

theorem isPlain_of_hexDigit {quote c : Char} (hquote : quote = '\'' ∨ quote = '"')
    (hc : (hexDigit? c).isSome) : IsPlain quote c ∧ IsShown c := by
  have hne : ∀ d, hexDigit? d = none → c ≠ d := by
    rintro d hd rfl
    rw [hd] at hc
    cases hc
  refine ⟨⟨?_, hne _ (by decide), hne _ (by decide)⟩, ?_⟩
  · rcases hquote with rfl | rfl <;> exact hne _ (by decide)
  · refine Decidable.byContradiction fun hshown => ?_
    have hnone := hexDigit?_of_not_isShown c.toNat (Nat.not_le.1 hshown)
    rw [Char.ofNat_toNat] at hnone
    exact hne c hnone rfl

/-- What stands between quotes for a character has one of the two forms. -/
theorem escapedAs_escaped (quote c : Char) (hquote : quote = '\'' ∨ quote = '"') :
    EscapedAs quote (escaped quote c) := by
  have hhex : ∀ width, ∀ d ∈ hexDigits width c.toNat, IsPlain quote d ∧ IsShown d :=
    fun width d hd => isPlain_of_hexDigit hquote (hexDigit?_isSome_of_mem hd)
  unfold escaped
  split
  · rename_i h
    simp only [Bool.or_eq_true, beq_iff_eq] at h
    refine .backslash ?_ (by simp)
    rcases h with rfl | rfl
    · rcases hquote with rfl | rfl <;> decide
    · decide
  · rename_i hspecial
    simp only [Bool.or_eq_true, beq_iff_eq, not_or] at hspecial
    split
    · exact .backslash (by decide) (by simp)
    · split
      · exact .backslash (by decide) (by simp)
      · rename_i hnewline
        split
        · exact .backslash (by decide) (by simp)
        · split
          · rename_i hprintable
            exact .plain ⟨hspecial.1, by simpa using hnewline, hspecial.2⟩
              (isShown_of_isPrintable hprintable)
          · split
            · exact .backslash (by decide) (hhex 2)
            · split
              · exact .backslash (by decide) (hhex 4)
              · exact .backslash (by decide) (hhex 8)

/-! ## The body of a literal -/

def escapedBody (quote : Char) (cs : List Char) : List Char := cs.flatMap (escaped quote)

theorem readBody?_plain {quote : Char} {cs : List Char} (hcs : ∀ c ∈ cs, IsPlain quote c)
    (triple : Bool) (rest : List Char) :
    readBody? quote triple (cs ++ rest) =
      (readBody? quote triple rest).map fun (body, after) => (cs ++ body, after) := by
  induction cs with
  | nil => simp
  | cons c cs ih =>
    obtain ⟨hquote, hnewline, hbackslash⟩ := hcs c List.mem_cons_self
    rw [List.cons_append, readBody?.eq_def]
    simp [hquote, hnewline, hbackslash, ih fun d hd => hcs d (List.mem_cons_of_mem _ hd),
      Function.comp_def]

theorem readBody?_escapedAs {quote : Char} {cs : List Char} (h : EscapedAs quote cs)
    (rest : List Char) :
    readBody? quote false (cs ++ rest) =
      (readBody? quote false rest).map fun (body, after) => (cs ++ body, after) := by
  cases h with
  | plain hc _ => exact readBody?_plain (by simpa using hc) false rest
  | @backslash d ds _ hds =>
    rw [List.cons_append, List.cons_append, readBody?.eq_def]
    simp [readBody?_plain (fun c hc => (hds c hc).1) false rest, Function.comp_def]

/-- The body ends at the quote behind it. -/
theorem readBody?_escapedBody {quote : Char} (hquote : quote = '\'' ∨ quote = '"')
    (cs rest : List Char) :
    readBody? quote false (escapedBody quote cs ++ quote :: rest) =
      some (escapedBody quote cs, rest) := by
  induction cs with
  | nil =>
    have hbackslash : quote ≠ '\\' := by rcases hquote with rfl | rfl <;> decide
    unfold escapedBody
    rw [List.flatMap_nil, List.nil_append, readBody?.eq_def]
    simp [hbackslash]
  | cons c cs ih =>
    unfold escapedBody at ih ⊢
    rw [List.flatMap_cons, List.append_assoc, readBody?_escapedAs (escapedAs_escaped quote c hquote),
      ih, Option.map_some]

theorem EscapedAs.head_ne {quote : Char} (hquote : quote = '\'' ∨ quote = '"') {cs : List Char}
    (h : EscapedAs quote cs) : ∃ c rest, cs = c :: rest ∧ c ≠ quote := by
  cases h with
  | plain hc _ => exact ⟨_, [], rfl, hc.1⟩
  | backslash _ _ => exact ⟨'\\', _, rfl, by rcases hquote with rfl | rfl <;> decide⟩

/-- The body never begins with the quote, so it is not taken for a threefold one. -/
theorem readText?_escapedBody {quote d : Char} (hquote : quote = '\'' ∨ quote = '"')
    (hd : d ≠ quote) (cs rest : List Char) :
    readText? quote (escapedBody quote cs ++ quote :: d :: rest) =
      some (escapedBody quote cs, d :: rest) := by
  have hbody := readBody?_escapedBody hquote cs (d :: rest)
  unfold readText?
  split
  · rename_i heq
    rw [if_neg, hbody]
    rintro ⟨rfl, rfl⟩
    cases cs with
    | nil => exact hd (List.cons.inj (List.cons.inj heq).2).1
    | cons x xs =>
      obtain ⟨c, tail, hx, hc⟩ := (escapedAs_escaped _ x hquote).head_ne hquote
      unfold escapedBody at heq
      rw [List.flatMap_cons, hx] at heq
      exact hc (List.cons.inj heq).1
  · exact hbody

theorem readText?_threefold {quote : Char} {cs : List Char} (hcs : ∀ c ∈ cs, IsPlain quote c)
    (hquote : quote ≠ '\\') (rest : List Char) :
    readText? quote (quote :: quote :: (cs ++ quote :: quote :: quote :: rest)) =
      some (cs, rest) := by
  have hend : readBody? quote true (quote :: quote :: quote :: rest) = some ([], rest) := by
    rw [readBody?.eq_def]
    simp [hquote]
  unfold readText?
  simp [readBody?_plain hcs, hend]

/-! ## The text of a body -/

theorem decodeTextFrom?_skip (ds rest : List Char) :
    decodeTextFrom? ds.length (ds ++ rest) = decodeTextFrom? 0 rest := by
  induction ds with
  | nil => rfl
  | cons d ds ih => exact ih

theorem decodeTextFrom?_plain {c : Char} (hc : c ≠ '\\') (rest : List Char) :
    decodeTextFrom? 0 (c :: rest) = (decodeTextFrom? 0 rest).map (.char c :: ·) := by
  rw [decodeTextFrom?.eq_def]
  simp [hc]

theorem decodeText?_plain {cs : List Char} (hcs : '\\' ∉ cs) :
    decodeText? false cs = some (cs.map .char) := by
  have h : decodeTextFrom? 0 cs = some (cs.map .char) := by
    induction cs with
    | nil => rfl
    | cons c cs ih =>
      simp only [List.mem_cons, not_or] at hcs
      rw [decodeTextFrom?_plain (Ne.symm hcs.1), ih hcs.2, Option.map_some, List.map_cons]
  exact h

theorem decodeTextFrom?_escape {c : Char} (ds : List Char) {rest : List Char}
    (h : escape? (ds ++ rest) = some ([.char c], ds.length)) :
    decodeTextFrom? 0 ('\\' :: ds ++ rest) = (decodeTextFrom? 0 rest).map (.char c :: ·) := by
  rw [List.cons_append, decodeTextFrom?.eq_def]
  simp only [if_true, h, Option.bind_eq_bind, Option.bind_some, decodeTextFrom?_skip]
  cases decodeTextFrom? 0 rest <;> rfl

theorem escape?_byte {c : Char} (h : c.toNat < 0x100) (rest : List Char) :
    escape? ('x' :: hexDigits 2 c.toNat ++ rest) =
      some ([.char c], ('x' :: hexDigits 2 c.toNat).length) := by
  have hvalue := hexValue?_hexDigits 2 h rest
  simp [escape?, simpleEscape?, hvalue, length_hexDigits, Char.ofNat_toNat]

theorem escape?_short {c : Char} (h : c.toNat < 0x10000) (rest : List Char) :
    escape? ('u' :: hexDigits 4 c.toNat ++ rest) =
      some ([.char c], ('u' :: hexDigits 4 c.toNat).length) := by
  have hvalue := hexValue?_hexDigits 4 h rest
  simp [escape?, simpleEscape?, hvalue, length_hexDigits, unitOfNumber?_toNat]

theorem escape?_long (c : Char) (rest : List Char) :
    escape? ('U' :: hexDigits 8 c.toNat ++ rest) =
      some ([.char c], ('U' :: hexDigits 8 c.toNat).length) := by
  have hlt : c.toNat < 16 ^ 8 := by
    have hvalid : c.toNat < 0xd800 ∨ 0xdfff < c.toNat ∧ c.toNat < 0x110000 := c.valid
    omega
  have hvalue := hexValue?_hexDigits 8 hlt rest
  simp [escape?, simpleEscape?, hvalue, length_hexDigits, unitOfNumber?_toNat]

theorem decodeTextFrom?_escaped {quote : Char} (hquote : quote = '\'' ∨ quote = '"') (c : Char)
    (rest : List Char) :
    decodeTextFrom? 0 (escaped quote c ++ rest) =
      (decodeTextFrom? 0 rest).map (.char c :: ·) := by
  unfold escaped
  split
  · rename_i h
    simp only [Bool.or_eq_true, beq_iff_eq] at h
    refine decodeTextFrom?_escape [c] ?_
    rcases h with rfl | rfl
    · rcases hquote with rfl | rfl <;> rfl
    · rfl
  · rename_i hspecial
    simp only [Bool.or_eq_true, beq_iff_eq, not_or] at hspecial
    split
    · rename_i h
      rw [eq_of_beq h]
      exact decodeTextFrom?_escape ['t'] rfl
    · split
      · rename_i h
        rw [eq_of_beq h]
        exact decodeTextFrom?_escape ['n'] rfl
      · split
        · rename_i h
          rw [eq_of_beq h]
          exact decodeTextFrom?_escape ['r'] rfl
        · split
          · exact decodeTextFrom?_plain hspecial.2 rest
          · split
            · exact decodeTextFrom?_escape _ (escape?_byte ‹_› rest)
            · split
              · exact decodeTextFrom?_escape _ (escape?_short ‹_› rest)
              · exact decodeTextFrom?_escape _ (escape?_long c rest)

theorem decodeText?_escapedBody {quote : Char} (hquote : quote = '\'' ∨ quote = '"')
    (cs : List Char) : decodeText? false (escapedBody quote cs) = some (cs.map .char) := by
  have hdecode : decodeTextFrom? 0 (escapedBody quote cs) = some (cs.map .char) := by
    induction cs with
    | nil => rfl
    | cons c cs ih =>
      unfold escapedBody at ih ⊢
      rw [List.flatMap_cons, decodeTextFrom?_escaped hquote, ih, Option.map_some, List.map_cons]
  exact hdecode

/-! ## No control characters -/

theorem EscapedAs.isShown {quote : Char} {cs : List Char} (h : EscapedAs quote cs) :
    ∀ c ∈ cs, IsShown c := by
  cases h with
  | plain _ hshown => simpa using hshown
  | @backslash d ds hd hds =>
    intro c hc
    rcases List.mem_cons.1 hc with rfl | hc
    · decide
    · rcases List.mem_cons.1 hc with rfl | hc
      · exact hd
      · exact (hds c hc).2

theorem isShown_of_mem_escapedBody {quote : Char} (hquote : quote = '\'' ∨ quote = '"')
    {cs : List Char} {c : Char} (hc : c ∈ escapedBody quote cs) : IsShown c := by
  obtain ⟨x, -, hx⟩ := List.mem_flatMap.1 hc
  exact (escapedAs_escaped quote x hquote).isShown c hx

theorem toList_quoted (s : String) :
    (quoted s).toList = quoteFor s.toList :: escapedBody (quoteFor s.toList) s.toList ++
      [quoteFor s.toList] := by
  unfold quoted quotedList escapedBody
  rw [String.toList_ofList]

theorem isShown_of_mem_quoted {s : String} {c : Char} (hc : c ∈ (quoted s).toList) : IsShown c := by
  have hquote := quoteFor_eq s.toList
  have hshown : IsShown (quoteFor s.toList) := by rcases hquote with h | h <;> rw [h] <;> decide
  rw [toList_quoted, List.mem_append, List.mem_cons, List.mem_singleton] at hc
  rcases hc with (rfl | hc) | rfl
  · exact hshown
  · exact isShown_of_mem_escapedBody hquote hc
  · exact hshown

end Sitemap.Source
