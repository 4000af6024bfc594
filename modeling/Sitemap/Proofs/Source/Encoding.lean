import Mathlib.Data.List.Induction
import Sitemap.Proofs.Text.Lines
import Sitemap.Proofs.Text.Utf8
import Sitemap.Source.Encoding

/-!
# Sources as text and as bytes

* `completeByteLines_encode` : the lines of a text are completed before it is encoded or after;
* `head_ne_mark` : the bytes of a text begin with the mark of an encoding only if the text does;
* `IsPlainText` : a text whose bytes give no sign of an encoding;
* `parseInput?_encode` : such a text and its bytes are the same source.
-/

namespace Sitemap.Source

/-! ## Line ends -/

theorem encodeChar_newline : Utf8.encodeChar '\n' = [10] := rfl

theorem encodeChar_return : Utf8.encodeChar '\r' = [13] := rfl

theorem eq_of_mem_encodeChar {c d : Char} {b : UInt8} (h : b ∈ Utf8.encodeChar c)
    (hd : Utf8.encodeChar d = [b]) (hb : b.toNat < 0x80) : c = d := by
  have hc := Utf8.mem_encodeChar_of_lt h hb
  have hd' := Utf8.mem_encodeChar_of_lt (hd ▸ List.mem_singleton_self b) hb
  exact Char.toNat_inj.1 (hc.trans hd'.symm)

theorem go_append {bs : List UInt8} (h : 13 ∉ bs) (rest : List UInt8) :
    completeByteLines.go (bs ++ rest) = bs ++ completeByteLines.go rest := by
  induction bs with
  | nil => rfl
  | cons b bs ih =>
    rw [List.mem_cons, not_or] at h
    rw [List.cons_append, completeByteLines.go, if_neg (Ne.symm h.1), ih h.2, List.cons_append]
    exact fun _ hb _ => h.1 hb.symm

/-- The first byte of a text is a line feed only if its first character is. -/
theorem head?_eq_newline {cs : List Char} (h : (cs.flatMap Utf8.encodeChar).head? = some 10) :
    cs.head? = some '\n' := by
  cases cs with
  | nil => cases h
  | cons c cs =>
    obtain ⟨b, bs, hbytes, -⟩ := Utf8.step_encodeChar c
    rw [List.flatMap_cons, hbytes, List.cons_append, List.head?_cons, Option.some.injEq] at h
    have hc : c = '\n' := eq_of_mem_encodeChar (b := 10) (by simp [hbytes, h]) encodeChar_newline
      (by decide)
    rw [hc, List.head?_cons]

theorem completeByteLines_go_flatMap (cs : List Char) :
    completeByteLines.go (cs.flatMap Utf8.encodeChar) =
      (unifyLines cs).flatMap Utf8.encodeChar := by
  fun_induction unifyLines cs with
  | case1 => rfl
  | case2 rest ih =>
    rw [List.flatMap_cons, List.flatMap_cons, encodeChar_return, encodeChar_newline,
      List.singleton_append, List.singleton_append, completeByteLines.go, ih, List.flatMap_cons]
    rfl
  | case3 c rest hpair ih =>
    rw [List.flatMap_cons, List.flatMap_cons, ← ih]
    by_cases hc : c = '\r'
    · subst hc
      have hhead : (rest.flatMap Utf8.encodeChar).head? ≠ some 10 := by
        intro hhead
        obtain ⟨tail, rfl⟩ := List.head?_eq_some_iff.1 (head?_eq_newline hhead)
        exact hpair tail rfl rfl
      rw [encodeChar_return, if_pos rfl, encodeChar_newline, List.singleton_append,
        completeByteLines.go, if_pos rfl, List.singleton_append]
      rintro tail - htail
      rw [htail] at hhead
      exact hhead rfl
    · rw [if_neg hc, go_append]
      exact fun hmem => hc (eq_of_mem_encodeChar hmem encodeChar_return (by decide))

/-- The last byte of a text is a line feed if its last character is. -/
theorem getLast?_flatMap_encodeChar (cs : List Char) :
    (cs.flatMap Utf8.encodeChar).getLast? = some 10 ↔ cs.getLast? = some '\n' := by
  cases cs using List.reverseRecOn with
  | nil => simp
  | append_singleton init c =>
    rw [List.flatMap_append, List.flatMap_singleton, List.getLast?_concat, Option.some.injEq]
    obtain ⟨b, bs, hbytes, -⟩ := Utf8.step_encodeChar c
    have hlast : (init.flatMap Utf8.encodeChar ++ Utf8.encodeChar c).getLast? =
        (Utf8.encodeChar c).getLast? := by
      rw [List.getLast?_append, hbytes, List.getLast?_cons, Option.some_or]
    rw [hlast]
    constructor
    · intro h
      exact eq_of_mem_encodeChar (List.mem_of_getLast? h) encodeChar_newline (by decide)
    · rintro rfl
      rfl

theorem completeByteLines_encode (s : String) :
    completeByteLines (Utf8.encode s) = (completeLines s.toList).flatMap Utf8.encodeChar := by
  simp only [completeByteLines, completeLines, Utf8.encode, completeByteLines_go_flatMap,
    getLast?_flatMap_encodeChar]
  split
  · rfl
  · rw [List.flatMap_append]
    rfl

/-! ## The mark of an encoding -/

def encodingMark : Char := '\ufeff'

theorem step_mark (rest : List UInt8) :
    Utf8.step 0xef (0xbb :: 0xbf :: rest) = .ok (encodingMark, 3) := by
  rfl

/-- The bytes of a text begin with the mark only if the text does. -/
theorem head_ne_mark {cs : List Char} (h : cs.head? ≠ some encodingMark) (rest : List UInt8) :
    cs.flatMap Utf8.encodeChar ≠ 0xef :: 0xbb :: 0xbf :: rest := by
  intro heq
  cases cs with
  | nil => cases heq
  | cons c cs =>
    obtain ⟨b, bs, hbytes, hstep⟩ := Utf8.step_encodeChar c
    rw [List.flatMap_cons, hbytes, List.cons_append] at heq
    obtain ⟨rfl, htail⟩ := List.cons.inj heq
    have hmark := hstep (cs.flatMap Utf8.encodeChar)
    rw [htail, step_mark] at hmark
    have hc : encodingMark = c := congrArg Prod.fst (Except.ok.inj hmark)
    rw [hc] at h
    exact h rfl

theorem head?_unifyLines {cs : List Char} (h : cs.head? ≠ some encodingMark) :
    (unifyLines cs).head? ≠ some encodingMark := by
  unfold unifyLines
  split
  · exact nofun
  · exact fun hmark => absurd (Option.some.inj hmark) (by decide)
  · split
    · exact fun hmark => absurd (Option.some.inj hmark) (by decide)
    · exact h

theorem head?_completeLines {cs : List Char} (h : cs.head? ≠ some encodingMark) :
    (completeLines cs).head? ≠ some encodingMark := by
  have hunified := head?_unifyLines h
  unfold completeLines
  simp only
  split
  · exact hunified
  · cases hcs : unifyLines cs with
    | nil => exact fun hmark => absurd (Option.some.inj hmark) (by decide)
    | cons c rest =>
      rw [hcs] at hunified
      exact hunified

/-! ## Plain texts -/

/-- The bytes of the text give no sign of an encoding: there is no mark at the start, and the first
two lines name none. -/
structure IsPlainText (s : String) : Prop where
  unmarked : s.toList.head? ≠ some encodingMark
  unnamed : sourceEncoding? (completeByteLines (Utf8.encode s)) = none

theorem zero_mem_encode {s : String} : 0 ∈ Utf8.encode s ↔ '\x00' ∈ s.toList := by
  have hzero : Utf8.encodeChar '\x00' = [0] := rfl
  constructor
  · intro h
    obtain ⟨c, hc, hmem⟩ := List.mem_flatMap.1 h
    rwa [← eq_of_mem_encodeChar hmem hzero (by decide)]
  · intro h
    exact List.mem_flatMap.2 ⟨_, h, hzero ▸ List.mem_singleton_self _⟩

/-- The bytes of a plain text are read as its completed lines. -/
theorem decodeSource?_encode (decoders : Decoders) {s : String} (h : IsPlainText s)
    (hzero : '\x00' ∉ s.toList) :
    decodeSource? decoders (Utf8.encode s) = some (completeLines s.toList) := by
  have hbytes : (Utf8.encode s).contains 0 = false := by
    simpa using mt zero_mem_encode.1 hzero
  have hcomplete := completeByteLines_encode s
  have hmark := head_ne_mark (head?_completeLines h.unmarked)
  have hencoding := h.unnamed
  have hlossy : (Utf8.decodeLossy '\x00' (completeByteLines (Utf8.encode s))).toList =
      completeLines s.toList := by
    rw [hcomplete, Utf8.decodeLossy, Utf8.decodeLossyFrom_flatMap, String.toList_ofList]
  unfold decodeSource?
  rw [hbytes]
  rw [← hcomplete] at hmark
  generalize completeByteLines (Utf8.encode s) = bs at hmark hencoding hlossy
  -- the bytes do not begin with the mark
  simp only [Bool.false_eq_true, if_false]
  rw [hencoding]
  exact congrArg some hlossy

theorem parseInput?_encode (decoders : Decoders) {s : String} (h : IsPlainText s) :
    parseInput? (.bytes decoders (Utf8.encode s)) = parseInput? (.text s) := by
  rw [parseInput?, parseInput?]
  by_cases hzero : '\x00' ∈ s.toList
  · have hbytes : (Utf8.encode s).contains 0 = true := by simpa using zero_mem_encode.2 hzero
    rw [if_pos (by simpa using hzero), decodeSource?, hbytes]
    rfl
  · rw [if_neg (by simpa using hzero), decodeSource?_encode decoders h hzero]
    rfl

end Sitemap.Source
