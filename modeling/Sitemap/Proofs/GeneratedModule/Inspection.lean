import Sitemap.Declaration.Inspection
import Sitemap.Proofs.GeneratedModule.RoundTrip
import Sitemap.Proofs.Source.Encoding

/-!
# A generated module among the sources

* `sourceEncoding?_ofEntries` : the first lines of a generated module name no encoding;
* `decodeSource?_ofEntries` : its bytes are decoded as its text;
* `inspect_ofEntries` : it declares no class.
-/

namespace Sitemap

open Source

namespace GeneratedModule

/-- The first line, a comment. -/
def firstLine : String := "# Generated by sitemap-codegen. Do not edit."

theorem exists_toList_ofEntries (entries : List Entry) (escaped : Bool) :
    ∃ rest, (ofEntries entries escaped).toList = firstLine.toList ++ '\n' :: '\n' :: rest := by
  rw [ofEntries_eq_joinLines]
  exact ⟨_, (toList_joinLines_cons _ _).trans
    (congrArg (fun cs => firstLine.toList ++ '\n' :: cs) (toList_joinLines_cons "" _))⟩

theorem firstLine_bytes : (∀ b ∈ Utf8.encode firstLine, b ≠ 10) ∧
    (Utf8.encode firstLine).head? = some 35 ∧
    declaredEncoding? (Utf8.encode firstLine) = none := by
  decide +kernel

theorem exists_encode_ofEntries (entries : List Entry) (escaped : Bool) :
    ∃ rest, Utf8.encode (ofEntries entries escaped) =
      Utf8.encode firstLine ++ 10 :: 10 :: rest := by
  obtain ⟨rest, hrest⟩ := exists_toList_ofEntries entries escaped
  refine ⟨rest.flatMap Utf8.encodeChar, ?_⟩
  rw [Utf8.encode, hrest, List.flatMap_append]
  rfl

/-- The first two lines name no encoding. -/
theorem sourceEncoding?_ofEntries (entries : List Entry) (escaped : Bool) :
    sourceEncoding? (Utf8.encode (ofEntries entries escaped)) = none := by
  obtain ⟨rest, hrest⟩ := exists_encode_ofEntries entries escaped
  obtain ⟨hline, -, hdeclared⟩ := firstLine_bytes
  have hplain : ∀ b ∈ Utf8.encode firstLine, decide (b ≠ 10) = true := fun b hb =>
    decide_eq_true (hline b hb)
  have htake : (Utf8.encode firstLine ++ 10 :: 10 :: rest).takeWhile (· ≠ 10) =
      Utf8.encode firstLine := by
    rw [List.takeWhile_append_of_pos hplain, List.takeWhile_cons_of_neg (by decide),
      List.append_nil]
  have hdrop : (Utf8.encode firstLine ++ 10 :: 10 :: rest).dropWhile (· ≠ 10) =
      10 :: 10 :: rest := by
    rw [List.dropWhile_append_of_pos hplain, List.dropWhile_cons_of_neg (by decide)]
  rw [hrest]
  simp only [sourceEncoding?, htake, hdrop, hdeclared, List.drop_succ_cons, List.drop_zero]
  split <;> rfl

section Bytes
variable (decoders : Decoders) {entries : List Entry}

theorem isPlainText_ofEntries (hentries : ∀ e ∈ entries, e.priority.IsFinite) (escaped : Bool) :
    IsPlainText (ofEntries entries escaped) where
  unmarked := by
    obtain ⟨rest, hrest⟩ := exists_toList_ofEntries entries escaped
    rw [hrest]
    exact fun hmark => absurd (Option.some.inj hmark) (by decide)
  unnamed := by
    rw [completeByteLines_encode, completeLines_ofEntries hentries]
    exact sourceEncoding?_ofEntries entries escaped

theorem decodeSource?_ofEntries (hentries : ∀ e ∈ entries, e.priority.IsFinite) (escaped : Bool) :
    decodeSource? decoders (Utf8.encode (ofEntries entries escaped)) =
      some (ofEntries entries escaped).toList := by
  rw [decodeSource?_encode decoders (isPlainText_ofEntries hentries escaped)
    (zero_not_mem_ofEntries hentries escaped), completeLines_ofEntries hentries]

theorem inspect_ofEntries (hentries : ∀ e ∈ entries, e.priority.IsFinite) (escaped : Bool)
    (moduleName path : String) (isPackage : Bool) :
    inspect (.bytes decoders (Utf8.encode (ofEntries entries escaped))) moduleName path isPackage =
      .ok [] := by
  have hparse : parseInput? (.bytes decoders (Utf8.encode (ofEntries entries escaped))) =
      some (moduleBody entries escaped) := by
    simp only [parseInput?, decodeSource?_ofEntries decoders hentries, parseLines?_ofEntries hentries,
      Option.bind_eq_bind, Option.bind_some]
  unfold inspect
  rw [hparse]
  simp only [inspectModule, moduleBody, importStmt, mapStmt, Stmt.declarationsOf, Stmt.declarations]
  rfl

end Bytes

end GeneratedModule

end Sitemap
