import Sitemap.Text.CharSet

/-!
# Pieces between separators

* `splitChars_eq_splitOn` : the pieces are those of the library's function;
* `map_splitChars_intercalate` : texts without the separator are the pieces of their joined text;
* `not_mem_of_mem_splitChars` : no piece has the separator.
-/

namespace Sitemap

theorem splitChars_eq_splitOn (separator : Char) (cs : List Char) :
    splitChars separator cs = cs.splitOn separator := by
  induction cs with
  | nil => rfl
  | cons c cs ih =>
    rw [splitChars, List.splitOn_cons_eq_if_modifyHead, ← ih]
    by_cases hc : c = separator
    · simp [hc]
    · have hne : splitChars separator cs ≠ [] := by
        rw [ih]
        exact List.splitOn_ne_nil separator cs
      obtain ⟨piece, pieces, hpieces⟩ := List.exists_cons_of_ne_nil hne
      simp [hc, hpieces]

theorem map_splitChars_intercalate (separator : Char) {texts : List String} (hne : texts ≠ [])
    (h : ∀ text ∈ texts, separator ∉ text.toList) :
    (splitChars separator ((String.singleton separator).intercalate texts).toList).map
      String.ofList = texts := by
  have hpieces : splitChars separator ((String.singleton separator).intercalate texts).toList =
      texts.map String.toList := by
    rw [splitChars_eq_splitOn, String.toList_intercalate, String.toList_singleton]
    refine List.splitOn_intercalate separator (fun piece hpiece => ?_) (by simpa using hne)
    obtain ⟨text, hmem, rfl⟩ := List.mem_map.1 hpiece
    exact h text hmem
  have hofList : String.ofList ∘ String.toList = id := funext fun s => String.ofList_toList
  rw [hpieces, List.map_map, hofList, List.map_id]

theorem not_mem_of_mem_splitChars {separator : Char} {cs piece : List Char}
    (h : piece ∈ splitChars separator cs) : separator ∉ piece := by
  induction cs generalizing piece with
  | nil =>
    rw [splitChars, List.mem_singleton] at h
    rw [h]
    exact List.not_mem_nil
  | cons c cs ih =>
    rw [splitChars] at h
    split at h
    · rcases List.mem_cons.1 h with rfl | h
      · exact List.not_mem_nil
      · exact ih h
    · rename_i hc
      split at h
      · rw [List.mem_singleton.1 h, List.mem_singleton]
        exact Ne.symm hc
      · rename_i first pieces hpieces
        rcases List.mem_cons.1 h with rfl | h
        · have hfirst := ih (hpieces ▸ List.mem_cons_self)
          simp [hfirst, Ne.symm hc]
        · exact ih (hpieces ▸ List.mem_cons_of_mem _ h)

end Sitemap
