import Sitemap.Path
import Sitemap.Proofs.Text.Pieces

/-!
# The names of a path

* `IsName` : a text that a path can have as a name;
* `namesIn` : the names between slashes;
* `pathNames_eq_or`, `Path.ofText_names` : the names of a path are these, but for points;
* `pathNames_of_append`, `pathNames_text` : the names of a path that ends with a given name, and of
  a path made from names.
-/

namespace Sitemap

def IsName (name : String) : Prop := name ≠ "" ∧ '/' ∉ name.toList

instance (name : String) : Decidable (IsName name) := by unfold IsName; infer_instance

def namesIn (cs : List Char) : List String :=
  ((splitChars '/' cs).map String.ofList).filter (!·.isEmpty)

theorem namesIn_nil : namesIn [] = [] := by decide

theorem namesIn_append (before after : List Char) :
    namesIn (before ++ '/' :: after) = namesIn before ++ namesIn after := by
  simp only [namesIn, splitChars_eq_splitOn, List.splitOn_append_cons_self, List.map_append,
    List.filter_append]

theorem splitChars_name {name : String} (h : IsName name) :
    splitChars '/' name.toList = [name.toList] := by
  rw [splitChars_eq_splitOn]
  exact List.splitOn_eq_singleton h.2

theorem namesIn_name {name : String} (h : IsName name) : namesIn name.toList = [name] := by
  have hempty : name.isEmpty = false := by simpa using h.1
  simp [namesIn, splitChars_name h, hempty]

theorem isName_of_mem_namesIn {cs : List Char} {name : String} (h : name ∈ namesIn cs) :
    IsName name := by
  obtain ⟨hmem, hne⟩ := List.mem_filter.1 h
  obtain ⟨piece, hpiece, rfl⟩ := List.mem_map.1 hmem
  refine ⟨by simpa using hne, ?_⟩
  rw [String.toList_ofList]
  exact not_mem_of_mem_splitChars hpiece

/-- The names of a path to be followed are those between its slashes, perhaps with a point. -/
theorem pathNames_eq_or (path : String) : Store.pathNames path = namesIn path.toList ∨
    Store.pathNames path = namesIn path.toList ++ ["."] := by
  unfold Store.pathNames namesIn
  simp only
  split
  · exact .inr rfl
  · exact .inl rfl

theorem pathNames_eq_of_getLast? {path name : String}
    (hlast : (Store.pathNames path).getLast? = some name) (hpoint : name ≠ ".") :
    Store.pathNames path = namesIn path.toList := by
  refine (pathNames_eq_or path).resolve_right fun hadded => ?_
  rw [hadded, List.getLast?_concat] at hlast
  exact hpoint (Option.some.inj hlast).symm

theorem Path.ofText_names (text : String) :
    (Path.ofText text).names = (namesIn text.toList).filter (· ≠ ".") := by
  rw [namesIn, List.filter_filter]
  refine List.filter_congr fun name _ => ?_
  have hempty : name.isEmpty = decide (name = "") := by
    rw [Bool.eq_iff_iff, String.isEmpty_iff, decide_eq_true_eq]
  simp [hempty, Bool.and_comm]

theorem pathNames_of_getLast? {path name : String} (hname : IsName name)
    (h : (splitChars '/' path.toList).getLast? = some name.toList) :
    Store.pathNames path = namesIn path.toList := by
  have hlast : ((splitChars '/' path.toList).map String.ofList).getLast? = some name := by
    rw [List.getLast?_map, h, Option.map_some, String.ofList_toList]
  unfold Store.pathNames namesIn
  simp only [hlast, Option.some.injEq, hname.1, if_false]

theorem pathNames_of_append {path : String} {before : List Char} {name : String}
    (hname : IsName name) (h : path.toList = before ++ '/' :: name.toList) :
    Store.pathNames path = namesIn before ++ [name] := by
  have hlast : (splitChars '/' path.toList).getLast? = some name.toList := by
    rw [h, splitChars_eq_splitOn, List.splitOn_append_cons_self, ← splitChars_eq_splitOn,
      ← splitChars_eq_splitOn, splitChars_name hname, List.getLast?_concat]
  rw [pathNames_of_getLast? hname hlast, h, namesIn_append, namesIn_name hname]

theorem pathNames_name {name : String} (h : IsName name) : Store.pathNames name = [name] := by
  rw [pathNames_of_getLast? h (by rw [splitChars_name h]; rfl), namesIn_name h]

/-! ## Paths made from names -/

theorem namesIn_intercalate {names : List String} (hnames : ∀ name ∈ names, IsName name) :
    namesIn ("/".intercalate names).toList = names := by
  cases names with
  | nil => decide
  | cons name names =>
    have hpieces := map_splitChars_intercalate '/' (List.cons_ne_nil name names)
      fun name hmem => (hnames name hmem).2
    rw [show String.singleton '/' = "/" from rfl] at hpieces
    rw [namesIn, hpieces, List.filter_eq_self]
    exact fun name hmem => by simpa using (hnames name hmem).1

theorem text_concat (names : List String) (name : String) :
    names = [] ∧ (Path.mk (names ++ [name])).text = name ∨
    (Path.mk (names ++ [name])).text.toList =
      ("/".intercalate names).toList ++ '/' :: name.toList := by
  by_cases hnames : names = []
  · exact .inl ⟨hnames, by simp [Path.text, hnames]⟩
  · refine .inr ?_
    have htext : (Path.mk (names ++ [name])).text = "/".intercalate names ++ "/" ++ name := by
      simp [Path.text, String.intercalate_append_of_ne_nil hnames]
    rw [htext]
    simp

/-- A path made from names leads to its last name, whatever the others are. -/
theorem exists_pathNames_concat (names : List String) {name : String} (hname : IsName name) :
    ∃ before, Store.pathNames (Path.mk (names ++ [name])).text = before ++ [name] := by
  rcases text_concat names name with ⟨-, htext⟩ | htext
  · exact ⟨[], by rw [htext, pathNames_name hname, List.nil_append]⟩
  · exact ⟨_, pathNames_of_append hname htext⟩

theorem pathNames_text {names : List String} (hnames : ∀ name ∈ names, IsName name)
    (hne : names ≠ []) : Store.pathNames (Path.mk names).text = names := by
  obtain ⟨init, name, rfl⟩ : ∃ init name, names = init ++ [name] :=
    ⟨names.dropLast, names.getLast hne, (List.dropLast_concat_getLast hne).symm⟩
  have hname : IsName name := hnames name (List.mem_append_right _ List.mem_cons_self)
  rcases text_concat init name with ⟨rfl, htext⟩ | htext
  · rw [htext, pathNames_name hname, List.nil_append]
  · rw [pathNames_of_append hname htext,
      namesIn_intercalate fun name hmem => hnames name (List.mem_append_left _ hmem)]

theorem text_isEmpty {names : List String} (hnames : ∀ name ∈ names, IsName name) :
    (Path.mk names).text.isEmpty = false := by
  rw [Bool.eq_false_iff, ne_eq, String.isEmpty_iff]
  intro hempty
  cases names with
  | nil => exact absurd hempty (by decide)
  | cons name names =>
    have hpieces := namesIn_intercalate hnames
    have htext : "/".intercalate (name :: names) = "" := hempty
    rw [htext] at hpieces
    exact absurd hpieces (List.cons_ne_nil _ _).symm

end Sitemap
