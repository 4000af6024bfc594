import Mathlib.Data.List.TakeDrop
import Mathlib.Data.List.TakeWhile
import Sitemap.Proofs.Store.Frames

/-!
# Directories that are there, and those that are created

* `namesIn_trimSlashes`, `namesIn_splitPath` : slashes at the end of a path add no names, and its
  two parts have its names between them;
* `isDirectory_iff_namesIn` : a path leads to a directory if the names between its slashes do;
* `isDirectory_splitPath` : what is left of the last slash leads to a directory too;
* `makeDirectories_of_isDirectory` : nothing is created where a directory is;
* `Store.Creates` : the files stay, and only directories that names lead along are new (`refl`,
  `trans`, `mono`); `creates_makeDirectory`, `creates_makeDirectories` : one directory, and all on
  the way to it, also when that fails.
-/

namespace Sitemap

/-! ## Slashes at the end -/

theorem namesIn_append_slashes (cs : List Char) (n : Nat) :
    namesIn (cs ++ List.replicate n '/') = namesIn cs := by
  induction n generalizing cs with
  | zero => rw [List.replicate_zero, List.append_nil]
  | succ n ih =>
    have hnil := ih []
    rw [List.nil_append, namesIn_nil] at hnil
    rw [List.replicate_succ, namesIn_append, hnil, List.append_nil]

/-- A path is what is left of it without the slashes at its end, and these. -/
theorem exists_trimSlashes (cs : List Char) :
    ∃ n, cs = Store.trimSlashes cs ++ List.replicate n '/' := by
  have hslashes : cs.reverse.takeWhile (· = '/') =
      List.replicate (cs.reverse.takeWhile (· = '/')).length '/' := by
    refine List.eq_replicate_iff.2 ⟨rfl, fun c hc => ?_⟩
    simpa using List.mem_takeWhile_imp hc
  have hsplit := congrArg List.reverse
    (List.takeWhile_append_dropWhile (p := fun c => decide (c = '/')) (l := cs.reverse)).symm
  rw [List.reverse_reverse, List.reverse_append, hslashes, List.reverse_replicate] at hsplit
  unfold Store.trimSlashes
  simp only
  split
  · exact ⟨0, by simp⟩
  · exact ⟨_, hsplit⟩

theorem namesIn_trimSlashes (cs : List Char) : namesIn (Store.trimSlashes cs) = namesIn cs := by
  obtain ⟨n, hn⟩ := exists_trimSlashes cs
  have h := namesIn_append_slashes (Store.trimSlashes cs) n
  rw [← hn] at h
  exact h.symm

theorem trimSlashes_eq_nil {cs : List Char} (h : Store.trimSlashes cs = []) : cs = [] := by
  unfold Store.trimSlashes at h
  simp only at h
  split at h
  · exact h
  · rename_i hne
    exact absurd (by rw [h]; rfl) hne

/-- The two parts of a path have its names between them. -/
theorem namesIn_splitPath (path : String) : namesIn path.toList =
    namesIn (Store.splitPath path).1.toList ++ namesIn (Store.splitPath path).2.toList := by
  unfold Store.splitPath
  simp only [String.toList_ofList, namesIn_trimSlashes]
  have hsplit := congrArg List.reverse (List.takeWhile_append_dropWhile
    (p := fun c => decide (c ≠ '/')) (l := path.toList.reverse))
  rw [List.reverse_append, List.reverse_reverse] at hsplit
  have hslash := List.head_dropWhile_not (fun c => decide (c ≠ '/')) (l := path.toList.reverse)
  revert hsplit hslash
  generalize path.toList.reverse.dropWhile (fun c => decide (c ≠ '/')) = head
  generalize path.toList.reverse.takeWhile (fun c => decide (c ≠ '/')) = tail
  intro hsplit hslash
  cases head with
  | nil => rw [← hsplit, List.reverse_nil, List.nil_append, namesIn_nil, List.nil_append]
  | cons c head =>
    have hc : c = '/' := Decidable.of_not_not (of_decide_eq_false (hslash (List.cons_ne_nil _ _)))
    have hbefore : namesIn (c :: head).reverse = namesIn head.reverse := by
      have h := namesIn_append_slashes head.reverse 1
      rwa [hc, List.reverse_cons]
    rw [← hsplit, hbefore, ← namesIn_append, hc, List.reverse_cons, List.append_assoc,
      List.singleton_append]

namespace Store

/-! ## Directories -/

section Directories
variable {s : Store} {path : String} {l : Location}

/-- The names before others that can be followed lead to a directory. -/
theorem directory_of_follow_append {names more : List String}
    (h : s.follow (names ++ more) = .ok l) (hl : s.item? l = some .directory) :
    ∃ at_, s.follow names = .ok at_ ∧ s.item? at_ = some .directory := by
  rw [follow_append, bind_eq_ok] at h
  obtain ⟨at_, hat, hmore⟩ := h
  refine ⟨at_, hat, ?_⟩
  cases more with
  | nil =>
    cases hmore
    exact hl
  | cons name more =>
    rw [List.foldlM_cons, bind_eq_ok] at hmore
    obtain ⟨l', hstep, -⟩ := hmore
    exact (step_eq_ok.1 hstep).1

theorem isDirectory_iff_namesIn : s.isDirectory path = true ↔ path ≠ "" ∧
    ∃ l, s.follow (namesIn path.toList) = .ok l ∧ s.item? l = some .directory := by
  have hpoint : (∃ l, s.follow (namesIn path.toList ++ ["."]) = .ok l ∧
      s.item? l = some .directory) ↔
      ∃ l, s.follow (namesIn path.toList) = .ok l ∧ s.item? l = some .directory := by
    constructor
    · rintro ⟨l, hl, hitem⟩
      exact directory_of_follow_append hl hitem
    · rintro ⟨l, hl, hitem⟩
      exact ⟨l, follow_concat.2 ⟨l, hl, step_eq_ok.2 ⟨hitem, .inl ⟨rfl, rfl⟩⟩⟩, hitem⟩
  have hempty : path.isEmpty = false ↔ path ≠ "" := by
    rw [Bool.eq_false_iff, ne_eq, String.isEmpty_iff]
  simp only [isDirectory_iff, item_eq_ok, locate_eq_ok, and_assoc, exists_and_left, hempty]
  refine and_congr_right fun _ => ?_
  rcases pathNames_eq_or path with hnames | hnames
  · rw [hnames]
  · rw [hnames, hpoint]

theorem isDirectory_trimSlashes (h : s.isDirectory path = true) :
    s.isDirectory (String.ofList (trimSlashes path.toList)) = true := by
  obtain ⟨hne, hfollow⟩ := isDirectory_iff_namesIn.1 h
  refine isDirectory_iff_namesIn.2 ⟨fun hempty => hne ?_, ?_⟩
  · have htrim : trimSlashes path.toList = [] := by
      rw [← String.toList_ofList (l := trimSlashes path.toList), hempty]
      rfl
    exact String.toList_eq_nil_iff.1 (trimSlashes_eq_nil htrim)
  · rwa [String.toList_ofList, namesIn_trimSlashes]

theorem isDirectory_splitPath (h : s.isDirectory path = true) (hhead : (splitPath path).1 ≠ "") :
    s.isDirectory (splitPath path).1 = true := by
  obtain ⟨-, l, hl, hitem⟩ := isDirectory_iff_namesIn.1 h
  rw [namesIn_splitPath] at hl
  exact isDirectory_iff_namesIn.2 ⟨hhead, directory_of_follow_append hl hitem⟩

theorem holds_of_isDirectory (h : s.isDirectory path = true) : s.holds path = true :=
  holds_iff.2 ⟨_, isDirectory_iff.1 h⟩

/-- A directory is not created where one is. -/
theorem makeDirectory_ne_ok (h : s.isDirectory path = true) (t : Store) :
    s.makeDirectory path ≠ .ok t := by
  intro hmade
  obtain ⟨l, hl, hitem⟩ := item_eq_ok.1 (isDirectory_iff.1 (isDirectory_trimSlashes h))
  obtain ⟨-, hfollow⟩ := locate_eq_ok.1 hl
  unfold makeDirectory at hmade
  have hempty : ¬ path.isEmpty = true := by
    rw [String.isEmpty_iff]
    exact (isDirectory_iff_namesIn.1 h).1
  simp only [if_neg hempty, mapError_eq_ok] at hmade
  obtain ⟨parent, hparent, hmade⟩ := bind_eq_ok.1 hmade
  split at hmade
  case h_1 | h_2 | h_3 => cases hmade
  case h_4 name hdirectory hlast =>
    split at hmade
    case isTrue => cases hmade
    case isFalse hpoints =>
      rw [not_or] at hpoints
      -- the names lead to where the directory would be created
      obtain ⟨init, hinit⟩ := List.getLast?_eq_some_iff.1 hlast
      rw [hinit, List.dropLast_concat] at hparent
      rw [hinit] at hfollow
      obtain ⟨at_, hat, hstep⟩ := follow_concat.1 hfollow
      cases hparent.symm.trans hat
      cases (step_name hdirectory hpoints.1 hpoints.2).symm.trans hstep
      rw [hitem] at hmade
      cases hmade

theorem ensureDirectory_of_isDirectory (h : s.isDirectory path = true) :
    s.ensureDirectory path = (s, none) := by
  unfold ensureDirectory
  split
  · rename_i t hmade
    exact absurd hmade (makeDirectory_ne_ok h t)
  · rw [if_pos h]

/-- The directory around a directory is one, also for a path with a slash at its end. -/
theorem isDirectory_splitDirectory (h : s.isDirectory path = true)
    (hne : (splitDirectory path).1 ≠ "") : s.isDirectory (splitDirectory path).1 = true := by
  unfold splitDirectory at hne ⊢
  split at hne
  · rename_i hend
    rw [if_pos hend]
    refine isDirectory_splitPath (isDirectory_splitPath h fun hnil => hne ?_) hne
    rw [hnil]
    rfl
  · rename_i hend
    rw [if_neg hend]
    exact isDirectory_splitPath h hne

theorem makeDirectories_of_isDirectory (h : s.isDirectory path = true) :
    s.makeDirectories path = (s, none) := by
  have hempty : ¬ path.isEmpty = true := by
    rw [String.isEmpty_iff]
    exact (isDirectory_iff_namesIn.1 h).1
  rw [makeDirectories, if_neg hempty, makeDirectoriesUpTo]
  split
  · rename_i hsplit
    rw [if_pos (holds_of_isDirectory (isDirectory_splitDirectory h hsplit.1)),
      ensureDirectory_of_isDirectory h]
  · rw [ensureDirectory_of_isDirectory h]

end Directories

/-! ## Directories that are created -/

/-- The files are the same in two stores, and each directory that is new in the second one is where
some of the first names lead to. -/
structure Creates (names : List String) (s t : Store) : Prop where
  sameFiles : s.SameFiles t
  created : ∀ l, t.item? l = some .directory →
    s.item? l = some .directory ∨ ∃ way, way <+: names ∧ t.follow way = .ok l

section Creates
variable {names more : List String} {s t u : Store} {path : String}

theorem Creates.refl (names : List String) (s : Store) : Creates names s s :=
  ⟨.refl _ s, fun _ h => .inl h⟩

theorem Creates.trans (h : Creates names s t) (h' : Creates names t u) : Creates names s u where
  sameFiles := h.sameFiles.trans h'.sameFiles
  created l hl := by
    rcases h'.created l hl with ht | hnew
    · exact (h.created l ht).imp_right fun ⟨way, hway, hfollow⟩ =>
        ⟨way, hway, h'.sameFiles.follow hfollow⟩
    · exact .inr hnew

theorem Creates.mono (h : Creates names s t) (hnames : names <+: more) : Creates more s t where
  sameFiles := h.sameFiles
  created l hl := (h.created l hl).imp_right fun ⟨way, hway, hfollow⟩ =>
    ⟨way, hway.trans hnames, hfollow⟩

/-- One directory is created where all names of its path lead to. -/
theorem creates_makeDirectory (h : s.makeDirectory path = .ok t) :
    Creates (namesIn path.toList) s t := by
  unfold makeDirectory at h
  rw [mapError_eq_ok] at h
  by_cases hempty : path.isEmpty
  · rw [if_pos hempty] at h
    cases h
  rw [if_neg hempty] at h
  obtain ⟨parent, hparent, h⟩ := bind_eq_ok.1 h
  split at h
  case h_1 | h_2 | h_3 => cases h
  case h_4 name hdirectory hlast =>
    split at h
    case isTrue => cases h
    case isFalse hpoints =>
      rw [not_or] at hpoints
      split at h
      case isTrue => cases h
      case isFalse hfree =>
        cases h
        have hsame := sameFiles_set (Option.not_isSome_iff_eq_none.1 hfree)
        refine ⟨hsame, fun l hl => ?_⟩
        rw [item?_set (List.concat_ne_nil name parent)] at hl
        split at hl
        · subst l
          refine .inr ⟨_, List.prefix_refl _, ?_⟩
          have hnames := pathNames_eq_of_getLast? hlast hpoints.1
          rw [String.toList_ofList, namesIn_trimSlashes] at hnames
          obtain ⟨init, hinit⟩ := List.getLast?_eq_some_iff.1 hlast
          rw [hinit, List.dropLast_concat] at hparent
          rw [← hnames, hinit]
          exact follow_concat.2 ⟨parent, hsame.follow hparent,
            step_name (hsame.directory _ hdirectory) hpoints.1 hpoints.2⟩
        · exact .inl hl

theorem creates_ensureDirectory (s : Store) (path : String) :
    Creates (namesIn path.toList) s (s.ensureDirectory path).1 := by
  unfold ensureDirectory
  split
  · rename_i made hmade
    exact creates_makeDirectory hmade
  · split <;> exact .refl _ _

/-- The names up to the last slash come first, also when slashes at the end are left out before. -/
theorem namesIn_splitDirectory (path : String) :
    namesIn (splitDirectory path).1.toList <+: namesIn path.toList := by
  have hhead : ∀ path, namesIn (splitPath path).1.toList <+: namesIn path.toList :=
    fun path => ⟨_, (namesIn_splitPath path).symm⟩
  unfold splitDirectory
  split
  · exact (hhead _).trans (hhead path)
  · exact hhead path

theorem Creates.makeDirectoryAfter {made : Store × Option FileError}
    (h : Creates (namesIn path.toList) s made.1) :
    Creates (namesIn path.toList) s (makeDirectoryAfter path made).1 := by
  unfold Store.makeDirectoryAfter
  split
  · exact h
  · split
    · exact h
    · exact h.trans (creates_ensureDirectory made.1 path)

/-- Creating directories leaves the files as they are and creates those on the way only, also when
it fails. -/
theorem creates_makeDirectoriesUpTo (s : Store) (path : String) :
    Creates (namesIn path.toList) s (s.makeDirectoriesUpTo path).1 := by
  induction path using makeDirectoriesUpTo.induct s with
  | case1 path hsplit hholds =>
    rw [makeDirectoriesUpTo, if_pos hsplit, if_pos hholds]
    exact creates_ensureDirectory s path
  | case2 path hsplit hholds ih =>
    rw [makeDirectoriesUpTo, if_pos hsplit, if_neg hholds]
    exact (ih.mono (namesIn_splitDirectory path)).makeDirectoryAfter
  | case3 path hsplit =>
    rw [makeDirectoriesUpTo, if_neg hsplit]
    exact creates_ensureDirectory s path

theorem creates_makeDirectories (s : Store) (path : String) :
    Creates (namesIn path.toList) s (s.makeDirectories path).1 := by
  unfold makeDirectories
  split
  · exact .refl _ _
  · exact creates_makeDirectoriesUpTo s path

end Creates

end Store

end Sitemap
