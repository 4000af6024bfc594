import Sitemap.Proofs.Lists
import Sitemap.Proofs.Store.Writing
import Sitemap.SourceFiles

/-!
# Files that paths find

* `Store.filter_sourcesBelow_set` : the sources below a directory but for one location;
* `Store.sourcesOf_eq_ok` : what a path finds;
* `addFound`, `Store.foundFiles` : the files that paths find, each where it is found first;
* `Store.mem_locations_foundFiles` : their locations are those that the paths find;
* `Store.IsTarget.foundFiles_set` : a file that is written leaves those elsewhere alone, in their
  order;
* `Store.FindsFile.locate` : the path of a file that is found leads to its location.
-/

namespace Sitemap

/-! ## Locations below a directory -/

theorem below?_eq_some {root l : Location} {names : List String} :
    below? root l = some names ↔ l = root ++ names ∧ names ≠ [] := by
  unfold below?
  constructor
  · intro h
    split at h
    · rename_i hbelow
      obtain ⟨rest, rfl⟩ := List.isPrefixOf_iff_prefix.1 hbelow.1
      cases h
      refine ⟨by rw [List.drop_left], fun hnil => ?_⟩
      have hlength := hbelow.2
      rw [List.drop_left] at hnil
      rw [hnil, List.append_nil] at hlength
      exact Nat.lt_irrefl _ hlength
    · cases h
  · rintro ⟨rfl, hne⟩
    have hlength := List.length_pos_iff.2 hne
    have hwithin : root.isPrefixOf (root ++ names) = true :=
      List.isPrefixOf_iff_prefix.2 (List.prefix_append _ _)
    rw [if_pos ⟨hwithin, by rw [List.length_append]; omega⟩, List.drop_left]

/-- Locations in the order of their paths. -/
def inPathOrder (found : List Location) : List Location :=
  ((found.map fun names => ("/".intercalate names, names)).mergeSort
    fun a b => !(b.1 < a.1)).map (·.2)

theorem pathOrder_trans (a b c : String × Location) :
    (!decide (b.1 < a.1)) = true → (!decide (c.1 < b.1)) = true → (!decide (c.1 < a.1)) = true := by
  simp only [Bool.not_eq_true', decide_eq_false_iff_not, String.not_lt]
  exact String.le_trans

theorem pathOrder_total (a b : String × Location) :
    (!decide (b.1 < a.1) || !decide (a.1 < b.1)) = true := by
  rw [Bool.or_eq_true, Bool.not_eq_true', Bool.not_eq_true', decide_eq_false_iff_not,
    decide_eq_false_iff_not, String.not_lt, String.not_lt]
  exact String.le_total a.1 b.1

theorem filter_inPathOrder (p : Location → Bool) (found : List Location) :
    (inPathOrder found).filter p = inPathOrder (found.filter p) := by
  unfold inPathOrder
  rw [List.filter_map, filter_mergeSort pathOrder_trans pathOrder_total, List.filter_map]
  rfl

theorem mem_inPathOrder {found : List Location} {names : Location} :
    names ∈ inPathOrder found ↔ names ∈ found := by
  simp [inPathOrder]

namespace Store

theorem sourcesBelow_eq (s : Store) (root : Location) : s.sourcesBelow root =
    inPathOrder ((s.locations.filterMap (below? root)).filter fun names =>
      isSourceName (names.getLastD "") && !names.dropLast.any isSkipped) := by
  rw [locations, List.filterMap_map]
  rfl

/-- The sources elsewhere stay, in their order. -/
theorem filter_sourcesBelow_set (s : Store) (at_ : Location) (i : Item) (root : Location) :
    ((s.set at_ i).sourcesBelow root).filter (fun names => root ++ names ≠ at_) =
      (s.sourcesBelow root).filter fun names => root ++ names ≠ at_ := by
  have hfound : ∀ locations : List Location,
      (locations.filterMap (below? root)).filter (fun names => root ++ names ≠ at_) =
        (locations.filter (· ≠ at_)).filterMap (below? root) := by
    intro locations
    induction locations with
    | nil => rfl
    | cons l rest ih =>
      cases hbelow : below? root l with
      | none =>
        rw [List.filterMap_cons_none hbelow, ih]
        by_cases hl : l = at_
        · rw [List.filter_cons_of_neg (by simp [hl])]
        · rw [List.filter_cons_of_pos (by simp [hl]), List.filterMap_cons_none hbelow]
      | some names =>
        obtain ⟨hnames, -⟩ := below?_eq_some.1 hbelow
        rw [List.filterMap_cons_some hbelow]
        by_cases hl : l = at_
        · rw [List.filter_cons_of_neg (by simp [← hnames, hl]), ih,
            List.filter_cons_of_neg (by simp [hl])]
        · rw [List.filter_cons_of_pos (by simp [← hnames, hl]), ih,
            List.filter_cons_of_pos (by simp [hl]), List.filterMap_cons_some hbelow]
  have hcomm : ∀ (p q : Location → Bool) (found : List Location),
      (found.filter p).filter q = (found.filter q).filter p := by
    intro p q found
    rw [List.filter_filter, List.filter_filter]
    simp only [Bool.and_comm]
  rw [sourcesBelow_eq, sourcesBelow_eq, filter_inPathOrder, filter_inPathOrder, hcomm, hfound,
    hcomm _ _ (List.filterMap _ s.locations), hfound, filter_locations_set]

/-! ## Files that are found -/

end Store

/-- Files that are found behind those that were found before, each location once. -/
def addFound (listed found : List FoundFile) : List FoundFile :=
  found.foldl (fun listed f =>
    if listed.any (·.location == f.location) then listed else listed ++ [f]) listed

section Add
variable {listed found : List FoundFile}

theorem addFound_cons (listed : List FoundFile) (f : FoundFile) (rest : List FoundFile) :
    addFound listed (f :: rest) =
      addFound (if listed.any (·.location == f.location) then listed else listed ++ [f]) rest :=
  rfl

theorem any_location_iff {f : FoundFile} :
    listed.any (·.location == f.location) = true ↔ f.location ∈ listed.map (·.location) := by
  simp only [List.any_eq_true, List.mem_map, beq_iff_eq]

/-- What is taken away from the files that are found is not added. -/
theorem filter_addFound (at_ : Location) (found listed : List FoundFile) :
    (addFound listed found).filter (·.location ≠ at_) =
      addFound (listed.filter (·.location ≠ at_)) (found.filter (·.location ≠ at_)) := by
  induction found generalizing listed with
  | nil => rfl
  | cons f rest ih =>
    rw [addFound_cons, ih]
    by_cases hf : f.location = at_
    · rw [List.filter_cons_of_neg (by simp [hf])]
      split
      · rfl
      · rw [List.filter_append, List.filter_cons_of_neg (by simp [hf]), List.filter_nil,
          List.append_nil]
    · rw [List.filter_cons_of_pos (by simp [hf]), addFound_cons]
      have hany : (listed.filter (·.location ≠ at_)).any (·.location == f.location) =
          listed.any (·.location == f.location) := by
        rw [List.any_filter]
        congr 1
        funext g
        by_cases hg : g.location = f.location <;> simp [hg, hf]
      rw [hany]
      split
      · rfl
      · rw [List.filter_append, List.filter_cons_of_pos (by simp [hf]), List.filter_nil]

theorem prefix_addFound (listed found : List FoundFile) : listed <+: addFound listed found := by
  induction found generalizing listed with
  | nil => exact List.prefix_refl _
  | cons f rest ih =>
    rw [addFound_cons]
    refine List.IsPrefix.trans ?_ (ih _)
    split
    · exact List.prefix_refl _
    · exact List.prefix_append _ _

/-- What is listed was listed before, or is found elsewhere than that. -/
theorem mem_addFound {f : FoundFile} (h : f ∈ addFound listed found) :
    f ∈ listed ∨ f ∈ found ∧ f.location ∉ listed.map (·.location) := by
  induction found generalizing listed with
  | nil => exact .inl h
  | cons g rest ih =>
    rw [addFound_cons] at h
    by_cases hg : listed.any (·.location == g.location) = true
    · rw [if_pos hg] at h
      exact (ih h).imp_right fun hrest => ⟨List.mem_cons_of_mem _ hrest.1, hrest.2⟩
    · rw [if_neg hg] at h
      rcases ih h with hlisted | ⟨hrest, hnew⟩
      · rcases List.mem_append.1 hlisted with hbefore | hadded
        · exact .inl hbefore
        · obtain rfl := List.mem_singleton.1 hadded
          exact .inr ⟨List.mem_cons_self, fun hmem => hg (any_location_iff.2 hmem)⟩
      · rw [List.map_append, List.mem_append, not_or] at hnew
        exact .inr ⟨List.mem_cons_of_mem _ hrest, hnew.1⟩

theorem location_mem_addFound {f : FoundFile} (h : f ∈ found) :
    f.location ∈ (addFound listed found).map (·.location) := by
  induction found generalizing listed with
  | nil => cases h
  | cons g rest ih =>
    rw [addFound_cons]
    rcases List.mem_cons.1 h with rfl | hrest
    · refine ((prefix_addFound _ rest).map _).subset ?_
      split
      · exact any_location_iff.1 ‹_›
      · simp
    · exact ih hrest

end Add

/-- The files that paths find, each where it is found first. -/
def Store.foundFiles (s : Store) (paths : List String) : Except MissingSource (List FoundFile) :=
  paths.foldlM (fun listed text => do return addFound listed (← s.sourcesOf text)) []

namespace Store

/-- A path finds a file. -/
def FindsFile (s : Store) (text : String) (f : FoundFile) : Prop :=
  ∃ found, s.sourcesOf text = .ok found ∧ f ∈ found

section Found
variable {s : Store} {path text : String} {at_ : Location} {paths : List String}
  {found : List FoundFile}

theorem foundFiles_concat : s.foundFiles (paths ++ [text]) = .ok found ↔
    ∃ listed new, s.foundFiles paths = .ok listed ∧ s.sourcesOf text = .ok new ∧
      found = addFound listed new := by
  unfold foundFiles
  rw [List.foldlM_append, bind_eq_ok]
  refine exists_congr fun listed => ?_
  rw [List.foldlM_cons, exists_and_left]
  refine and_congr_right fun _ => ?_
  simp only [List.foldlM_nil, bind_pure, bind_eq_ok]
  exact exists_congr fun new => and_congr_right fun _ => (Except.ok.injEq _ _).to_iff.trans eq_comm

/-- A path that leads to a directory finds the sources below it, one that leads to a file that
file. -/
theorem sourcesOf_eq_ok : s.sourcesOf text = .ok found ↔
    ∃ l, s.follow (Path.ofText text).names = .ok l ∧
      (s.item? l = some .directory ∧
          found = (s.sourcesBelow l).map (FoundFile.mk (Path.ofText text) l) ∨
        (∃ content, s.item? l = some (.file content)) ∧
          found = [⟨(Path.ofText text).parent, l.dropLast, [(Path.ofText text).name]⟩]) := by
  unfold sourcesOf
  simp only
  split
  · rename_i hnone
    refine ⟨nofun, ?_⟩
    rintro ⟨l, hfollow, hcases⟩
    have hsome : s.at? (Path.ofText text) = some l := by
      refine at?_eq_some.2 ⟨hfollow, ?_⟩
      rcases hcases with ⟨hitem, -⟩ | ⟨⟨content, hitem⟩, -⟩
      all_goals rw [hitem]; rfl
    rw [hnone] at hsome
    cases hsome
  · rename_i l hl
    obtain ⟨hfollow, hitem⟩ := at?_eq_some.1 hl
    have hunique : ∀ l', s.follow (Path.ofText text).names = .ok l' ↔ l = l' := fun l' => by
      rw [hfollow, Except.ok.injEq]
    simp only [hunique, exists_eq_left']
    cases hat : s.item? l with
    | none =>
      rw [hat] at hitem
      cases hitem
    | some i =>
      cases i with
      | file content => simp [eq_comm]
      | directory => simp [eq_comm]

theorem root_eq_of_mem_sourcesOf (hfound : s.sourcesOf text = .ok found) {f g : FoundFile}
    (hf : f ∈ found) (hg : g ∈ found) : f.root = g.root := by
  obtain ⟨l, -, ⟨-, rfl⟩ | ⟨-, rfl⟩⟩ := sourcesOf_eq_ok.1 hfound
  · obtain ⟨names, -, rfl⟩ := List.mem_map.1 hf
    obtain ⟨names', -, rfl⟩ := List.mem_map.1 hg
    rfl
  · rw [List.mem_singleton.1 hf, List.mem_singleton.1 hg]

theorem exists_sourcesOf_iff :
    (∃ found, s.sourcesOf text = .ok found) ↔ (s.at? (Path.ofText text)).isSome := by
  simp only [sourcesOf]
  cases hl : s.at? (Path.ofText text) with
  | none => simp
  | some l =>
    simp only [Option.isSome_some, iff_true]
    split
    · exact ⟨_, rfl⟩
    · exact ⟨_, rfl⟩

theorem exists_foundFiles_iff : (∃ found, s.foundFiles paths = .ok found) ↔
    ∀ text ∈ paths, (s.at? (Path.ofText text)).isSome := by
  induction paths using List.reverseRecOn with
  | nil => exact iff_of_true ⟨[], rfl⟩ nofun
  | append_singleton paths text ih =>
    rw [List.forall_mem_append, List.forall_mem_singleton, ← ih, ← exists_sourcesOf_iff]
    simp only [foundFiles_concat]
    constructor
    · rintro ⟨_, listed, new, hlisted, hnew, -⟩
      exact ⟨⟨listed, hlisted⟩, new, hnew⟩
    · rintro ⟨⟨listed, hlisted⟩, new, hnew⟩
      exact ⟨_, listed, new, hlisted, hnew, rfl⟩

theorem foundFiles_invariant {P : List FoundFile → Prop} (hnil : P [])
    (hadd : ∀ listed text new, P listed → s.sourcesOf text = .ok new → P (addFound listed new))
    (hfound : s.foundFiles paths = .ok found) : P found := by
  refine foldlM_invariant (fun text _ listed next hlisted hnext => ?_) hnil hfound
  obtain ⟨new, hnew, hnext⟩ := bind_eq_ok.1 hnext
  cases hnext
  exact hadd listed text new hlisted hnew

theorem exists_findsFile (hfound : s.foundFiles paths = .ok found) :
    ∀ f ∈ found, ∃ text ∈ paths, s.FindsFile text f := by
  induction paths using List.reverseRecOn generalizing found with
  | nil =>
    cases hfound
    exact nofun
  | append_singleton paths text ih =>
    obtain ⟨listed, new, hlisted, hnew, rfl⟩ := foundFiles_concat.1 hfound
    intro f hf
    rcases mem_addFound hf with hbefore | ⟨hadded, -⟩
    · obtain ⟨earlier, hmem, hfinds⟩ := ih hlisted f hbefore
      exact ⟨earlier, List.mem_append_left _ hmem, hfinds⟩
    · exact ⟨text, by simp, new, hnew, hadded⟩

/-- The locations are those that the paths find. -/
theorem mem_locations_foundFiles (hfound : s.foundFiles paths = .ok found) {l : Location} :
    l ∈ found.map (·.location) ↔ ∃ text ∈ paths, ∃ f, s.FindsFile text f ∧ f.location = l := by
  constructor
  · rintro hl
    obtain ⟨f, hf, rfl⟩ := List.mem_map.1 hl
    obtain ⟨text, hmem, hfinds⟩ := exists_findsFile hfound f hf
    exact ⟨text, hmem, f, hfinds, rfl⟩
  · rintro ⟨text, hmem, f, ⟨new, hnew, hf⟩, rfl⟩
    induction paths using List.reverseRecOn generalizing found with
    | nil => cases hmem
    | append_singleton paths last ih =>
      obtain ⟨listed, new', hlisted, hnew', rfl⟩ := foundFiles_concat.1 hfound
      rcases List.mem_append.1 hmem with hbefore | hlast
      · exact ((prefix_addFound listed new').map _).subset (ih hlisted hbefore)
      · obtain rfl := List.mem_singleton.1 hlast
        cases hnew.symm.trans hnew'
        exact location_mem_addFound hf

theorem prefix_foundFiles {more : List String} {all : List FoundFile}
    (hfound : s.foundFiles paths = .ok found) (hall : s.foundFiles (paths ++ more) = .ok all) :
    found <+: all := by
  induction more using List.reverseRecOn generalizing all with
  | nil =>
    rw [List.append_nil] at hall
    cases hfound.symm.trans hall
    exact List.prefix_refl _
  | append_singleton more text ih =>
    rw [← List.append_assoc] at hall
    obtain ⟨listed, new, hlisted, -, rfl⟩ := foundFiles_concat.1 hall
    exact (ih hlisted).trans (prefix_addFound listed new)

/-- The files of a path, found anew after a file was written. -/
theorem IsTarget.sourcesOf_set (h : s.IsTarget path at_) (content : List UInt8)
    (hs : s.sourcesOf text = .ok found) :
    ∃ found', (s.set at_ (.file content)).sourcesOf text = .ok found' ∧
      found'.filter (·.location ≠ at_) = found.filter (·.location ≠ at_) := by
  obtain ⟨l, hfollow, ⟨hitem, rfl⟩ | ⟨⟨old, hitem⟩, rfl⟩⟩ := sourcesOf_eq_ok.1 hs
  · refine ⟨_, sourcesOf_eq_ok.2 ⟨l, (h.follow_set content _).2 hfollow,
      .inl ⟨(h.directory_set content).2 hitem, rfl⟩⟩, ?_⟩
    rw [List.filter_map, List.filter_map]
    exact congrArg _ (filter_sourcesBelow_set s at_ _ l)
  · have hfile : ∃ c, (s.set at_ (.file content)).item? l = some (.file c) := by
      rw [item?_set h.ne_nil]
      split
      · exact ⟨content, rfl⟩
      · exact ⟨old, hitem⟩
    exact ⟨_, sourcesOf_eq_ok.2 ⟨l, (h.follow_set content _).2 hfollow, .inr ⟨hfile, rfl⟩⟩, rfl⟩

/-- The files of all paths, found anew after a file was written. -/
theorem IsTarget.foundFiles_set (h : s.IsTarget path at_) (content : List UInt8)
    (hs : s.foundFiles paths = .ok found) :
    ∃ found', (s.set at_ (.file content)).foundFiles paths = .ok found' ∧
      found'.filter (·.location ≠ at_) = found.filter (·.location ≠ at_) := by
  induction paths using List.reverseRecOn generalizing found with
  | nil =>
    cases hs
    exact ⟨[], rfl, rfl⟩
  | append_singleton paths text ih =>
    obtain ⟨listed, new, hlisted, hnew, rfl⟩ := foundFiles_concat.1 hs
    obtain ⟨listed', hlisted', hsame⟩ := ih hlisted
    obtain ⟨new', hnew', hsame'⟩ := h.sourcesOf_set content hnew
    refine ⟨_, foundFiles_concat.2 ⟨listed', new', hlisted', hnew', rfl⟩, ?_⟩
    rw [filter_addFound, filter_addFound, hsame, hsame']

/-- Names that lead to a file end with its name. -/
theorem follow_eq_concat {l : Location} {content : List UInt8}
    (hfollow : s.follow (Path.ofText text).names = .ok l) (hitem : s.item? l = some (.file content)) :
    (Path.ofText text).parent.names ++ [(Path.ofText text).name] = (Path.ofText text).names ∧
      l.dropLast ++ [(Path.ofText text).name] = l := by
  have hpoints : "." ∉ (Path.ofText text).names := by simp [Path.ofText_names]
  unfold Path.parent Path.name
  generalize (Path.ofText text).names = names at hfollow hpoints
  cases names using List.reverseRecOn with
  | nil =>
    -- the working directory is no file
    cases hfollow
    cases hitem
  | append_singleton init name =>
    rw [List.dropLast_concat, List.getLastD_concat]
    refine ⟨rfl, ?_⟩
    obtain ⟨at_, hat, hstep⟩ := follow_concat.1 hfollow
    obtain ⟨-, ⟨rfl, -⟩ | ⟨-, hne, rfl⟩ | ⟨-, -, rfl⟩⟩ := step_eq_ok.1 hstep
    · simp at hpoints
    · have hdirectory := directory_of_follow hat _
        (Nat.sub_lt (List.length_pos_iff.2 hne) Nat.one_pos)
      rw [← List.dropLast_eq_take, hitem] at hdirectory
      cases hdirectory
    · rw [List.dropLast_concat]

/-- The path of a file that is found leads to it unless it is a directory. -/
theorem FindsFile.locate {f : FoundFile} (h : s.FindsFile text f)
    (hnames : ∀ name ∈ f.location, IsName name ∧ name ≠ "." ∧ name ≠ "..")
    (hway : ∀ n < f.location.length, s.item? (f.location.take n) = some .directory)
    (hfile : s.item? f.location ≠ some .directory) :
    s.locate f.path.text = .ok f.location := by
  obtain ⟨found, hfound, hmem⟩ := h
  have hroot : ∀ name ∈ (Path.ofText text).names, IsName name := by
    intro name hname
    rw [Path.ofText_names] at hname
    exact isName_of_mem_namesIn (List.mem_filter.1 hname).1
  obtain ⟨l, hfollow, ⟨hitem, rfl⟩ | ⟨⟨content, hitem⟩, rfl⟩⟩ := sourcesOf_eq_ok.1 hfound
  · obtain ⟨names, -, rfl⟩ := List.mem_map.1 hmem
    simp only [FoundFile.location, FoundFile.path, Path.join] at hnames hway hfile ⊢
    have hne : names ≠ [] := by
      rintro rfl
      rw [List.append_nil] at hfile
      exact hfile hitem
    have hbelow : ∀ name ∈ names, IsName name ∧ name ≠ "." ∧ name ≠ ".." := fun name hname =>
      hnames name (List.mem_append_right l hname)
    refine (locate_text ?_ (List.append_ne_nil_of_right_ne_nil _ hne)).2 ?_
    · exact List.forall_mem_append.2 ⟨hroot, fun name hname => (hbelow name hname).1⟩
    · rw [follow_append, hfollow]
      refine foldlM_step (fun name hname => (hbelow name hname).2) fun n hn => ?_
      have hdirectory := hway (l.length + n) (by rw [List.length_append]; omega)
      rwa [List.take_length_add_append] at hdirectory
  · obtain ⟨hpath, hl⟩ := follow_eq_concat hfollow hitem
    cases List.mem_singleton.1 hmem
    simp only [FoundFile.location, FoundFile.path, Path.join, hpath, hl]
    exact (locate_text hroot (hpath ▸ List.concat_ne_nil _ _)).2 hfollow

end Found

end Store

end Sitemap
