import Sitemap.Proofs.Scan.Trees

/-!
# Which files are listed, and in which order

* `Store.Reaches` : a file that a given path leads to, or that is a source below the directory that
  it leads to;
* `Store.ListedBefore` : the order of locations, by the first path that reaches one of them and then
  by the names that lead there;
* `Store.Lists` : a list of all files that paths reach, each once and in this order;
* `mem_locations_sourcesOf`, `pairwise_sourcesOf` : the sources of one path are what it reaches, in
  order;
* `addFound_eq` : what is added of them when others are found already;
* `sourceFiles_lists` : in a tree without directories that have names of sources
  (`NoSourceDirectory`) the source files of paths are such a list, and stay it when paths are added
  that reach nothing else, such as those that lead into one of the paths (`LeadsInto`).
-/

namespace Sitemap

/-! ## What a path reaches -/

/-- The name of a directory that is searched: it is not hidden and not that of compiled modules. -/
def IsSearched (name : String) : Prop := name.toList.head? ≠ some '.' ∧ name ≠ "__pycache__"

instance (name : String) : Decidable (IsSearched name) := by unfold IsSearched; infer_instance

theorem isSkipped_eq_false {name : String} : isSkipped name = false ↔ IsSearched name := by
  simp [isSkipped, IsSearched]

namespace Store

/-- No directory has a name that ends as those of sources do. -/
def NoSourceDirectory (s : Store) : Prop :=
  ∀ l name, s.item? (l ++ [name]) = some .directory → ¬ ".py".toList <:+ name.toList

/-- A path reaches a file: it leads to the file itself, or to a directory around it, and the name of
the file ends as those of sources do and all directories in between are searched. -/
inductive Reaches (s : Store) (text : String) : Location → Prop
  | itself {l : Location} {content : List UInt8} :
      s.at? (Path.ofText text) = some l → s.item? l = some (.file content) → Reaches s text l
  | below {root inner : Location} {name : String} {content : List UInt8} :
      s.at? (Path.ofText text) = some root → s.item? root = some .directory →
      (∀ outer ∈ inner, IsSearched outer) → ".py".toList <:+ name.toList →
      s.item? (root ++ (inner ++ [name])) = some (.file content) →
      Reaches s text (root ++ (inner ++ [name]))

/-- The names that lead from the directory of a path to a location come before those to another, as
texts. -/
def PrecedesBelow (s : Store) (text : String) (l l' : Location) : Prop :=
  ∃ root names names', s.at? (Path.ofText text) = some root ∧ l = root ++ names ∧
    l' = root ++ names' ∧ "/".intercalate names < "/".intercalate names'

/-- A location is listed before another: the first path that reaches one of them reaches it, and if
that path reaches both, its directory has it before the other. -/
def ListedBefore (s : Store) (paths : List String) (l l' : Location) : Prop :=
  ∃ before text after, paths = before ++ text :: after ∧
    (∀ earlier ∈ before, ¬ s.Reaches earlier l ∧ ¬ s.Reaches earlier l') ∧ s.Reaches text l ∧
    (s.Reaches text l' → s.PrecedesBelow text l l')

/-- A list of the files that paths reach: each is there once, its path leads to it, and they are in
order. -/
structure Lists (s : Store) (paths : List String) (files : List SourceFile) : Prop where
  nodup : (files.map (·.location)).Nodup
  locate : ∀ f ∈ files, s.locate f.path.text = .ok f.location
  mem_iff : ∀ l, l ∈ files.map (·.location) ↔ ∃ text ∈ paths, s.Reaches text l
  ordered : (files.map (·.location)).Pairwise (s.ListedBefore paths)

theorem Reaches.exists_content {s : Store} {text : String} {l : Location}
    (h : s.Reaches text l) : ∃ content, s.item? l = some (.file content) := by
  cases h with
  | itself _ hfile => exact ⟨_, hfile⟩
  | below _ _ _ _ hfile => exact ⟨_, hfile⟩

/-- A path leads to where another one does, or further down to a directory, through directories that
are searched. -/
def LeadsInto (s : Store) (text text' : String) : Prop :=
  ∃ root inner, s.at? (Path.ofText text) = some root ∧
    s.at? (Path.ofText text') = some (root ++ inner) ∧ (∀ name ∈ inner, IsSearched name) ∧
    (inner = [] ∨ s.item? (root ++ inner) = some .directory)

/-! ## The sources of one path -/

section Sources
variable {s : Store} {text : String} {found : List FoundFile}

theorem mem_sourcesBelow {root names : Location} : names ∈ s.sourcesBelow root ↔
    ∃ inner name, names = inner ++ [name] ∧ root ++ names ∈ s.locations ∧
      (∀ outer ∈ inner, IsSearched outer) ∧ ".py".toList <:+ name.toList := by
  rw [sourcesBelow_eq, mem_inPathOrder, List.mem_filter, List.mem_filterMap]
  simp only [below?_eq_some, Bool.and_eq_true, Bool.not_eq_true', List.any_eq_false,
    Bool.not_eq_true, isSkipped_eq_false, isSourceName, List.isSuffixOf_iff_suffix]
  constructor
  · rintro ⟨⟨l, hl, rfl, hne⟩, hname, hinner⟩
    obtain ⟨inner, name, rfl⟩ : ∃ inner name, names = inner ++ [name] :=
      ⟨names.dropLast, names.getLast hne, (List.dropLast_concat_getLast hne).symm⟩
    rw [List.getLastD_concat] at hname
    rw [List.dropLast_concat] at hinner
    exact ⟨inner, name, rfl, hl, hinner, hname⟩
  · rintro ⟨inner, name, rfl, hl, hinner, hname⟩
    refine ⟨⟨_, hl, rfl, List.concat_ne_nil _ _⟩, ?_, ?_⟩
    · rwa [List.getLastD_concat]
    · rwa [List.dropLast_concat]

/-- The sources of a path are the files that it reaches, if no directory has the name of a
source. -/
theorem mem_locations_sourcesOf (hdirectory : s.NoSourceDirectory)
    (hfound : s.sourcesOf text = .ok found) {l : Location} :
    l ∈ found.map (·.location) ↔ s.Reaches text l := by
  obtain ⟨root, hfollow, ⟨hitem, rfl⟩ | ⟨⟨content, hitem⟩, rfl⟩⟩ := sourcesOf_eq_ok.1 hfound
  all_goals
    have hroot : s.at? (Path.ofText text) = some root :=
      at?_eq_some.2 ⟨hfollow, Option.isSome_of_eq_some hitem⟩
  · simp only [List.map_map, List.mem_map, Function.comp_apply, FoundFile.location,
      mem_sourcesBelow]
    constructor
    · rintro ⟨_, ⟨inner, name, rfl, hl, hinner, hname⟩, rfl⟩
      have hsome := (isSome_item?_iff (by simp)).2 hl
      obtain ⟨i, hi⟩ := Option.isSome_iff_exists.1 hsome
      cases i with
      | file content => exact .below hroot hitem hinner hname hi
      | directory =>
        rw [← List.append_assoc] at hi
        exact absurd hname (hdirectory _ _ hi)
    · intro hreaches
      cases hreaches with
      | itself hat hfile =>
        cases hroot.symm.trans hat
        rw [hitem] at hfile
        cases hfile
      | @below root' inner name content hat _ hinner hname hfile =>
        cases hroot.symm.trans hat
        have hl := (isSome_item?_iff (by simp)).1 (Option.isSome_of_eq_some hfile)
        exact ⟨_, ⟨inner, name, rfl, hl, hinner, hname⟩, rfl⟩
  · have hlast := (follow_eq_concat hfollow hitem).2
    simp only [List.map_singleton, List.mem_singleton, FoundFile.location, hlast]
    constructor
    · rintro rfl
      exact .itself hroot hitem
    · intro hreaches
      cases hreaches with
      | itself hat _ => exact Option.some.inj (hat.symm.trans hroot)
      | below hat hother _ _ _ =>
        cases hroot.symm.trans hat
        rw [hitem] at hother
        cases hother

/-- The sources below a directory are in the order of the texts of their names, each once. -/
theorem pairwise_sourcesBelow (h : s.IsTree) (root : Location) :
    (s.sourcesBelow root).Pairwise fun names names' =>
      "/".intercalate names < "/".intercalate names' := by
  have hnames : ∀ names ∈ s.sourcesBelow root, ∀ name ∈ names, IsName name := by
    intro names hmem
    obtain ⟨-, -, -, hl, -⟩ := mem_sourcesBelow.1 hmem
    exact fun name hname => (h.name _ hl name (List.mem_append_right _ hname)).1
  have hnodup : (s.sourcesBelow root).Nodup := by
    rw [sourcesBelow_eq]
    exact (inPathOrder_perm _).nodup_iff.2 ((h.nodup_below root).filter _)
  have hordered : (s.sourcesBelow root).Pairwise fun names names' =>
      "/".intercalate names ≤ "/".intercalate names' := by
    rw [sourcesBelow_eq]
    exact pairwise_inPathOrder _
  refine (hordered.and hnodup).imp_of_mem fun {names names'} hmem hmem' hboth => ?_
  refine String.not_le.1 fun hle => hboth.2 ?_
  exact eq_of_intercalate_eq (hnames _ hmem) (hnames _ hmem') (String.le_antisymm hboth.1 hle)

theorem pairwise_sourcesOf (h : s.IsTree) (hfound : s.sourcesOf text = .ok found) :
    (found.map (·.location)).Pairwise (s.PrecedesBelow text) := by
  obtain ⟨root, hfollow, ⟨hitem, rfl⟩ | ⟨-, rfl⟩⟩ := sourcesOf_eq_ok.1 hfound
  · have hroot : s.at? (Path.ofText text) = some root :=
      at?_eq_some.2 ⟨hfollow, Option.isSome_of_eq_some hitem⟩
    rw [List.map_map, List.pairwise_map]
    exact (pairwise_sourcesBelow h root).imp fun hlt => ⟨root, _, _, hroot, rfl, rfl, hlt⟩
  · exact List.pairwise_singleton _ _

theorem nodup_sourcesOf (h : s.IsTree) (hfound : s.sourcesOf text = .ok found) :
    (found.map (·.location)).Nodup := by
  refine (pairwise_sourcesOf h hfound).imp ?_
  rintro l _ ⟨root, names, names', -, hl, hl', hlt⟩ rfl
  rw [List.append_cancel_left (hl.symm.trans hl')] at hlt
  exact String.lt_irrefl _ hlt

end Sources

end Store

/-! ## Listing what is not listed yet -/

section Add
variable {listed found : List FoundFile}

/-- Of files at different locations those are added that are not listed yet. -/
theorem addFound_eq (h : (found.map (·.location)).Nodup) : addFound listed found =
    listed ++ found.filter fun f => !listed.any (·.location == f.location) := by
  induction found generalizing listed with
  | nil => simp [addFound]
  | cons f rest ih =>
    obtain ⟨hf, hrest⟩ := List.nodup_cons.1 h
    rw [addFound_cons, ih hrest]
    by_cases hlisted : listed.any (·.location == f.location) = true
    · rw [if_pos hlisted, List.filter_cons_of_neg (by simp [hlisted])]
    · rw [if_neg hlisted, List.filter_cons_of_pos (by simp [hlisted]), List.append_assoc,
        List.singleton_append]
      -- the rest is elsewhere, so it does not matter that this one is listed now
      have hsame : ∀ g ∈ rest, (!(listed ++ [f]).any (·.location == g.location)) =
          !listed.any (·.location == g.location) := by
        intro g hg
        have hne : f.location ≠ g.location := fun heq =>
          hf (List.mem_map.2 ⟨g, hg, heq.symm⟩)
        simp [hne]
      rw [List.filter_congr hsame]

theorem addFound_eq_self (h : ∀ f ∈ found, f.location ∈ listed.map (·.location)) :
    addFound listed found = listed := by
  induction found with
  | nil => rfl
  | cons f rest ih =>
    rw [List.forall_mem_cons] at h
    rw [addFound_cons, if_pos (any_location_iff.2 h.1)]
    exact ih h.2

end Add

/-! ## Listing the sources of paths -/

namespace Store

section Paths
variable {s : Store} {paths more : List String} {text : String} {files : List SourceFile}
  {listed found : List FoundFile}

theorem ListedBefore.append {l l' : Location} (h : s.ListedBefore paths l l')
    (more : List String) : s.ListedBefore (paths ++ more) l l' := by
  obtain ⟨before, text, after, rfl, hrest⟩ := h
  exact ⟨before, text, after ++ more, by simp, hrest⟩

/-- What is reached comes before what is not. -/
theorem listedBefore_of_reaches {l l' : Location} (h : ∃ text ∈ paths, s.Reaches text l)
    (h' : ¬ ∃ text ∈ paths, s.Reaches text l') : s.ListedBefore paths l l' := by
  classical
  have hfirst : (paths.find? fun text => s.Reaches text l).isSome := by
    simpa [List.find?_isSome] using h
  obtain ⟨text, hfind⟩ := Option.isSome_iff_exists.1 hfirst
  obtain ⟨htext, before, after, rfl, hbefore⟩ := List.find?_eq_some_iff_append.1 hfind
  have hother : ∀ other ∈ before ++ text :: after, ¬ s.Reaches other l' :=
    fun other hmem hreaches => h' ⟨other, hmem, hreaches⟩
  refine ⟨before, text, after, rfl, fun earlier hmem => ⟨?_, ?_⟩, ?_, fun hreaches => ?_⟩
  · simpa using hbefore earlier hmem
  · exact hother earlier (List.mem_append_left _ hmem)
  · simpa using htext
  · exact absurd hreaches (hother text (by simp))

section Tree
variable (h : s.IsTree) (hdirectory : s.NoSourceDirectory)
include h hdirectory

/-- One more path: what it reaches and is not listed yet is added behind. -/
theorem mem_and_ordered_addFound
    (hmem : ∀ l, l ∈ listed.map (·.location) ↔ ∃ text ∈ paths, s.Reaches text l)
    (hordered : (listed.map (·.location)).Pairwise (s.ListedBefore paths))
    (hfound : s.sourcesOf text = .ok found) :
    (∀ l, l ∈ (addFound listed found).map (·.location) ↔
      ∃ other ∈ paths ++ [text], s.Reaches other l) ∧
    ((addFound listed found).map (·.location)).Pairwise (s.ListedBefore (paths ++ [text])) := by
  have hreaches {l : Location} := mem_locations_sourcesOf (l := l) hdirectory hfound
  have hnew : ∀ l, l ∈ (found.filter fun f => !listed.any (·.location == f.location)).map
      (·.location) ↔ s.Reaches text l ∧ ¬ ∃ text ∈ paths, s.Reaches text l := by
    intro l
    rw [← hreaches, ← hmem]
    simp only [List.mem_map, List.mem_filter, Bool.not_eq_true', Bool.eq_false_iff, ne_eq,
      any_location_iff]
    constructor
    · rintro ⟨f, ⟨hf, hnot⟩, rfl⟩
      exact ⟨⟨f, hf, rfl⟩, hnot⟩
    · rintro ⟨⟨f, hf, rfl⟩, hnot⟩
      exact ⟨f, ⟨hf, hnot⟩, rfl⟩
  rw [addFound_eq (nodup_sourcesOf h hfound), List.map_append]
  constructor
  · intro l
    rw [List.mem_append, hnew, hmem]
    simp only [List.mem_append, List.mem_singleton, or_and_right, exists_or, exists_eq_left]
    by_cases hpaths : ∃ text ∈ paths, s.Reaches text l
    · simp [hpaths]
    · simp [hpaths]
  · refine List.pairwise_append.2 ⟨hordered.imp fun hbefore => hbefore.append _, ?_, ?_⟩
    · -- no earlier path reaches what is added
      have hsub := (List.filter_sublist (p := fun f => !listed.any (·.location == f.location))
        (l := found)).map (·.location)
      refine ((pairwise_sourcesOf h hfound).sublist hsub).imp_of_mem fun {l l'} hl hl' hlt => ?_
      obtain ⟨hl, hnot⟩ := (hnew l).1 hl
      obtain ⟨-, hnot'⟩ := (hnew l').1 hl'
      refine ⟨paths, text, [], rfl, fun earlier hmem => ⟨?_, ?_⟩, hl, fun _ => hlt⟩
      · exact fun hearlier => hnot ⟨earlier, hmem, hearlier⟩
      · exact fun hearlier => hnot' ⟨earlier, hmem, hearlier⟩
    · intro l hl l' hl'
      exact (listedBefore_of_reaches ((hmem l).1 hl) ((hnew l').1 hl').2).append _

theorem mem_and_ordered_foundFiles (hfound : s.foundFiles paths = .ok found) :
    (∀ l, l ∈ found.map (·.location) ↔ ∃ text ∈ paths, s.Reaches text l) ∧
      (found.map (·.location)).Pairwise (s.ListedBefore paths) := by
  induction paths using List.reverseRecOn generalizing found with
  | nil =>
    cases hfound
    simp
  | append_singleton paths text ih =>
    obtain ⟨listed, new, hlisted, hnew, rfl⟩ := foundFiles_concat.1 hfound
    obtain ⟨hmem, hordered⟩ := ih hlisted
    exact mem_and_ordered_addFound h hdirectory hmem hordered hnew

theorem lists_of_sourceFiles (hfiles : s.sourceFiles paths = .ok files) : s.Lists paths files := by
  obtain ⟨found, hfound, hnamed⟩ := sourceFiles_eq_ok.1 hfiles
  have hboth := mem_and_ordered_foundFiles h hdirectory hfound
  rw [← hnamed.map_location] at hboth
  refine ⟨nodup_sourceFiles hfiles, fun f hf => ?_, hboth.1, hboth.2⟩
  -- what is listed is a file, so it is there and no directory
  obtain ⟨text, -, hreaches⟩ := (hboth.1 f.location).1 (List.mem_map.2 ⟨f, hf, rfl⟩)
  obtain ⟨content, hfile⟩ := hreaches.exists_content
  have hsome := Option.isSome_of_eq_some hfile
  refine locate_of_mem_sourceFiles hfiles hf (h.name_of_item? hsome) (h.directory_take hsome) ?_
  rw [hfile]
  exact nofun

/-- Paths that reach nothing new find nothing more. -/
theorem foundFiles_append_of_reaches (hfound : s.foundFiles paths = .ok found)
    (hexists : ∀ text ∈ more, (s.at? (Path.ofText text)).isSome)
    (hmore : ∀ text ∈ more, ∀ l, s.Reaches text l → ∃ text ∈ paths, s.Reaches text l) :
    s.foundFiles (paths ++ more) = .ok found := by
  have hmem := (mem_and_ordered_foundFiles h hdirectory hfound).1
  induction more using List.reverseRecOn with
  | nil => rwa [List.append_nil]
  | append_singleton more text ih =>
    rw [List.forall_mem_append, List.forall_mem_singleton] at hexists hmore
    obtain ⟨new, hnew⟩ := exists_sourcesOf_iff.2 hexists.2
    have hlisted : ∀ f ∈ new, f.location ∈ found.map (·.location) := fun f hf =>
      (hmem _).2 (hmore.2 _ ((mem_locations_sourcesOf hdirectory hnew).1
        (List.mem_map.2 ⟨f, hf, rfl⟩)))
    rw [← List.append_assoc]
    exact foundFiles_concat.2
      ⟨found, new, ih hexists.1 hmore.1, hnew, (addFound_eq_self hlisted).symm⟩

theorem sourceFiles_append_of_reaches (hfiles : s.sourceFiles paths = .ok files)
    (hexists : ∀ text ∈ more, (s.at? (Path.ofText text)).isSome)
    (hmore : ∀ text ∈ more, ∀ l, s.Reaches text l → ∃ text ∈ paths, s.Reaches text l) :
    s.sourceFiles (paths ++ more) = .ok files := by
  obtain ⟨found, hfound, hnamed⟩ := sourceFiles_eq_ok.1 hfiles
  exact sourceFiles_eq_ok.2
    ⟨found, foundFiles_append_of_reaches h hdirectory hfound hexists hmore, hnamed⟩

omit hdirectory in
/-- What a path reaches is reached from where it leads into as well. -/
theorem LeadsInto.reaches {text' : String} {l : Location} (hinto : s.LeadsInto text text')
    (hreaches : s.Reaches text' l) : s.Reaches text l := by
  obtain ⟨root, inner, hroot, hat, hinner, hplace⟩ := hinto
  cases hreaches with
  | itself hat' hfile =>
    cases hat.symm.trans hat'
    rcases hplace with rfl | hplace
    · rw [List.append_nil] at hfile ⊢
      exact .itself hroot hfile
    · rw [hfile] at hplace
      cases hplace
  | @below root' inner' name content hat' _ hinner' hname hfile =>
    cases hat.symm.trans hat'
    have hlocation :
        root ++ inner ++ (inner' ++ [name]) = root ++ ((inner ++ inner') ++ [name]) := by
      simp only [List.append_assoc]
    rw [hlocation] at hfile ⊢
    refine .below hroot ?_ (List.forall_mem_append.2 ⟨hinner, hinner'⟩) hname hfile
    have hlength : root.length < (root ++ (inner ++ inner' ++ [name])).length := by
      simp only [List.length_append, List.length_singleton]
      omega
    have hdirectory := h.directory_take (Option.isSome_of_eq_some hfile) _ hlength
    rwa [List.take_left] at hdirectory

/-- In a tree without directories that have names of sources, paths that lead to something have
source files unless their listing never ends, which takes a working directory that is a package: a
list of the files that they reach, each once, in the order of the first path that reaches them and
then of the names from there. The list stays the same when paths are added that reach nothing else,
such as those that lead to where one of the paths does, or further down from there. -/
theorem sourceFiles_lists (hexists : ∀ text ∈ paths, (s.at? (Path.ofText text)).isSome) :
    (s.Endless paths → s.isPackage [] = true ∧ s.sourceFiles paths = .error .endless) ∧
    (¬ s.Endless paths → ∃ files, s.sourceFiles paths = .ok files ∧ s.Lists paths files ∧
      (∀ more, (∀ text ∈ more, (s.at? (Path.ofText text)).isSome) →
        (∀ text ∈ more, ∀ l, s.Reaches text l → ∃ text ∈ paths, s.Reaches text l) →
          s.sourceFiles (paths ++ more) = .ok files) ∧
      ∀ more, (∀ text' ∈ more, ∃ text ∈ paths, s.LeadsInto text text') →
        s.sourceFiles (paths ++ more) = .ok files) := by
  refine ⟨fun hendless => ⟨hendless.isPackage, sourceFiles_eq_endless.2 hendless⟩, fun hends => ?_⟩
  obtain ⟨files, hfiles⟩ := exists_sourceFiles hexists hends
  have hmore : ∀ more, (∀ text ∈ more, (s.at? (Path.ofText text)).isSome) →
      (∀ text ∈ more, ∀ l, s.Reaches text l → ∃ text ∈ paths, s.Reaches text l) →
        s.sourceFiles (paths ++ more) = .ok files :=
    fun _ => sourceFiles_append_of_reaches h hdirectory hfiles
  refine ⟨files, hfiles, lists_of_sourceFiles h hdirectory hfiles, hmore, fun more hinto => ?_⟩
  refine hmore more (fun text' hmem => ?_) fun text' hmem l hreaches => ?_
  · obtain ⟨-, -, root, inner, -, hat, -⟩ := hinto text' hmem
    exact Option.isSome_of_eq_some hat
  · obtain ⟨text, htext, hleads⟩ := hinto text' hmem
    exact ⟨text, htext, hleads.reaches h hreaches⟩

end Tree

end Paths

end Store

def nestedPages : Store where
  items := [(["app"], .directory), (["app", "b.py"], .file []), (["app", "a.py"], .file []),
    (["app", ".old"], .directory), (["app", ".old", "c.py"], .file []),
    (["app", "sub"], .directory), (["app", "sub", "d.py"], .file [])]

theorem isTree_nestedPages : nestedPages.IsTree :=
  ⟨by decide, by decide, by decide⟩

theorem noSourceDirectory_of_items {s : Store}
    (h : ∀ p ∈ s.items, p.2 = .directory → ¬ ".py".toList <:+ (p.1.getLastD "").toList) :
    s.NoSourceDirectory := by
  intro l name hitem
  rw [Store.item?, if_neg (List.concat_ne_nil _ _), List.lookup_eq_some_iff] at hitem
  obtain ⟨before, after, hsplit, -⟩ := hitem
  have hname := h (l ++ [name], .directory) (by rw [hsplit]; simp) rfl
  rwa [List.getLastD_concat] at hname

theorem noSourceDirectory_nestedPages : nestedPages.NoSourceDirectory :=
  noSourceDirectory_of_items (by decide)

theorem not_endless_nestedPages : ¬ nestedPages.Endless ["app/sub/d.py", "app"] := by
  intro h
  have hroot : nestedPages.isPackage [] = false := by decide
  rw [h.isPackage] at hroot
  cases hroot

/-- The directory in another spelling and the one below it add nothing to what is listed. -/
theorem sourceFiles_nestedPages :
    (nestedPages.IsTree ∧ nestedPages.NoSourceDirectory ∧
      (∀ text ∈ ["app/sub/d.py", "app"], (nestedPages.at? (Path.ofText text)).isSome) ∧
      ¬ nestedPages.Endless ["app/sub/d.py", "app"]) ∧
    ∃ files, nestedPages.sourceFiles ["app/sub/d.py", "app"] = .ok files ∧
      ["app", "a.py"] ∈ files.map (·.location) ∧
      nestedPages.sourceFiles (["app/sub/d.py", "app"] ++ ["app/.old/../../app", "./app/sub"]) =
        .ok files := by
  have hexists : ∀ text ∈ ["app/sub/d.py", "app"],
      (nestedPages.at? (Path.ofText text)).isSome := by
    decide
  have happ : nestedPages.at? (Path.ofText "app") = some ["app"] := by decide
  obtain ⟨files, hfiles, hlists, -, hinto⟩ :=
    (Store.sourceFiles_lists isTree_nestedPages noSourceDirectory_nestedPages hexists).2
      not_endless_nestedPages
  refine ⟨⟨isTree_nestedPages, noSourceDirectory_nestedPages, hexists, not_endless_nestedPages⟩,
    files, hfiles, ?_, ?_⟩
  · have hreaches : nestedPages.Reaches "app" (["app"] ++ ([] ++ ["a.py"])) :=
      .below happ rfl nofun (by decide) (by rfl)
    exact (hlists.mem_iff _).2 ⟨"app", by simp, hreaches⟩
  · refine hinto _ (List.forall_mem_cons.2 ⟨?_, List.forall_mem_singleton.2 ?_⟩)
    · exact ⟨"app", by simp, ["app"], [], happ, by decide, nofun, .inl rfl⟩
    · exact ⟨"app", by simp, ["app"], ["sub"], happ, by decide, by decide,
        .inr rfl⟩

theorem Store.findsFile_directory {s : Store} {text : String} {root names : Location}
    (hfollow : s.follow (Path.ofText text).names = .ok root)
    (hroot : s.item? root = some .directory) (h : names ∈ s.sourcesBelow root) :
    s.FindsFile text ⟨Path.ofText text, root, names⟩ :=
  ⟨_, sourcesOf_eq_ok.2 ⟨root, hfollow, .inl ⟨hroot, rfl⟩⟩, List.mem_map_of_mem h⟩

/-- A package in a working directory that is one as well. -/
def rootPackage : Store where
  items := [(["__init__.py"], .file []), (["app"], .directory), (["app", "__init__.py"], .file []),
    (["app", "page.py"], .file [])]

theorem isTree_rootPackage : rootPackage.IsTree :=
  ⟨by decide, by decide, by decide⟩

theorem noSourceDirectory_rootPackage : rootPackage.NoSourceDirectory :=
  noSourceDirectory_of_items (by decide)

theorem endless_rootPackage : rootPackage.Endless ["app"] := by
  have hpage : ["page.py"] ∈ rootPackage.sourcesBelow ["app"] :=
    Store.mem_sourcesBelow.2 ⟨[], "page.py", rfl, by decide, nofun, by decide⟩
  have hclimbs : rootPackage.ClimbsForever (Path.ofText "app").names := by
    rw [show (Path.ofText "app").names = [] ++ ["app"] by decide, Store.climbsForever_concat,
      Store.climbsForever_nil]
    decide
  exact ⟨[], "app", [], rfl, nofun, _, Store.findsFile_directory rfl rfl hpage, hclimbs, nofun⟩

/-- The sources of that package are never listed. -/
theorem sourceFiles_rootPackage :
    (rootPackage.IsTree ∧ rootPackage.NoSourceDirectory ∧
      ∀ text ∈ ["app"], (rootPackage.at? (Path.ofText text)).isSome) ∧
    ∀ files, rootPackage.sourceFiles ["app"] ≠ .ok files := by
  have hendless := Store.sourceFiles_eq_endless.2 endless_rootPackage
  refine ⟨⟨isTree_rootPackage, noSourceDirectory_rootPackage, by decide⟩, ?_⟩
  rw [hendless]
  exact fun _ => nofun

end Sitemap
