import Mathlib.Data.List.Nodup
import Sitemap.Proofs.Scan.SourceFiles
import Sitemap.Proofs.Store.Trees

/-!
# Source files of a tree

* `inPathOrder_perm`, `pairwise_inPathOrder`, `inPathOrder_eq_of_perm` : locations in order, however
  they were found;
* `sourceFiles_eq_of_sameShape` : trees of the same shape have the same source files;
* `exists_sourceFiles` : paths that lead to something have source files, if the listing ends;
* `nodup_sourceFiles` : no location is listed twice;
* `IsTree.readBytes_of_mem_sourceFiles` : the path of a source file reads what is at its location.
-/

namespace Sitemap

/-! ## The order of locations -/

theorem eq_of_intercalate_eq {names names' : List String} (hnames : ∀ name ∈ names, IsName name)
    (hnames' : ∀ name ∈ names', IsName name)
    (h : "/".intercalate names = "/".intercalate names') : names = names' := by
  rw [← namesIn_intercalate hnames, h, namesIn_intercalate hnames']

theorem inPathOrder_perm (found : List Location) : (inPathOrder found).Perm found := by
  have hsnd := (List.mergeSort_perm (found.map fun names => ("/".intercalate names, names))
    fun a b => !(b.1 < a.1)).map Prod.snd
  rwa [List.map_map, Function.comp_def, List.map_id'] at hsnd

theorem pairwise_inPathOrder (found : List Location) : (inPathOrder found).Pairwise
    fun names names' => "/".intercalate names ≤ "/".intercalate names' := by
  rw [inPathOrder, List.pairwise_map]
  refine (List.pairwise_mergeSort pathOrder_trans pathOrder_total _).imp_of_mem ?_
  intro a b ha hb hab
  obtain ⟨names, -, rfl⟩ := List.mem_map.1 (List.mem_mergeSort.1 ha)
  obtain ⟨names', -, rfl⟩ := List.mem_map.1 (List.mem_mergeSort.1 hb)
  simpa only [Bool.not_eq_true', decide_eq_false_iff_not, String.not_lt] using hab

/-- The order in which locations are found does not matter. -/
theorem inPathOrder_eq_of_perm {found found' : List Location} (hperm : found.Perm found')
    (hnames : ∀ names ∈ found, ∀ name ∈ names, IsName name) :
    inPathOrder found = inPathOrder found' := by
  refine List.Perm.eq_of_pairwise ?_ (pairwise_inPathOrder _) (pairwise_inPathOrder _)
    ((inPathOrder_perm _).trans (hperm.trans (inPathOrder_perm _).symm))
  intro names names' hmem hmem' hle hge
  rw [mem_inPathOrder] at hmem hmem'
  exact eq_of_intercalate_eq (hnames _ hmem) (hnames _ (hperm.mem_iff.2 hmem'))
    (String.le_antisymm hle hge)

theorem Store.IsTree.nodup_below {s : Store} (h : s.IsTree) (root : Location) :
    (s.locations.filterMap (below? root)).Nodup := by
  refine List.Nodup.filterMap (fun l l' names hl hl' => ?_) h.nodup
  rw [Option.mem_def, below?_eq_some] at hl hl'
  rw [hl.1, hl'.1]

/-! ## The same shape -/

namespace Store

section Shape
variable {s t : Store} (hs : s.IsTree) (ht : t.IsTree) (h : SameShape s t)
include h

theorem SameShape.sourceFile?_eq (f : FoundFile) : t.sourceFile? f = s.sourceFile? f :=
  sourceFile?_congr (fun _ => h.isFile_eq _) f

include hs ht

theorem sourcesBelow_eq_of_sameShape (root : Location) :
    t.sourcesBelow root = s.sourcesBelow root := by
  have hperm : (t.locations.filterMap (below? root)).Perm
      (s.locations.filterMap (below? root)) := by
    refine (List.perm_ext_iff_of_nodup (ht.nodup_below root) (hs.nodup_below root)).2 ?_
    intro names
    rw [List.mem_filterMap, List.mem_filterMap]
    refine exists_congr fun l => and_congr_left fun hl => h.mem_locations ?_
    obtain ⟨rfl, hne⟩ := below?_eq_some.1 hl
    exact List.append_ne_nil_of_right_ne_nil _ hne
  rw [sourcesBelow_eq, sourcesBelow_eq]
  refine inPathOrder_eq_of_perm (hperm.filter _) fun names hnames name hname => ?_
  obtain ⟨l, hl, hbelow⟩ := List.mem_filterMap.1 (List.mem_filter.1 hnames).1
  obtain ⟨rfl, -⟩ := below?_eq_some.1 hbelow
  exact (ht.name _ hl name (List.mem_append_right _ hname)).1

theorem sourcesOf_eq_of_sameShape (text : String) : t.sourcesOf text = s.sourcesOf text := by
  simp only [sourcesOf, h.at?_eq, sourcesBelow_eq_of_sameShape hs ht h]
  cases hl : s.at? (Path.ofText text) with
  | none => rfl
  | some l =>
    simp only
    by_cases hdirectory : s.item? l = some .directory
    · rw [hdirectory, (h.directory l).2 hdirectory]
    · have hother := mt (h.directory l).1 hdirectory
      split
      · contradiction
      · rfl

/-- Trees of the same shape have the same source files: what is in the files does not matter. -/
theorem sourceFiles_eq_of_sameShape (paths : List String) :
    t.sourceFiles paths = s.sourceFiles paths := by
  have hadd : ∀ sources, t.addSource? sources = s.addSource? sources := fun sources => by
    funext f
    rw [addSource?, addSource?, h.sourceFile?_eq]
  have hpath : t.addPath = s.addPath := by
    funext sources text
    simp only [addPath, addSources?, sourcesOf_eq_of_sameShape hs ht h, funext hadd]
  rw [sourceFiles, sourceFiles, hpath]

end Shape

/-! ## The source files -/

section Files
variable {s : Store} {paths : List String} {files : List SourceFile}

theorem exists_sourceFiles (hexists : ∀ text ∈ paths, (s.at? (Path.ofText text)).isSome)
    (hends : ¬ s.Endless paths) : ∃ files, s.sourceFiles paths = .ok files := by
  obtain ⟨found, hfound⟩ := exists_foundFiles_iff.2 hexists
  exact (exists_sourceFiles_iff hfound).2 hends

theorem nodup_addFound {listed : List FoundFile} (found : List FoundFile)
    (h : (listed.map (·.location)).Nodup) : ((addFound listed found).map (·.location)).Nodup := by
  induction found generalizing listed with
  | nil => exact h
  | cons f rest ih =>
    rw [addFound_cons]
    refine ih ?_
    split
    · exact h
    · rename_i hnew
      rw [List.map_append, List.nodup_append]
      refine ⟨h, List.nodup_singleton _, fun l hl l' hl' heq => hnew (any_location_iff.2 ?_)⟩
      rw [List.map_singleton, List.mem_singleton] at hl'
      rwa [← hl', ← heq]

theorem nodup_sourceFiles (hs : s.sourceFiles paths = .ok files) :
    (files.map (·.location)).Nodup := by
  obtain ⟨found, hfound, hnamed⟩ := sourceFiles_eq_ok.1 hs
  rw [hnamed.map_location]
  exact foundFiles_invariant (P := fun found => (found.map (·.location)).Nodup) List.nodup_nil
    (fun _ _ new hlisted _ => nodup_addFound new hlisted) hfound

theorem IsTree.readBytes_of_mem_sourceFiles (h : s.IsTree) (hs : s.sourceFiles paths = .ok files)
    {f : SourceFile} (hf : f ∈ files) {content : List UInt8}
    (hcontent : s.item? f.location = some (.file content)) :
    s.readBytes f.path.text = .ok content := by
  have hsome := Option.isSome_of_eq_some hcontent
  refine readBytes_eq_ok.2 (item_eq_ok.2 ⟨f.location, ?_, hcontent⟩)
  refine locate_of_mem_sourceFiles hs hf (h.name_of_item? hsome) (h.directory_take hsome) ?_
  rw [hcontent]
  exact nofun

end Files

end Store

end Sitemap
