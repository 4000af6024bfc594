import Sitemap.Proofs.Scan.FoundFiles
import Sitemap.Proofs.Scan.PackagedModules

/-!
# Source files and listings that never end

* `Store.AreNamed` : files that are found have modules, with which they are source files;
* `Store.sourceFiles_eq_ok` : the source files of paths are the files that they find, if these have
  modules;
* `Store.Endless`, `Store.sourceFiles_eq_endless` : when the listing of paths never ends;
* `Store.IsTarget.sourceFiles_set` : a file that is written and makes no package leaves the other
  source files alone, in their order, if the listing still ends;
* `Store.locate_of_mem_sourceFiles` : the path of a source file leads to its location.
-/

namespace Sitemap

namespace Store

/-! ## Module names -/

section Modules
variable {s t : Store} (h : ∀ names, t.isPackage names = s.isPackage names)
include h

theorem packagesAround?_congr (names : List String) :
    t.packagesAround? names = s.packagesAround? names := by
  induction names with
  | nil => rw [packagesAround?, packagesAround?, h]
  | cons name outer ih => rw [packagesAround?, packagesAround?, h, ih]

theorem sourceFile?_congr (f : FoundFile) : t.sourceFile? f = s.sourceFile? f := by
  simp only [sourceFile?, moduleBelow?, packagesAround?_congr h]

end Modules

theorem sourceFile?_eq_none {s : Store} {f : FoundFile} :
    s.sourceFile? f = none ↔ s.ClimbsForever f.root.names := by
  rw [climbsForever_iff, sourceFile?, Option.map_eq_none_iff, moduleBelow?, Option.map_eq_none_iff]

theorem sourceFile?_eq_some {s : Store} {f : FoundFile} {source : SourceFile}
    (h : s.sourceFile? f = some source) : source.path = f.path ∧ source.location = f.location := by
  obtain ⟨moduleName, -, rfl⟩ := Option.map_eq_some_iff.1 h
  exact ⟨rfl, rfl⟩

section Write
variable {s : Store} {path : String} {at_ : Location}

theorem IsTarget.name_eq (h : s.IsTarget path at_) :
    at_.getLast? = some (Path.ofText path).name := by
  have hlast : (pathNames path).getLast? = some (at_.getLast h.ne_nil) :=
    h.last.trans (List.getLast?_eq_some_getLast h.ne_nil)
  have hpoint := (h.name _ (List.getLast?_eq_some_getLast h.ne_nil)).1
  rw [List.getLast?_eq_some_getLast h.ne_nil, Option.some.injEq]
  generalize at_.getLast h.ne_nil = name at hlast hpoint
  have hnames := pathNames_eq_of_getLast? hlast hpoint
  obtain ⟨init, hinit⟩ := List.getLast?_eq_some_iff.1 (hnames ▸ hlast)
  rw [Path.name, Path.ofText_names, hinit, List.filter_append,
    List.filter_cons_of_pos (by simpa using hpoint), List.filter_nil, List.getLastD_concat]

variable (h : s.IsTarget path at_) (hpackage : (Path.ofText path).name ≠ packageFile)
  (content : List UInt8)
include h hpackage

theorem IsTarget.locate_packageFile (names : List String) :
    s.locate (Path.mk (names ++ [packageFile])).text ≠ .ok at_ := by
  intro hlocate
  have hname : IsName packageFile := by decide
  obtain ⟨before, hnames⟩ := exists_pathNames_concat names hname
  obtain ⟨-, hfollow⟩ := locate_eq_ok.1 hlocate
  rw [hnames] at hfollow
  obtain ⟨l, -, hstep⟩ := follow_concat.1 hfollow
  obtain ⟨-, ⟨hpoint, -⟩ | ⟨hpoints, -⟩ | ⟨-, -, rfl⟩⟩ := step_eq_ok.1 hstep
  · exact absurd hpoint (by decide)
  · exact absurd hpoints (by decide)
  · have hlast := h.name_eq
    rw [List.getLast?_concat, Option.some.injEq] at hlast
    exact hpackage hlast.symm

theorem IsTarget.isPackage_set (names : List String) :
    (s.set at_ (.file content)).isPackage names = s.isPackage names :=
  h.isFile_set_of_ne content (h.locate_packageFile hpackage names)

theorem IsTarget.sourceFile?_set (f : FoundFile) :
    (s.set at_ (.file content)).sourceFile? f = s.sourceFile? f :=
  sourceFile?_congr (h.isPackage_set hpackage content) f

end Write

/-! ## Source files -/

/-- Files that are found have modules, with which they are source files. -/
def AreNamed (s : Store) : List FoundFile → List SourceFile → Prop :=
  List.Forall₂ fun f source => s.sourceFile? f = some source

/-- The listing of paths never ends: one of them, which leads to something as those before it do,
finds a file that they do not find, and from where it finds it the walk through the packages never
ends. -/
def Endless (s : Store) (paths : List String) : Prop :=
  ∃ before text after, paths = before ++ text :: after ∧
    (∀ earlier ∈ before, (s.at? (Path.ofText earlier)).isSome) ∧
    ∃ f, s.FindsFile text f ∧ s.ClimbsForever f.root.names ∧
      ∀ earlier ∈ before, ∀ g, s.FindsFile earlier g → g.location ≠ f.location

section Sources
variable {s : Store} {path text : String} {at_ : Location} {paths : List String}
  {found listed : List FoundFile} {files sources : List SourceFile}

theorem AreNamed.map_location (h : s.AreNamed found files) :
    files.map (·.location) = found.map (·.location) := by
  induction h with
  | nil => rfl
  | cons hf _ ih => rw [List.map_cons, List.map_cons, ih, (sourceFile?_eq_some hf).2]

theorem AreNamed.unique (h : s.AreNamed found sources) (h' : s.AreNamed found files) :
    sources = files := by
  refine List.right_unique_forall₂' (fun f a b ha hb => ?_) h h'
  exact Option.some.inj (ha.symm.trans hb)

theorem AreNamed.filter (h : s.AreNamed found files) (p : Location → Bool) :
    s.AreNamed (found.filter (p ·.location)) (files.filter (p ·.location)) := by
  refine List.rel_filter (fun f source hf => ?_) h
  change p f.location = true ↔ p source.location = true
  rw [(sourceFile?_eq_some hf).2]

/-- Files have modules unless from one of them the walk through the packages never ends. -/
theorem exists_areNamed_iff :
    (∃ files, s.AreNamed found files) ↔ ∀ f ∈ found, ¬ s.ClimbsForever f.root.names := by
  constructor
  · rintro ⟨files, h⟩ f hf
    obtain ⟨source, -, hsource⟩ := exists_of_mem_forall₂ h f hf
    rw [← sourceFile?_eq_none, hsource]
    exact nofun
  · intro h
    induction found with
    | nil => exact ⟨[], .nil⟩
    | cons f rest ih =>
      rw [List.forall_mem_cons, ← sourceFile?_eq_none, ← ne_eq, Option.ne_none_iff_exists'] at h
      obtain ⟨⟨source, hsource⟩, hrest⟩ := h
      obtain ⟨files, hfiles⟩ := ih hrest
      exact ⟨source :: files, .cons hsource hfiles⟩

/-- Sources are added as files are, if each that is added has a module. -/
theorem addSources?_eq_some (h : s.AreNamed listed sources) :
    s.addSources? sources found = some files ↔ s.AreNamed (addFound listed found) files := by
  induction found generalizing listed sources with
  | nil =>
    change some sources = some files ↔ s.AreNamed listed files
    rw [Option.some.injEq]
    constructor
    · rintro rfl
      exact h
    · exact h.unique
  | cons f rest ih =>
    have hany : sources.any (·.location == f.location) = listed.any (·.location == f.location) := by
      rw [Bool.eq_iff_iff, any_location_iff, ← h.map_location]
      simp only [List.any_eq_true, List.mem_map, beq_iff_eq]
    rw [addSources?, List.foldlM_cons, addFound_cons, addSource?, hany]
    by_cases hlisted : listed.any (·.location == f.location) = true
    · rw [if_pos hlisted, if_pos hlisted]
      exact ih h
    · rw [if_neg hlisted, if_neg hlisted]
      cases hf : s.sourceFile? f with
      | none =>
        refine iff_of_false nofun fun hfiles => ?_
        have hmem : f ∈ addFound (listed ++ [f]) rest := (prefix_addFound _ rest).subset (by simp)
        obtain ⟨source, -, hsource⟩ := exists_of_mem_forall₂ hfiles f hmem
        rw [hf] at hsource
        cases hsource
      | some source => exact ih (List.rel_append h (.cons hf .nil))

theorem addPath_eq_ok : s.addPath sources text = .ok files ↔
    ∃ found, s.sourcesOf text = .ok found ∧ s.addSources? sources found = some files := by
  unfold addPath
  simp only [bind_eq_ok, mapError_eq_ok]
  refine exists_congr fun found => and_congr_right fun _ => ?_
  cases s.addSources? sources found <;> simp [Stop.orEndless]

theorem sourceFiles_append (more : List String) : s.sourceFiles (paths ++ more) =
    s.sourceFiles paths >>= fun sources => more.foldlM s.addPath sources := by
  unfold sourceFiles
  rw [List.foldlM_append]

theorem sourceFiles_concat : s.sourceFiles (paths ++ [text]) = .ok files ↔
    ∃ sources, s.sourceFiles paths = .ok sources ∧ s.addPath sources text = .ok files := by
  rw [sourceFiles_append, bind_eq_ok]
  simp only [List.foldlM_cons, List.foldlM_nil, bind_pure]

/-- The source files of paths are the files that they find, if these have modules. -/
theorem sourceFiles_eq_ok : s.sourceFiles paths = .ok files ↔
    ∃ found, s.foundFiles paths = .ok found ∧ s.AreNamed found files := by
  induction paths using List.reverseRecOn generalizing files with
  | nil =>
    constructor
    · intro h
      cases h
      exact ⟨[], rfl, .nil⟩
    · rintro ⟨_, hfound, hfiles⟩
      cases hfound
      cases hfiles
      rfl
  | append_singleton paths text ih =>
    simp only [sourceFiles_concat, addPath_eq_ok, foundFiles_concat]
    constructor
    · rintro ⟨sources, hsources, new, hnew, hadd⟩
      obtain ⟨listed, hlisted, hnamed⟩ := ih.1 hsources
      exact ⟨_, ⟨listed, new, hlisted, hnew, rfl⟩, (addSources?_eq_some hnamed).1 hadd⟩
    · rintro ⟨_, ⟨listed, new, hlisted, hnew, rfl⟩, hfiles⟩
      -- those that were listed before have modules too
      have hends := exists_areNamed_iff.1 ⟨files, hfiles⟩
      obtain ⟨sources, hsources⟩ := exists_areNamed_iff.2 fun f hf =>
        hends f ((prefix_addFound listed new).subset hf)
      exact ⟨sources, ih.2 ⟨listed, hlisted, hsources⟩, new, hnew,
        (addSources?_eq_some hsources).2 hfiles⟩

theorem Endless.append (h : s.Endless paths) (more : List String) : s.Endless (paths ++ more) := by
  obtain ⟨before, text, after, rfl, hrest⟩ := h
  exact ⟨before, text, after ++ more, by simp, hrest⟩

/-- For paths that find files, the listing never ends just if the walk through the packages never
ends for one of these. -/
theorem endless_iff_of_foundFiles (hfound : s.foundFiles paths = .ok found) :
    s.Endless paths ↔ ∃ f ∈ found, s.ClimbsForever f.root.names := by
  constructor
  · rintro ⟨before, text, after, rfl, -, f, ⟨new, hnew, hf⟩, hclimbs, hfirst⟩
    have hexists := exists_foundFiles_iff.1 ⟨found, hfound⟩
    rw [List.forall_mem_append] at hexists
    obtain ⟨listed, hlisted⟩ := exists_foundFiles_iff.2 hexists.1
    have hnext := foundFiles_concat.2 ⟨listed, new, hlisted, hnew, rfl⟩
    rw [List.append_cons] at hfound
    -- what is listed at the location was found by this path, so from the same directory
    have hreached : f.location ∈ (addFound listed new).map (·.location) := location_mem_addFound hf
    obtain ⟨g, hg, hlocation⟩ := List.mem_map.1 hreached
    refine ⟨g, (prefix_foundFiles hnext hfound).subset hg, ?_⟩
    rcases mem_addFound hg with hbefore | ⟨hadded, -⟩
    · obtain ⟨earlier, hmem, hfinds⟩ := exists_findsFile hlisted g hbefore
      exact absurd hlocation (hfirst earlier hmem g hfinds)
    · rwa [root_eq_of_mem_sourcesOf hnew hadded hf]
  · rintro ⟨f, hf, hclimbs⟩
    induction paths using List.reverseRecOn generalizing found with
    | nil =>
      cases hfound
      cases hf
    | append_singleton paths text ih =>
      obtain ⟨listed, new, hlisted, hnew, rfl⟩ := foundFiles_concat.1 hfound
      rcases mem_addFound hf with hbefore | ⟨hadded, helsewhere⟩
      · exact (ih hlisted hbefore).append [text]
      · refine ⟨paths, text, [], rfl, exists_foundFiles_iff.1 ⟨listed, hlisted⟩, f,
          ⟨new, hnew, hadded⟩, hclimbs, fun earlier hmem g hfinds heq => helsewhere ?_⟩
        exact (mem_locations_foundFiles hlisted).2 ⟨earlier, hmem, g, hfinds, heq⟩

/-- Paths that find files have source files unless the listing never ends. -/
theorem exists_sourceFiles_iff (hfound : s.foundFiles paths = .ok found) :
    (∃ files, s.sourceFiles paths = .ok files) ↔ ¬ s.Endless paths := by
  rw [endless_iff_of_foundFiles hfound, not_exists]
  simp only [not_and, ← exists_areNamed_iff, sourceFiles_eq_ok, hfound, Except.ok.injEq,
    exists_eq_left']

theorem sourceFiles_ne_fault (hexists : ∀ text ∈ paths, (s.at? (Path.ofText text)).isSome)
    (missing : MissingSource) : s.sourceFiles paths ≠ .error (.fault missing) := by
  intro hfault
  obtain ⟨before, text, after, listed, rfl, -, hstep⟩ := foldlM_eq_error.1 hfault
  obtain ⟨found, hfound⟩ := exists_sourcesOf_iff.2 (hexists text (by simp))
  rw [addPath, hfound] at hstep
  change Stop.orEndless (s.addSources? listed found) = _ at hstep
  cases hadd : s.addSources? listed found <;> rw [hadd] at hstep <;> cases hstep

/-- Source files of all paths are never listed just if the listing never ends. -/
theorem sourceFiles_eq_endless : s.sourceFiles paths = .error .endless ↔ s.Endless paths := by
  constructor
  · intro hendless
    obtain ⟨before, text, after, sources, rfl, hsources, hstep⟩ := foldlM_eq_error.1 hendless
    obtain ⟨listed, hlisted, -⟩ := sourceFiles_eq_ok.1 hsources
    rcases bind_eq_error.1 hstep with hmissing | ⟨new, hnew, -⟩
    · cases h : s.sourcesOf text <;> rw [h] at hmissing <;> cases hmissing
    · have hnext := foundFiles_concat.2 ⟨listed, new, hlisted, mapError_eq_ok.1 hnew, rfl⟩
      have hends : s.Endless (before ++ [text]) := by
        by_contra hends
        obtain ⟨files, hfiles⟩ := (exists_sourceFiles_iff hnext).2 hends
        obtain ⟨sources', hsources', hadd⟩ := sourceFiles_concat.1 hfiles
        cases hsources.symm.trans hsources'
        cases hstep.symm.trans hadd
      rw [List.append_cons]
      exact hends.append after
  · rintro ⟨before, text, after, rfl, hexists, f, hfinds, hrest⟩
    have hboth : ∀ earlier ∈ before ++ [text], (s.at? (Path.ofText earlier)).isSome := by
      refine List.forall_mem_append.2 ⟨hexists, List.forall_mem_singleton.2 ?_⟩
      exact exists_sourcesOf_iff.1 ⟨_, hfinds.choose_spec.1⟩
    obtain ⟨found, hfound⟩ := exists_foundFiles_iff.2 hboth
    have hends : s.Endless (before ++ [text]) := ⟨before, text, [], rfl, hexists, f, hfinds, hrest⟩
    have hfirst : s.sourceFiles (before ++ [text]) = .error .endless := by
      cases h : s.sourceFiles (before ++ [text]) with
      | ok files => exact absurd hends ((exists_sourceFiles_iff hfound).1 ⟨files, h⟩)
      | error stop =>
        cases stop with
        | fault missing => exact absurd h (sourceFiles_ne_fault hboth missing)
        | endless => rfl
    rw [List.append_cons, sourceFiles_append, hfirst]
    rfl

/-- A listing never ends only if the working directory is a package. -/
theorem Endless.isPackage (h : s.Endless paths) : s.isPackage [] = true := by
  obtain ⟨-, -, -, -, -, f, -, hclimbs, -⟩ := h
  exact hclimbs.isPackage

/-- The source files of all paths after a file was written, if the listing ends: the others are as
they were, in their order. -/
theorem IsTarget.sourceFiles_set (h : s.IsTarget path at_)
    (hpackage : (Path.ofText path).name ≠ packageFile) (content : List UInt8)
    (hs : s.sourceFiles paths = .ok files)
    (hends : ¬ (s.set at_ (.file content)).Endless paths) :
    ∃ files', (s.set at_ (.file content)).sourceFiles paths = .ok files' ∧
      files'.filter (·.location ≠ at_) = files.filter (·.location ≠ at_) := by
  obtain ⟨found, hfound, hnamed⟩ := sourceFiles_eq_ok.1 hs
  obtain ⟨found', hfound', hsame⟩ := h.foundFiles_set content hfound
  obtain ⟨files', hfiles'⟩ := (exists_sourceFiles_iff hfound').2 hends
  refine ⟨files', hfiles', ?_⟩
  obtain ⟨_, hagain, hnamed'⟩ := sourceFiles_eq_ok.1 hfiles'
  cases hfound'.symm.trans hagain
  -- files elsewhere have the modules that they had
  have hold : s.AreNamed found' files' := by
    simpa only [AreNamed, h.sourceFile?_set hpackage content] using hnamed'
  have hrest := hold.filter fun l => l ≠ at_
  rw [hsame] at hrest
  exact hrest.unique (hnamed.filter fun l => l ≠ at_)

theorem locate_of_mem_sourceFiles (hs : s.sourceFiles paths = .ok files)
    {f : SourceFile} (hf : f ∈ files)
    (hnames : ∀ name ∈ f.location, IsName name ∧ name ≠ "." ∧ name ≠ "..")
    (hway : ∀ n < f.location.length, s.item? (f.location.take n) = some .directory)
    (hfile : s.item? f.location ≠ some .directory) :
    s.locate f.path.text = .ok f.location := by
  obtain ⟨found, hfound, hnamed⟩ := sourceFiles_eq_ok.1 hs
  obtain ⟨g, hg, hsource⟩ := exists_of_mem_forall₂ hnamed.flip f hf
  obtain ⟨hpath, hlocation⟩ := sourceFile?_eq_some hsource
  obtain ⟨text, -, hfinds⟩ := exists_findsFile hfound g hg
  rw [hlocation] at hnames hway hfile ⊢
  rw [hpath]
  exact hfinds.locate hnames hway hfile

theorem IsTarget.locate_of_mem_sourceFiles (h : s.IsTarget path at_)
    (hs : s.sourceFiles paths = .ok files) {f : SourceFile}
    (hf : f ∈ files) (hlocation : f.location = at_) : s.locate f.path.text = .ok at_ := by
  subst hlocation
  exact Store.locate_of_mem_sourceFiles hs hf (name_of_locate h.locate)
    (directory_of_follow (locate_eq_ok.1 h.locate).2) h.not_directory

end Sources

end Store

end Sitemap
