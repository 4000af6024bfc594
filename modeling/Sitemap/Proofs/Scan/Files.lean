import Mathlib.Algebra.GroupWithZero.Nat
import Sitemap.Proofs.Scan.Listing
import Sitemap.Proofs.Source.Encoding
import Sitemap.Scan.Paths

/-!
# Scanning files one by one

* `SourceFile.classes`, `inspectFiles_eq_ok` : the classes of files, file by file;
* `PathScan.ofFiles`, `scanPaths_eq_ok` : a scan of paths puts together what is found in each file;
* `SourceFile.Holds` : a file that holds a plain text, with the classes that the text declares;
* `scanPaths_tree` : a scan of a tree is that of its texts, and the text of one file decides on its
  own part of what is found only.
-/

namespace Sitemap

/-! ## Classes of files -/

theorem Logged.bind_result {ε α β : Type} (x : Logged ε α) (f : α → Logged ε β) :
    (x >>= f).result = x.result >>= fun a => (f a).result := by
  cases x with
  | mk records result =>
    cases result <;> rfl

/-- The classes of a file, none if it cannot be read. -/
def SourceFile.classes (decoders : Decoders) (s : Store) (f : SourceFile) : List Declaration :=
  (f.declarations decoders s).toOption.getD []

theorem SourceFile.classes_of_ok {decoders : Decoders} {s : Store} {f : SourceFile} {ds : List Declaration}
    (h : f.declarations decoders s = .ok ds) : f.classes decoders s = ds := by
  rw [classes, h]
  rfl

/-- Files are inspected if each of them is. -/
theorem inspectFiles_eq_ok {decoders : Decoders} {s : Store} {files : List SourceFile}
    {ds : List Declaration} :
    (inspectFiles decoders .none s files).result = .ok ds ↔
      (∀ f ∈ files, ∃ ds, f.declarations decoders s = .ok ds) ∧ ds = files.flatMap (·.classes decoders s) := by
  induction files generalizing ds with
  | nil => simp [inspectFiles, Logged.ok, eq_comm]
  | cons f rest ih =>
    have hstep : (inspectFiles decoders .none s (f :: rest)).result = (do
        let found ← f.declarations decoders s
        let others ← (inspectFiles decoders .none s rest).result
        return found ++ others) := by
      simp only [inspectFiles, Logged.bind_result]
      rfl
    rw [hstep, bind_eq_ok, List.forall_mem_cons, List.flatMap_cons]
    constructor
    · rintro ⟨found, hfound, h⟩
      obtain ⟨others, hothers, h⟩ := bind_eq_ok.1 h
      cases h
      obtain ⟨hrest, rfl⟩ := ih.1 hothers
      exact ⟨⟨⟨found, hfound⟩, hrest⟩, by rw [SourceFile.classes_of_ok hfound]⟩
    · rintro ⟨⟨⟨found, hfound⟩, hrest⟩, rfl⟩
      refine ⟨found, hfound, bind_eq_ok.2 ⟨_, ih.2 ⟨hrest, rfl⟩, ?_⟩⟩
      rw [SourceFile.classes_of_ok hfound]
      rfl

/-! ## Scans file by file -/

namespace PathScan

/-- What scans of files one by one find together, when it is known which classes each declares. -/
def ofFiles (names : ScanNames) (diagnose : Bool) (found : SourceFile → List Declaration)
    (files : List SourceFile) : PathScan where
  fileCount := files.length
  classCount := (files.map fun f => (found f).length).sum
  entries := files.flatMap fun f => (scanDeclarations names diagnose (found f)).entries
  omitted := files.flatMap fun f => (scanDeclarations names diagnose (found f)).omitted
  unpaired := files.any fun f => scanUnpaired names (found f)

section OfFiles
variable (names : ScanNames) (diagnose : Bool) {found found' : SourceFile → List Declaration}

/-- Declarations may be put together before they are scanned or after. -/
theorem ofFiles_eq (found : SourceFile → List Declaration) (files : List SourceFile) :
    ofFiles names diagnose found files =
      ⟨files.length, (files.flatMap found).length,
        (scanDeclarations names diagnose (files.flatMap found)).entries,
        (scanDeclarations names diagnose (files.flatMap found)).omitted,
        scanUnpaired names (files.flatMap found)⟩ := by
  have hentries : scanEntries names (files.flatMap found) =
      files.flatMap fun f => scanEntries names (found f) := List.filterMap_flatMap
  have homitted : scanOmitted names (files.flatMap found) =
      files.flatMap fun f => scanOmitted names (found f) := List.filterMap_flatMap
  have hunpaired : scanUnpaired names (files.flatMap found) =
      files.any fun f => scanUnpaired names (found f) := List.any_flatMap
  cases diagnose with
  | false => simp [ofFiles, scanDeclarations, hentries, hunpaired, List.length_flatMap]
  | true => simp [ofFiles, scanDeclarations, hentries, homitted, hunpaired, List.length_flatMap]

theorem ofFiles_congr {files : List SourceFile} (h : ∀ f ∈ files, found f = found' f) :
    ofFiles names diagnose found files = ofFiles names diagnose found' files := by
  have hclasses : files.flatMap found = files.flatMap found' := List.flatMap_congr h
  rw [ofFiles_eq, ofFiles_eq, hclasses]

theorem ofFiles_append_cons (before : List SourceFile) (f : SourceFile)
    (after : List SourceFile) :
    let head := ofFiles names diagnose found before
    let own := scanDeclarations names diagnose (found f)
    let tail := ofFiles names diagnose found after
    ofFiles names diagnose found (before ++ f :: after) =
      ⟨(before ++ f :: after).length, head.classCount + (found f).length + tail.classCount,
        head.entries ++ own.entries ++ tail.entries,
        head.omitted ++ own.omitted ++ tail.omitted,
        head.unpaired || scanUnpaired names (found f) || tail.unpaired⟩ := by
  simp [ofFiles, Nat.add_assoc, Bool.or_assoc]

end OfFiles

end PathScan

section Results
variable {decoders : Decoders} {effect : RecordEffect} {s : Store} {names : ScanNames}
  {diagnose : Bool} {paths : List String}

theorem scanPaths_result : (scanPaths decoders effect s names diagnose paths).result = (do
    let files ← (s.sourceFiles paths).mapError (.map .missing)
    let ds ← (inspectFiles decoders effect s files).result.mapError .fault
    let found := scanDeclarations names diagnose ds
    return ⟨files.length, ds.length, found.entries, found.omitted, scanUnpaired names ds⟩) := by
  simp only [scanPaths, Logged.bind_result]
  rfl

/-- A scan of paths succeeds if they have source files and each is inspected. -/
theorem scanPaths_eq_ok {scan : PathScan} :
    (scanPaths decoders .none s names diagnose paths).result = .ok scan ↔
      ∃ files, s.sourceFiles paths = .ok files ∧
        (∀ f ∈ files, ∃ ds, f.declarations decoders s = .ok ds) ∧
        scan = .ofFiles names diagnose (·.classes decoders s) files := by
  rw [scanPaths_result]
  simp only [bind_eq_ok, mapError_eq_ok, inspectFiles_eq_ok, PathScan.ofFiles_eq]
  refine exists_congr fun files => and_congr_right fun _ => ?_
  constructor
  · rintro ⟨ds, ⟨hok, rfl⟩, h⟩
    cases h
    exact ⟨hok, rfl⟩
  · rintro ⟨hok, rfl⟩
    exact ⟨_, ⟨hok, rfl⟩, rfl⟩

/-- A scan of paths never ends just if the listing of their sources never does. -/
theorem scanPaths_eq_endless :
    (scanPaths decoders effect s names diagnose paths).result = .error .endless ↔
      s.Endless paths := by
  rw [← Store.sourceFiles_eq_endless, scanPaths_result]
  cases s.sourceFiles paths with
  | error stop => cases stop <;> simp [mapError_error, Stop.map, bind, Except.bind]
  | ok files =>
    rw [mapError_ok]
    refine iff_of_false (fun h => ?_) nofun
    rcases bind_eq_error.1 h with hfiles | ⟨_, -, h⟩
    · cases hfiles
    · rcases bind_eq_error.1 h with hinspected | ⟨_, -, hdone⟩
      · obtain ⟨_, -, hfault⟩ := mapError_eq_error.1 hinspected
        cases hfault
      · cases hdone

end Results

/-! ## Scans of a tree -/

/-- The file at the location of a source file holds a plain text that declares classes. -/
structure SourceFile.Holds (s : Store) (f : SourceFile) (text : String)
    (ds : List Declaration) : Prop where
  content : s.item? f.location = some (.file (Utf8.encode text))
  plain : Source.IsPlainText text
  inspected : inspect (.text text) f.moduleName f.path.text f.isPackage = .ok ds

theorem inspect_encode (decoders : Decoders) {text : String} (h : Source.IsPlainText text)
    (moduleName path : String) (isPackage : Bool) :
    inspect (.bytes decoders (Utf8.encode text)) moduleName path isPackage =
      inspect (.text text) moduleName path isPackage := by
  unfold inspect
  rw [Source.parseInput?_encode decoders h]

section Tree
open Store
variable {s t : Store} {paths : List String} {files : List SourceFile}

theorem SourceFile.Holds.declarations_eq {f : SourceFile} {text : String} {ds : List Declaration}
    (h : f.Holds s text ds) (decoders : Decoders) (htree : s.IsTree) (hfiles : s.sourceFiles paths = .ok files)
    (hf : f ∈ files) : f.declarations decoders s = .ok ds := by
  unfold declarations
  rw [htree.readBytes_of_mem_sourceFiles hfiles hf h.content, mapError_ok]
  simp only [bind, Except.bind, inspect_encode decoders h.plain, h.inspected, mapError_ok]

theorem scanPaths_of_holds {text : SourceFile → String} {found : SourceFile → List Declaration}
    (htree : s.IsTree) (hfiles : s.sourceFiles paths = .ok files)
    (hfound : ∀ f ∈ files, f.Holds s (text f) (found f)) (decoders : Decoders) (names : ScanNames)
    (diagnose : Bool) : (scanPaths decoders .none s names diagnose paths).result =
      .ok (.ofFiles names diagnose found files) := by
  have hds : ∀ f ∈ files, f.declarations decoders s = .ok (found f) := fun f hf =>
    (hfound f hf).declarations_eq decoders htree hfiles hf
  refine scanPaths_eq_ok.2 ⟨files, hfiles, fun f hf => ⟨_, hds f hf⟩, ?_⟩
  exact PathScan.ofFiles_congr _ _ fun f hf => (SourceFile.classes_of_ok (hds f hf)).symm

/-- Another text of one file is nothing to the others. -/
theorem holds_update {text : SourceFile → String} {found : SourceFile → List Declaration}
    (hfiles : s.sourceFiles paths = .ok files)
    (hfound : ∀ g ∈ files, g.Holds s (text g) (found g)) {f : SourceFile} (hf : f ∈ files)
    (hdiffers : DiffersOnlyAt s t f.location) {text' : String} {ds : List Declaration}
    (hnew : f.Holds t text' ds) : ∀ g ∈ files,
      g.Holds t (Function.update text f text' g) (Function.update found f ds g) := by
  intro g hg
  by_cases hgf : g = f
  · rw [hgf, Function.update_self, Function.update_self]
    exact hnew
  · have hlocation : g.location ≠ f.location := fun heq =>
      hgf (List.inj_on_of_nodup_map (nodup_sourceFiles hfiles) hg hf heq)
    obtain ⟨hcontent, hplain, hinspected⟩ := hfound g hg
    rw [Function.update_of_ne hgf, Function.update_of_ne hgf]
    exact ⟨(hdiffers.elsewhere _ hlocation).trans hcontent, hplain, hinspected⟩

/-- A scan of paths that lead to something, in a tree whose listed files hold plain texts that are
inspected without a fault, is the scan of these texts one by one, in the order in which they are
listed, unless listing them never ends, which takes a working directory that is a package. In a tree
that differs in the text of one listed file only, a scan finds the same before and behind what it
finds in that file. -/
theorem scanPaths_tree {text : SourceFile → String} {found : SourceFile → List Declaration}
    (htree : s.IsTree) (hexists : ∀ path ∈ paths, (s.at? (Path.ofText path)).isSome)
    (hfound : ∀ files, s.sourceFiles paths = .ok files →
      ∀ f ∈ files, f.Holds s (text f) (found f))
    (decoders : Decoders) (names : ScanNames) (diagnose : Bool) :
    (s.Endless paths → s.isPackage [] = true ∧
      (scanPaths decoders .none s names diagnose paths).result = .error .endless) ∧
    (¬ s.Endless paths → ∃ files, s.sourceFiles paths = .ok files ∧
      (scanPaths decoders .none s names diagnose paths).result =
        .ok (.ofFiles names diagnose found files) ∧
      ∀ before f after, files = before ++ f :: after →
        ∀ t text' ds, t.IsTree → DiffersOnlyAt s t f.location → f.Holds t text' ds →
          let head := PathScan.ofFiles names diagnose found before
          let tail := PathScan.ofFiles names diagnose found after
          let old := scanDeclarations names diagnose (found f)
          let new := scanDeclarations names diagnose ds
          (scanPaths decoders .none s names diagnose paths).result = .ok
            ⟨files.length, head.classCount + (found f).length + tail.classCount,
              head.entries ++ old.entries ++ tail.entries,
              head.omitted ++ old.omitted ++ tail.omitted,
              head.unpaired || scanUnpaired names (found f) || tail.unpaired⟩ ∧
          (scanPaths decoders .none t names diagnose paths).result = .ok
            ⟨files.length, head.classCount + ds.length + tail.classCount,
              head.entries ++ new.entries ++ tail.entries,
              head.omitted ++ new.omitted ++ tail.omitted,
              head.unpaired || scanUnpaired names ds || tail.unpaired⟩) := by
  refine ⟨fun hendless => ⟨hendless.isPackage, scanPaths_eq_endless.2 hendless⟩, fun hends => ?_⟩
  obtain ⟨files, hfiles⟩ := exists_sourceFiles hexists hends
  have hscan := scanPaths_of_holds htree hfiles (hfound files hfiles) decoders names diagnose
  refine ⟨files, hfiles, hscan, ?_⟩
  rintro before f after rfl t text' ds ht hdiffers hnew
  have hfiles' := (sourceFiles_eq_of_sameShape htree ht hdiffers.sameShape paths).trans hfiles
  have hscan' := scanPaths_of_holds ht hfiles'
    (holds_update hfiles (hfound _ hfiles) (by simp) hdiffers hnew) decoders names diagnose
  -- what is found in the other files is what it was
  have hnodup : (before ++ f :: after).Nodup := (nodup_sourceFiles hfiles).of_map _
  have honce : f ∉ before ++ after := (List.nodup_cons.1 (List.nodup_middle.1 hnodup)).1
  have hother : ∀ g ∈ before ++ after, Function.update found f ds g = found g := by
    intro g hg
    refine Function.update_of_ne ?_ _ _
    rintro rfl
    exact honce hg
  have hhead := PathScan.ofFiles_congr names diagnose fun g hg =>
    hother g (List.mem_append_left _ hg)
  have htail := PathScan.ofFiles_congr names diagnose fun g hg =>
    hother g (List.mem_append_right _ hg)
  rw [PathScan.ofFiles_append_cons] at hscan hscan'
  rw [hhead, htail, Function.update_self] at hscan'
  exact ⟨hscan, hscan'⟩

end Tree

def pageSource (template : String) : String :=
  "from sitemap_codegen import route, sitemap_url\n@route(\"" ++ template ++
    "\")\n@sitemap_url()\nclass Page: ...\n"

def twoPages : Store where
  items := [(["app"], .directory), (["app", "one.py"], .file (Utf8.encode (pageSource "/one"))),
    (["app", "two.py"], .file (Utf8.encode (pageSource "/two")))]

def twoPagesText (f : SourceFile) : String :=
  if f.location = ["app", "one.py"] then pageSource "/one" else pageSource "/two"

def SourceFile.classesIn (f : SourceFile) (text : String) : List Declaration :=
  (inspect (.text text) f.moduleName f.path.text f.isPackage).toOption.getD []

theorem holds_of_isSome {s : Store} {f : SourceFile} {text : String}
    (hcontent : s.item? f.location = some (.file (Utf8.encode text)))
    (hplain : text.toList.head? ≠ some Source.encodingMark ∧
      Source.sourceEncoding? (Source.completeByteLines (Utf8.encode text)) = none)
    (hsome : (inspect (.text text) f.moduleName f.path.text f.isPackage).toOption.isSome) :
    f.Holds s text (f.classesIn text) := by
  obtain ⟨ds, hds⟩ := Option.isSome_iff_exists.1 hsome
  refine ⟨hcontent, ⟨hplain.1, hplain.2⟩, ?_⟩
  rw [SourceFile.classesIn, hds]
  exact mem_toOption.1 hds

def twoPagesFound : List FoundFile :=
  [⟨⟨["app"]⟩, ["app"], ["one.py"]⟩, ⟨⟨["app"]⟩, ["app"], ["two.py"]⟩]

def twoPagesFiles : List SourceFile :=
  [⟨⟨["app", "one.py"]⟩, ["app", "one.py"], "one", false⟩,
    ⟨⟨["app", "two.py"]⟩, ["app", "two.py"], "two", false⟩]

theorem sourceFiles_twoPages : twoPages.sourceFiles ["app"] = .ok twoPagesFiles := by
  have hbelow : (twoPages.locations.filterMap (below? ["app"])).filter (fun names =>
      isSourceName (names.getLastD "") && !names.dropLast.any isSkipped) =
        [["one.py"], ["two.py"]] := by
    decide
  have hsorted : twoPages.sourcesBelow ["app"] = [["one.py"], ["two.py"]] := by
    rw [Store.sourcesBelow_eq, hbelow, inPathOrder, List.mergeSort_of_pairwise (by decide)]
    rfl
  have hfound : twoPages.sourcesOf "app" = .ok twoPagesFound := by
    have hfollow : (twoPages.follow (Path.ofText "app").names).toOption = some ["app"] := by
      decide +kernel
    refine Store.sourcesOf_eq_ok.2 ⟨["app"], mem_toOption.1 hfollow, .inl ⟨rfl, ?_⟩⟩
    rw [hsorted]
    decide +kernel
  have hfirst : twoPages.foundFiles ([] ++ ["app"]) = .ok twoPagesFound :=
    Store.foundFiles_concat.2 ⟨[], _, rfl, hfound, by decide +kernel⟩
  exact Store.sourceFiles_eq_ok.2 ⟨_, hfirst, .cons (by decide +kernel) (.cons (by decide +kernel) .nil)⟩

theorem not_endless_twoPages : ¬ twoPages.Endless ["app"] := by
  rw [← Store.sourceFiles_eq_endless, sourceFiles_twoPages]
  exact nofun

theorem isTree_twoPages : twoPages.IsTree :=
  ⟨by decide, by decide, by decide⟩

theorem holds_twoPages :
    ∀ f ∈ twoPagesFiles, f.Holds twoPages (twoPagesText f) (f.classesIn (twoPagesText f)) := by
  intro f hf
  have hpages : twoPages.item? f.location = some (.file (Utf8.encode (twoPagesText f))) ∧
      ((twoPagesText f).toList.head? ≠ some Source.encodingMark ∧
        Source.sourceEncoding? (Source.completeByteLines (Utf8.encode (twoPagesText f))) = none) ∧
      (inspect (.text (twoPagesText f)) f.moduleName f.path.text f.isPackage).toOption.isSome := by
    revert f
    decide +kernel
  exact holds_of_isSome hpages.1 hpages.2.1 hpages.2.2

/-- The second page becomes another one: the entry of the first stays. -/
theorem scanPaths_twoPages :
    (twoPages.IsTree ∧ (∀ path ∈ ["app"], (twoPages.at? (Path.ofText path)).isSome) ∧
      ∀ files, twoPages.sourceFiles ["app"] = .ok files →
        ∀ f ∈ files, f.Holds twoPages (twoPagesText f) (f.classesIn (twoPagesText f))) ∧
    ¬ twoPages.Endless ["app"] ∧ ∃ scan scan',
      (scanPaths .plain .none twoPages ⟨"route", "sitemap_url"⟩ true ["app"]).result = .ok scan ∧
      (scanPaths .plain .none (twoPages.set ["app", "two.py"] (.file (Utf8.encode (pageSource "/new"))))
        ⟨"route", "sitemap_url"⟩ true ["app"]).result = .ok scan' ∧
      scan.entries.map (·.template) = ["/one", "/two"] ∧
      scan'.entries.map (·.template) = ["/one", "/new"] := by
  have hexists : ∀ path ∈ ["app"], (twoPages.at? (Path.ofText path)).isSome := by decide
  have hfound : ∀ files, twoPages.sourceFiles ["app"] = .ok files →
      ∀ f ∈ files, f.Holds twoPages (twoPagesText f) (f.classesIn (twoPagesText f)) := by
    intro files hfiles
    cases sourceFiles_twoPages.symm.trans hfiles
    exact holds_twoPages
  refine ⟨⟨isTree_twoPages, hexists, hfound⟩, not_endless_twoPages, ?_⟩
  obtain ⟨files, hfiles, -, hchange⟩ :=
    (scanPaths_tree isTree_twoPages hexists hfound .plain ⟨"route", "sitemap_url"⟩ true).2
      not_endless_twoPages
  cases sourceFiles_twoPages.symm.trans hfiles
  have hold : twoPages.item? ["app", "two.py"] =
      some (.file (Utf8.encode (pageSource "/two"))) := rfl
  have hnew : (SourceFile.mk ⟨["app", "two.py"]⟩ ["app", "two.py"] "two" false).Holds
      (twoPages.set ["app", "two.py"] (.file (Utf8.encode (pageSource "/new")))) (pageSource "/new")
      (SourceFile.classesIn ⟨⟨["app", "two.py"]⟩, ["app", "two.py"], "two", false⟩
        (pageSource "/new")) :=
    holds_of_isSome rfl (by decide +kernel) (by decide +kernel)
  obtain ⟨hscan, hscan'⟩ := hchange [_] _ [] rfl _ _ _ (isTree_twoPages.set hold _)
    (Store.differsOnlyAt_set hold _) hnew
  exact ⟨_, _, hscan, hscan', by decide +kernel, by decide +kernel⟩

theorem holds_rootPackage {f : SourceFile} {content : List UInt8}
    (h : rootPackage.item? f.location = some (.file content)) : f.Holds rootPackage "" [] := by
  have hempty : ∀ p ∈ rootPackage.items, ∀ content, p.2 = .file content → content = [] := by
    simp [rootPackage]
  have hmem : (f.location, Item.file content) ∈ rootPackage.items := by
    unfold Store.item? at h
    split at h
    · cases h
    · obtain ⟨before, after, hitems, -⟩ := List.lookup_eq_some_iff.1 h
      rw [hitems]
      exact List.mem_append_right _ List.mem_cons_self
  rw [hempty _ hmem content rfl] at h
  exact ⟨h, ⟨by decide, by decide⟩, rfl⟩

/-- Files without classes in a package are never scanned if the working directory is a package. -/
theorem scanPaths_rootPackage :
    (rootPackage.IsTree ∧ (∀ path ∈ ["app"], (rootPackage.at? (Path.ofText path)).isSome) ∧
      ∀ (f : SourceFile) (content : List UInt8),
        rootPackage.item? f.location = some (.file content) → f.Holds rootPackage "" []) ∧
    ∀ scan, (scanPaths .plain .none rootPackage {} false ["app"]).result ≠ .ok scan := by
  refine ⟨⟨isTree_rootPackage, by decide, fun _ _ => holds_rootPackage⟩, ?_⟩
  rw [scanPaths_eq_endless.2 endless_rootPackage]
  exact fun _ => nofun

end Sitemap
