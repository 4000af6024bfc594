import Sitemap.Proofs.GeneratedModule.Inspection
import Sitemap.Proofs.Priority.Clamping
import Sitemap.Proofs.Scan.Decorators
import Sitemap.Proofs.Scan.Files
import Sitemap.Proofs.Scan.Partition

/-!
# Scanning again

* `priority_of_mem_scanEntries` : the priorities of entries that are found are from 0 to 1;
* `Store.Finds` : a scan of paths finds entries;
* `IsTarget.finds_set` : a scan finds the same entries after a module without classes has taken the
  place of a file that had none of them.
-/

namespace Sitemap

/-! ## Priorities -/

theorem Value.IsNumber.exists_asPoint? {v : Value} (h : v.IsNumber) : ∃ p, v.asPoint? = some p := by
  cases h with
  | integer h => cases h <;> exact ⟨_, rfl⟩
  | float x => exact ⟨_, rfl⟩

theorem priority_of_mem_scanEntries {names : ScanNames} {ds : List Declaration} {e : Entry}
    (h : e ∈ scanEntries names ds) : Priority.InRange e.priority ∧ e.priority ≠ .zero true := by
  obtain ⟨d, -, hd⟩ := List.mem_filterMap.1 h
  split at hd
  · rename_i e' hscan
    cases hd
    obtain ⟨-, -, hentry⟩ := scan_eq_entry.1 hscan
    obtain ⟨_, _, _, _, -, -, -, -, -, -, hnumber, hpriority⟩ := (entry?_eq_some d e).1 hentry
    obtain ⟨p, hp⟩ := hnumber.exists_asPoint?
    obtain ⟨x, hx, hrange, hsign, -⟩ := Priority.exists_ofValue_inRange hp
    obtain rfl : x = e.priority := Except.ok.inj (hx.symm.trans hpriority)
    exact ⟨hrange, hsign⟩
  · cases hd

theorem inRange_of_mem_scanEntries {names : ScanNames} {ds : List Declaration} {e : Entry}
    (h : e ∈ scanEntries names ds) : Priority.InRange e.priority :=
  (priority_of_mem_scanEntries h).1

theorem isFinite_of_mem_scanEntries {names : ScanNames} {ds : List Declaration} {e : Entry}
    (h : e ∈ scanEntries names ds) : e.priority.IsFinite :=
  (inRange_of_mem_scanEntries h).isFinite

/-! ## What a scan finds -/

def SourceFile.entries (decoders : Decoders) (s : Store) (names : ScanNames) (f : SourceFile) :
    List Entry :=
  scanEntries names (f.classes decoders s)

/-- A scan of paths finds entries: those of each file, in order. -/
def Store.Finds (s : Store) (decoders : Decoders) (names : ScanNames) (paths : List String)
    (entries : List Entry) : Prop :=
  ∃ files, s.sourceFiles paths = .ok files ∧ (∀ f ∈ files, ∃ ds, f.declarations decoders s = .ok ds) ∧
    entries = files.flatMap (·.entries decoders s names)

theorem Store.finds_iff {s : Store} {decoders : Decoders} {names : ScanNames} {paths : List String}
    {entries : List Entry} (diagnose : Bool) : s.Finds decoders names paths entries ↔
      ∃ scan, (scanPaths decoders .none s names diagnose paths).result = .ok scan ∧
        scan.entries = entries := by
  simp only [scanPaths_eq_ok]
  constructor
  · rintro ⟨files, hfiles, hok, rfl⟩
    exact ⟨_, ⟨files, hfiles, hok, rfl⟩, rfl⟩
  · rintro ⟨scan, ⟨files, hfiles, hok, rfl⟩, rfl⟩
    exact ⟨files, hfiles, hok, rfl⟩

theorem Store.Finds.isFinite {s : Store} {decoders : Decoders} {names : ScanNames} {paths : List String}
    {entries : List Entry} (h : s.Finds decoders names paths entries) :
    ∀ e ∈ entries, e.priority.IsFinite := by
  obtain ⟨files, -, -, rfl⟩ := h
  intro e he
  obtain ⟨f, -, hf⟩ := List.mem_flatMap.1 he
  exact isFinite_of_mem_scanEntries hf

/-! ## A module without classes -/

namespace Store

section Write
variable {s : Store} {decoders : Decoders} {path : String} {at_ : Location}
  {content : List UInt8} {f : SourceFile}

theorem IsTarget.declarations_set_of_ne (h : s.IsTarget path at_)
    (hf : s.locate f.path.text ≠ .ok at_) {ds : List Declaration} :
    f.declarations decoders (s.set at_ (.file content)) = .ok ds ↔ f.declarations decoders s = .ok ds := by
  unfold SourceFile.declarations
  simp only [bind_eq_ok, mapError_eq_ok, h.readBytes_set_of_ne content hf]

theorem IsTarget.declarations_set (h : s.IsTarget path at_)
    (hmodule : ∀ moduleName path isPackage,
      inspect (.bytes decoders content) moduleName path isPackage = .ok [])
    (hf : s.locate f.path.text = .ok at_) :
    f.declarations decoders (s.set at_ (.file content)) = .ok [] := by
  unfold SourceFile.declarations
  rw [h.readBytes_set content hf]
  simp only [mapError_ok, bind, Except.bind, hmodule]

/-- A module without classes may take the place of a file without entries: a scan finds the same
entries again, if the listing ends. -/
theorem IsTarget.finds_set {names : ScanNames} {paths : List String} {entries : List Entry}
    (h : s.IsTarget path at_) (hpackage : (Path.ofText path).name ≠ packageFile)
    (hmodule : ∀ moduleName path isPackage,
      inspect (.bytes decoders content) moduleName path isPackage = .ok [])
    (hold : ∀ files, s.sourceFiles paths = .ok files → ∀ f ∈ files,
      s.locate f.path.text = .ok at_ → f.entries decoders s names = [])
    (hends : ¬ (s.set at_ (.file content)).Endless paths)
    (hfinds : s.Finds decoders names paths entries) :
    (s.set at_ (.file content)).Finds decoders names paths entries := by
  obtain ⟨files, hfiles, hok, rfl⟩ := hfinds
  obtain ⟨files', hfiles', hsame⟩ := h.sourceFiles_set hpackage content hfiles hends
  have hold := hold files hfiles
  have hleads : ∀ f : SourceFile, s.locate f.path.text = .ok at_ →
      f.entries decoders (s.set at_ (.file content)) names = [] := fun f hf => by
    rw [SourceFile.entries, SourceFile.classes_of_ok (h.declarations_set hmodule hf)]
    rfl
  have hmem : ∀ f ∈ files', s.locate f.path.text ≠ .ok at_ → f ∈ files := by
    intro f hf hne
    have hlocation : f.location ≠ at_ := fun heq => hne ((h.locate_set content).1
      ((h.set content).locate_of_mem_sourceFiles hfiles' hf heq))
    have hfilter : f ∈ files'.filter (·.location ≠ at_) :=
      List.mem_filter.2 ⟨hf, by simpa using hlocation⟩
    rw [hsame] at hfilter
    exact (List.mem_filter.1 hfilter).1
  refine ⟨files', hfiles', fun f hf => ?_, ?_⟩
  · by_cases hne : s.locate f.path.text = .ok at_
    · exact ⟨[], h.declarations_set hmodule hne⟩
    · obtain ⟨ds, hds⟩ := hok f (hmem f hf hne)
      exact ⟨ds, (h.declarations_set_of_ne hne).2 hds⟩
  · -- both lists of files have their entries elsewhere
    have hbefore : (files.filter (·.location ≠ at_)).flatMap (·.entries decoders s names) =
        files.flatMap (·.entries decoders s names) :=
      flatMap_filter_eq fun f hf hat =>
        hold f hf (h.locate_of_mem_sourceFiles hfiles hf (by simpa using hat))
    have hafter : (files'.filter (·.location ≠ at_)).flatMap
          (·.entries decoders (s.set at_ (.file content)) names) =
        files'.flatMap (·.entries decoders (s.set at_ (.file content)) names) :=
      flatMap_filter_eq fun f hf hat => hleads f ((h.locate_set content).1
        ((h.set content).locate_of_mem_sourceFiles hfiles' hf (by simpa using hat)))
    rw [← hbefore, ← hafter, hsame]
    refine List.flatMap_congr fun f hf => ?_
    have hf := (List.mem_filter.1 hf).1
    by_cases hne : s.locate f.path.text = .ok at_
    · rw [hold f hf hne, hleads f hne]
    · obtain ⟨ds, hds⟩ := hok f hf
      rw [SourceFile.entries, SourceFile.entries, SourceFile.classes_of_ok hds,
        SourceFile.classes_of_ok ((h.declarations_set_of_ne hne).2 hds)]

end Write

end Store

end Sitemap
