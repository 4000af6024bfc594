import Sitemap.Proofs.Command.Arguments
import Sitemap.Proofs.Command.Sessions
import Sitemap.Proofs.Store.Modules

/-!
# Running again

* `Options.Generates` : a command line for the generated module;
* `Session.exists_generate`, `Session.generate_of_endless` : a log on the console leaves the files
  alone, whether a scan is delivered or never ends;
* `runWith_eq_status`, `runWith_of_holdsText` : what a successful run has found and done, and what
  a run does once the module is there;
* `run_converges` : after a successful run the module is there, also if it is scanned itself, and
  another run leaves everything alone or never ends.
-/

namespace Sitemap

/-! ## Command lines -/

namespace Options

/-- A command line asks for the generated module, and for no log in a file. -/
structure Generates (o : Options) : Prop where
  help : o.help = false
  check : o.check = false
  preview : o.preview = none
  logFile : o.logFile = ""

end Options

/-! ## Sessions -/

theorem Logging.write_console {l : Logging} (h : l.handlers = [.console]) (time : String) :
    l.write time = RecordEffect.none := by
  funext s r
  rw [Logging.write, h]
  split <;> rfl

namespace Command

section Sessions
variable {s : Session}

theorem Session.exists_recordAll (h : s.logging.handlers = [.console]) (rs : List Log.Record) :
    ∃ errors, s.recordAll rs = { s with errors } := by
  unfold Session.recordAll
  induction rs generalizing s with
  | nil => exact ⟨s.errors, rfl⟩
  | cons r rest ih =>
    have hrecord : s.record r = { s with errors := s.errors ++ s.logging.console s.time r } := by
      rw [Session.record, Session.effect, Logging.write_console h, RecordEffect.none]
    obtain ⟨errors, hrest⟩ := ih (s := s.record r) (by rw [hrecord]; exact h)
    rw [hrecord] at hrest
    exact ⟨errors, by rw [List.foldl_cons, hrecord, hrest]⟩

theorem Session.exists_summarize (s : Session) (scan : PathScan) :
    ∃ errors, s.summarize scan = { s with errors } := by
  unfold Session.summarize
  have hnotes : ∀ (omitted : List Omitted) (s : Session), ∃ errors,
      omitted.foldl (fun s o => s.note ("  omitted " ++ o.describe)) s = { s with errors } := by
    intro omitted
    induction omitted with
    | nil => exact fun s => ⟨s.errors, rfl⟩
    | cons o rest ih =>
      intro s
      obtain ⟨errors, hrest⟩ := ih (s.note ("  omitted " ++ o.describe))
      exact ⟨errors, hrest⟩
  obtain ⟨errors, hall⟩ := hnotes scan.omitted (s.note scan.summary)
  exact ⟨errors, hall⟩

theorem Session.fail_ending (s : Session) (fault : Fault) :
    (s.fail fault).ending ≠ .status 0 := by
  unfold Session.fail Session.finish
  split
  · simp
  · simp

theorem Session.scan_eq (h : s.logging.handlers = [.console]) (config : Config) :
    s.scan config =
      scanPaths s.decoders .none s.store config.names config.reportOmitted config.sources := by
  rw [scan, effect, Logging.write_console h]

theorem Session.exists_scanned (h : s.logging.handlers = [.console]) (config : Config)
    (found : PathScan) : ∃ errors, s.scanned config found = { s with errors } := by
  obtain ⟨before, hbefore⟩ := s.exists_recordAll h (s.scan config).records
  obtain ⟨errors, herrors⟩ := ({ s with errors := before } : Session).exists_summarize found
  exact ⟨errors, by rw [scanned, hbefore, herrors]⟩

theorem Session.exists_generate (h : s.logging.handlers = [.console]) (o : Options)
    {config : Config} {found : PathScan}
    (hfound : (scanPaths s.decoders .none s.store config.names config.reportOmitted
      config.sources).result = .ok found) :
    ∃ errors, s.generate o config = ({ s with errors } : Session).deliver o config found := by
  rw [← Session.scan_eq h] at hfound
  obtain ⟨errors, herrors⟩ := s.exists_scanned h config found
  exact ⟨errors, by rw [generate_of_found o hfound, herrors]⟩

/-- A scan that never ends is not delivered. -/
theorem Session.generate_of_endless (h : s.logging.handlers = [.console]) (o : Options)
    {config : Config} (hendless : s.store.Endless config.sources) :
    ∃ errors, s.generate o config = ({ s with errors } : Session).finish .endless := by
  have hscan : (s.scan config).result = .error .endless := scanPaths_eq_endless.2 hendless
  obtain ⟨errors, herrors⟩ := s.exists_recordAll h (s.scan config).records
  unfold scan at hscan herrors
  exact ⟨errors, by simp only [generate, hscan, herrors]⟩

/-- A session whose scan finds nothing does not end well. -/
theorem Session.generate_ending_of_error (o : Options) {config : Config} {stop : Stop ScanFault}
    (h : (s.scan config).result = .error stop) : (s.generate o config).ending ≠ .status 0 := by
  rcases s.generate_cases o config with ⟨t, -, -, hend⟩ | ⟨fault, t, -, -, hfail⟩ |
    ⟨found, hfound, -⟩
  · rw [hend]
    exact nofun
  · rw [hfail]
    exact fail_ending t _
  · cases h.symm.trans hfound

/-- A run that does not fail has found entries. -/
theorem Session.finds_of_generate (h : s.logging.handlers = [.console]) {o : Options}
    {config : Config} (hending : (s.generate o config).ending = .status 0) :
    ∃ entries, s.store.Finds s.decoders config.names config.sources entries := by
  cases hscan : (s.scan config).result with
  | error stop => exact absurd hending (generate_ending_of_error o hscan)
  | ok found =>
    rw [Session.scan_eq h] at hscan
    exact ⟨found.entries, (Store.finds_iff config.reportOmitted).2 ⟨found, hscan, rfl⟩⟩

/-- A session that writes without a fault leaves the files as the writing does. -/
theorem Session.write_eq_status (h : s.logging.handlers = [.console]) {path source : String}
    (hending : (s.write path source).ending = .status 0) :
    (∃ b, (s.store.writeModule path source).outcome = .ok b) ∧
      (s.write path source).store = (s.store.writeModule path source).store := by
  unfold Session.write at hending ⊢
  generalize s.store.writeModule path source = written at hending
  obtain ⟨errors, hrecords⟩ :=
    ({ s with store := written.store } : Session).exists_recordAll h written.records
  simp only [hrecords] at hending ⊢
  cases houtcome : written.outcome with
  | error fault =>
    rw [houtcome] at hending
    exact absurd hending (Session.fail_ending _ _)
  | ok b => cases b <;> exact ⟨⟨_, rfl⟩, rfl⟩

theorem Session.write_of_holdsText (h : s.logging.handlers = [.console]) {path source : String}
    (hholds : s.store.holdsText path source = .ok true) :
    (s.write path source).store = s.store ∧ (s.write path source).ending = .status 0 ∧
      ∃ before, (s.write path source).errors =
        before ++ stripSequences ("Unchanged " ++ path) ++ "\n" := by
  unfold Session.write Store.writeModule
  simp only [hholds]
  obtain ⟨errors, hrecords⟩ := s.exists_recordAll h
    [⟨.renderer, .info, "Generated module is up to date: " ++ path⟩]
  rw [hrecords]
  exact ⟨rfl, rfl, errors, rfl⟩

theorem Session.check_of_holdsText {path source : String}
    (hholds : s.store.holdsText path source = .ok true) :
    (s.check path source).store = s.store ∧ (s.check path source).ending = .status 0 := by
  unfold Session.check
  rw [hholds]
  exact ⟨rfl, rfl⟩

end Sessions

/-! ## Runs -/

section Runs
variable {store : Store} {i : Invocation} {o : Options} {config : Config}

theorem setup_console (hlog : o.logFile = "") {n : Nat}
    (hlevel : Log.threshold o.level = .number n) :
    Logging.setup store o.level o.logFile = .ok (store, ⟨n, [.console]⟩) := by
  have hempty : o.logFile.isEmpty = true := by
    rw [hlog]
    rfl
  simp only [Logging.setup, hlevel, hempty, if_true]

theorem runWith_eq_generate (hhelp : o.help = false) (hlog : o.logFile = "")
    (hconfig : o.config i.environment = config) (hverify : o.verify store = .ok ()) {n : Nat}
    (hlevel : Log.threshold o.level = .number n) :
    runWith store i o = (opening store ⟨n, [.console]⟩ i).generate o config := by
  rw [← hconfig]
  exact runWith_of_setup hhelp hverify (setup_console hlog hlevel)

/-- What a run needs to come to its scan. -/
theorem runWith_verified (hhelp : o.help = false)
    (hending : (runWith store i o).ending = .status 0) :
    o.verify store = .ok () ∧ ∃ n, Log.threshold o.level = .number n := by
  rcases runWith_cases store i o with ⟨hhelp', -⟩ | ⟨-, fault, -, hrun⟩ |
    ⟨-, -, fault, -, hrun⟩ | ⟨-, hverify, opened, logging, hsetup, -⟩
  · cases hhelp.symm.trans hhelp'
  · rw [hrun] at hending
    cases hending
  · rw [hrun] at hending
    cases hending
  · refine ⟨hverify, ?_⟩
    cases hlevel : Log.threshold o.level with
    | number n => exact ⟨n, rfl⟩
    | text t =>
      simp only [Logging.setup, hlevel] at hsetup
      cases hsetup
    | table t =>
      simp only [Logging.setup, hlevel] at hsetup
      cases hsetup

/-- A run for the generated module that does not fail finds entries and writes their module. -/
theorem runWith_eq_status (ho : o.Generates) (hconfig : o.config i.environment = config)
    (hending : (runWith store i o).ending = .status 0) :
    ∃ entries, store.Finds i.decoders config.names config.sources entries ∧
      let written := store.writeModule config.output
        (GeneratedModule.ofEntries entries config.escape)
      (∃ b, written.outcome = .ok b) ∧ (runWith store i o).store = written.store := by
  obtain ⟨hverify, n, hlevel⟩ := runWith_verified ho.help hending
  rw [runWith_eq_generate ho.help ho.logFile hconfig hverify hlevel] at hending ⊢
  have hconsole : (opening store ⟨n, [.console]⟩ i).logging.handlers = [.console] := rfl
  obtain ⟨entries, hfinds⟩ := Session.finds_of_generate hconsole hending
  obtain ⟨found, hfound, rfl⟩ := (Store.finds_iff config.reportOmitted).1 hfinds
  obtain ⟨errors, hgenerate⟩ := Session.exists_generate hconsole o hfound
  simp only [hgenerate, Session.deliver, ho.preview, ho.check, Bool.false_eq_true, if_false]
    at hending ⊢
  exact ⟨found.entries, hfinds, Session.write_eq_status
    (s := { opening store ⟨n, [.console]⟩ i with errors }) hconsole hending⟩

/-- A run leaves everything alone if its module is there. -/
theorem runWith_of_holdsText (hhelp : o.help = false) (hpreview : o.preview = none)
    (hlog : o.logFile = "") (hconfig : o.config i.environment = config)
    (hverify : o.verify store = .ok ()) {n : Nat} (hlevel : Log.threshold o.level = .number n)
    {entries : List Entry}
    (hfinds : store.Finds i.decoders config.names config.sources entries)
    (hholds : store.holdsText config.output
      (GeneratedModule.ofEntries entries config.escape) = .ok true) :
    (runWith store i o).store = store ∧ (runWith store i o).ending = .status 0 ∧
      (o.check = false → ∃ before, (runWith store i o).errors =
        before ++ stripSequences ("Unchanged " ++ config.output) ++ "\n") := by
  rw [runWith_eq_generate hhelp hlog hconfig hverify hlevel]
  have hconsole : (opening store ⟨n, [.console]⟩ i).logging.handlers = [.console] := rfl
  obtain ⟨found, hfound, rfl⟩ := (Store.finds_iff config.reportOmitted).1 hfinds
  obtain ⟨errors, hgenerate⟩ := Session.exists_generate hconsole o hfound
  rw [hgenerate, Session.deliver, hpreview]
  cases hcheck : o.check with
  | true =>
    obtain ⟨hstore, hending⟩ := Session.check_of_holdsText
      (s := { opening store ⟨n, [.console]⟩ i with errors }) hholds
    exact ⟨hstore, hending, nofun⟩
  | false =>
    obtain ⟨hstore, hending, herrors⟩ := Session.write_of_holdsText
      (s := { opening store ⟨n, [.console]⟩ i with errors }) hconsole hholds
    exact ⟨hstore, hending, fun _ => herrors⟩

/-- A run whose scan never ends does not end, and leaves everything alone. -/
theorem runWith_of_endless (hhelp : o.help = false) (hlog : o.logFile = "")
    (hconfig : o.config i.environment = config) (hverify : o.verify store = .ok ()) {n : Nat}
    (hlevel : Log.threshold o.level = .number n) (hendless : store.Endless config.sources) :
    (runWith store i o).store = store ∧ (runWith store i o).ending = .endless := by
  rw [runWith_eq_generate hhelp hlog hconfig hverify hlevel]
  obtain ⟨errors, hgenerate⟩ :=
    Session.generate_of_endless (s := opening store ⟨n, [.console]⟩ i) rfl o hendless
  rw [hgenerate]
  exact ⟨rfl, rfl⟩

/-- The file that the module is written to has no entry when it is scanned. -/
def AddsNothing (store : Store) (decoders : Decoders) (config : Config) : Prop :=
  ∀ files, store.sourceFiles config.sources = .ok files → ∀ f ∈ files,
    store.locate f.path.text = store.locate config.output →
      ∀ ds, f.declarations decoders store = .ok ds → scanEntries config.names ds = []

instance (store : Store) (decoders : Decoders) (config : Config) :
    Decidable (AddsNothing store decoders config) :=
  decidable_of_iff (∀ files ∈ (store.sourceFiles config.sources).toOption, ∀ f ∈ files,
    store.locate f.path.text = store.locate config.output →
      ∀ ds ∈ (f.declarations decoders store).toOption,
        (scanEntries config.names ds).isEmpty = true) <| by
    simp only [AddsNothing, mem_toOption, List.isEmpty_iff]

theorem verify_mono {t : Store} (hholds : ∀ path, store.holds path = true → t.holds path = true)
    (hverify : o.verify store = .ok ()) : o.verify t = .ok () := by
  unfold Options.verify at hverify ⊢
  split at hverify
  · cases hverify
  · rename_i hlevel
    rw [if_neg hlevel]
    split at hverify
    · cases hverify
    · rename_i hfound
      have hall : o.paths.find? (fun path => !t.holds path) = none := by
        rw [List.find?_eq_none] at hfound ⊢
        intro path hmem
        simpa using hholds path (by simpa using hfound path hmem)
      rw [hall]

/-- After a run for the generated module that does not fail, the module is there, its paths lead to
something still, no package is new, and a scan that ends finds its entries. -/
theorem runWith_settles (ho : o.Generates) (hconfig : o.config i.environment = config)
    (hparent : (Store.splitPath config.output).1 = "" ∨
      store.isDirectory (Store.splitPath config.output).1 = true)
    (hname : (Path.ofText config.output).name ≠ packageFile)
    (hprevious : AddsNothing store i.decoders config)
    (hending : (runWith store i o).ending = .status 0) :
    ∃ entries, (∀ e ∈ entries, e.priority.IsFinite) ∧
      store.Finds i.decoders config.names config.sources entries ∧
      (¬ (runWith store i o).store.Endless config.sources →
        (runWith store i o).store.Finds i.decoders config.names config.sources entries) ∧
      (∀ names, (runWith store i o).store.isPackage names = store.isPackage names) ∧
      (runWith store i o).store.holdsText config.output
        (GeneratedModule.ofEntries entries config.escape) = .ok true ∧
      o.verify (runWith store i o).store = .ok () := by
  obtain ⟨hverify, -⟩ := runWith_verified ho.help hending
  obtain ⟨entries, hfinds, ⟨b, hb⟩, hstore⟩ := runWith_eq_status ho hconfig hending
  have hfinite : ∀ e ∈ entries, e.priority.IsFinite := hfinds.isFinite
  refine ⟨entries, hfinite, hfinds, ?_⟩
  rw [hstore]
  rcases Store.writeModule_eq_ok hparent hb with ⟨hholds, hsame⟩ | ⟨at_, hat, hset⟩
  · rw [hsame]
    exact ⟨fun _ => hfinds, fun _ => rfl, hholds, hverify⟩
  · rw [hset]
    refine ⟨fun hends => hat.finds_set hname ?_ ?_ hends hfinds, hat.isPackage_set hname _,
      hat.holdsText_set ?_, ?_⟩
    · exact GeneratedModule.inspect_ofEntries i.decoders hfinite config.escape
    · intro files hfiles f hf hleads
      unfold SourceFile.entries SourceFile.classes
      cases hds : f.declarations i.decoders store with
      | error fault => rfl
      | ok ds => exact hprevious files hfiles f hf (hleads.trans hat.locate.symm) ds hds
    · exact GeneratedModule.carriageReturn_not_mem_ofEntries hfinite config.escape
    · exact verify_mono (fun path => hat.holds_set _) hverify

/-- Generation converges: after a run that wrote a module without a fault, the same run leaves every
file alone and says so, and a check passes. The module may be one of the files that are scanned: it
parses and declares no class, so that the scan finds the same entries as before. Only where listing
the sources never ends once the module is among them, which takes a working directory that is a
package, neither the run nor the check ends. -/
theorem run_converges (hread : Options.read i.arguments = .ok o) (ho : o.Generates)
    (hparent : (Store.splitPath (o.config i.environment).output).1 = "" ∨
      store.isDirectory (Store.splitPath (o.config i.environment).output).1 = true)
    (hname : (Path.ofText (o.config i.environment).output).name ≠ packageFile)
    (hprevious : AddsNothing store i.decoders (o.config i.environment))
    (hending : (run store i).ending = .status 0) (time : String) :
    let config := o.config i.environment
    let after := (run store i).store
    let again := run after { i with time }
    let check := run after { i with time, arguments := "--check" :: i.arguments }
    again.store = after ∧ check.store = after ∧
    (after.Endless config.sources →
      store.isPackage [] = true ∧ again.ending = .endless ∧ check.ending = .endless) ∧
    (¬ after.Endless config.sources →
      again.ending = .status 0 ∧
      (∃ before,
        again.errors = before ++ stripSequences ("Unchanged " ++ config.output) ++ "\n") ∧
      check.ending = .status 0) ∧
    ∃ entries, store.Finds i.decoders config.names config.sources entries ∧
      (¬ after.Endless config.sources →
        after.Finds i.decoders config.names config.sources entries) ∧
      ∀ moduleName path isPackage, inspect (.bytes i.decoders (Utf8.encode
        (GeneratedModule.ofEntries entries config.escape))) moduleName path isPackage = .ok [] := by
  intro config after again check
  have hrun : run store i = runWith store i o := run_of_read hread
  rw [hrun] at hending
  obtain ⟨-, n, hlevel⟩ := runWith_verified ho.help hending
  obtain ⟨entries, hfinite, hbefore, hafter, hpackage, hholds, hverify⟩ :=
    runWith_settles ho rfl hparent hname hprevious hending
  rw [← hrun] at hafter hpackage hholds hverify
  have hagain : again = runWith after { i with time } o := run_of_read hread
  have hcheck : check =
      runWith after { i with time, arguments := "--check" :: i.arguments } o.checking :=
    run_of_read (by rw [Options.read_check, hread, Except.map])
  have hmodule := GeneratedModule.inspect_ofEntries i.decoders hfinite config.escape
  rw [hagain, hcheck]
  by_cases hends : after.Endless config.sources
  · obtain ⟨hstore, hstatus⟩ :=
      runWith_of_endless (i := { i with time }) ho.help ho.logFile rfl hverify hlevel hends
    obtain ⟨hstore', hstatus'⟩ := runWith_of_endless (o := o.checking)
      (i := { i with time, arguments := "--check" :: i.arguments }) ho.help ho.logFile rfl
      hverify hlevel hends
    have hroot : store.isPackage [] = true := (hpackage []).symm.trans hends.isPackage
    exact ⟨hstore, hstore', fun _ => ⟨hroot, hstatus, hstatus'⟩, absurd hends,
      entries, hbefore, absurd hends, hmodule⟩
  · obtain ⟨hstore, hstatus, herrors⟩ := runWith_of_holdsText (i := { i with time }) ho.help
      ho.preview ho.logFile rfl hverify hlevel (hafter hends) hholds
    obtain ⟨hstore', hstatus', -⟩ := runWith_of_holdsText (o := o.checking)
      (i := { i with time, arguments := "--check" :: i.arguments }) ho.help ho.preview ho.logFile
      rfl hverify hlevel (hafter hends) hholds
    exact ⟨hstore, hstore', fun h => absurd h hends, fun _ => ⟨hstatus, herrors ho.check, hstatus'⟩,
      entries, hbefore, hafter, hmodule⟩

end Runs

def pageStore : Store where
  items := [(["page.py"], .file (Utf8.encode ("from sitemap_codegen import route, sitemap_url\n" ++
    "@route(\"/\")\n@sitemap_url()\nclass Page: ...\n")))]

def pageRun (time : String) : Invocation where
  program := "sitemap-codegen"
  arguments := ["--route-annotation", "route", "."]
  environment := {}
  time := time

def pageOptions : Options where
  paths := ["."]
  routeName := some "route"

theorem pageRun_status : (run pageStore (pageRun "first")).ending = .status 0 := by decide +kernel

theorem read_pageRun : Options.read (pageRun "first").arguments = .ok pageOptions := by decide

theorem pageOptions_generates : pageOptions.Generates := ⟨rfl, rfl, rfl, rfl⟩

theorem run_pageStore :
    (Options.read (pageRun "first").arguments = .ok pageOptions ∧ pageOptions.Generates ∧
      (Store.splitPath (pageOptions.config {}).output).1 = "" ∧
      (Path.ofText (pageOptions.config {}).output).name ≠ packageFile ∧
      AddsNothing pageStore .plain (pageOptions.config {}) ∧
      (run pageStore (pageRun "first")).ending = .status 0) ∧
    let after := (run pageStore (pageRun "first")).store
    ¬ after.Endless (pageOptions.config {}).sources ∧
    (run after (pageRun "again")).ending = .status 0 ∧
    (run after (pageRun "again")).store = after ∧
    (∃ before, (run after (pageRun "again")).errors =
      before ++ stripSequences "Unchanged sitemap_generated.py" ++ "\n") ∧
    (run after { pageRun "again" with
      arguments := "--check" :: (pageRun "again").arguments }).ending = .status 0 := by
  have hparent : (Store.splitPath (pageOptions.config {}).output).1 = "" := by decide
  have hname : (Path.ofText (pageOptions.config {}).output).name ≠ packageFile := by decide
  have hprevious : AddsNothing pageStore .plain (pageOptions.config {}) := by decide +kernel
  have hroot : pageStore.isPackage [] = false := by decide
  obtain ⟨hstore, -, hforever, hconverges, -⟩ :=
    run_converges read_pageRun pageOptions_generates (.inl hparent) hname hprevious pageRun_status
      "again"
  have hends : ¬ (run pageStore (pageRun "first")).store.Endless (pageOptions.config {}).sources :=
    fun h => Bool.false_ne_true (hroot.symm.trans (hforever h).1)
  obtain ⟨hagain, hnote, hcheck⟩ := hconverges hends
  exact ⟨⟨read_pageRun, pageOptions_generates, hparent, hname, hprevious, pageRun_status⟩, hends,
    hagain, hstore, hnote, hcheck⟩

def packageStore : Store where
  items := [(["__init__.py"], .file []), (["app"], .directory), (["app", "__init__.py"], .file []),
    (["app", "x"], .directory)]

/-- A run that lists a package by a detour before it scans it, and writes the module there. -/
def packageRun (time : String) : Invocation where
  program := "sitemap-codegen"
  arguments := ["app/x/../__init__.py", "app", "-o", "app/pages.py"]
  environment := {}
  time := time

def packageOptions : Options where
  paths := ["app/x/../__init__.py", "app"]
  output := some "app/pages.py"

/-- The files after that run, whatever its module holds. -/
def packagedModule (content : List UInt8) : Store :=
  packageStore.set ["app", "pages.py"] (.file content)

theorem read_packageRun : Options.read (packageRun "first").arguments = .ok packageOptions := by
  decide

theorem packageRun_status : (run packageStore (packageRun "first")).ending = .status 0 := by
  decide +kernel

theorem exists_packagedModule :
    ∃ content, (run packageStore (packageRun "first")).store = packagedModule content := by
  have hending := packageRun_status
  rw [run_of_read read_packageRun] at hending ⊢
  obtain ⟨entries, -, ⟨b, hb⟩, hstore⟩ := runWith_eq_status ⟨rfl, rfl, rfl, rfl⟩ rfl hending
  rw [hstore]
  rcases Store.writeModule_eq_ok (.inr (by decide)) hb with ⟨hholds, -⟩ | ⟨at_, hat, hset⟩
  · cases hholds
  · cases hat.locate
    exact ⟨_, hset⟩

/-- The module that the run has written is one more source of the package. -/
theorem endless_packagedModule (content : List UInt8) :
    (packagedModule content).Endless packageOptions.paths := by
  have hlocations : (packagedModule content).locations = [["__init__.py"], ["app"],
      ["app", "__init__.py"], ["app", "x"], ["app", "pages.py"]] := rfl
  have hmodule : ["pages.py"] ∈ (packagedModule content).sourcesBelow ["app"] := by
    rw [Store.mem_sourcesBelow, hlocations]
    exact ⟨[], _, rfl, by decide, nofun, by decide⟩
  have hfirst : (packagedModule content).sourcesOf "app/x/../__init__.py" =
      .ok [⟨⟨["app", "x", ".."]⟩, ["app"], ["__init__.py"]⟩] := rfl
  have hclimbs : (packagedModule content).ClimbsForever (Path.ofText "app").names := by
    rw [show (Path.ofText "app").names = [] ++ ["app"] by decide, Store.climbsForever_concat,
      Store.climbsForever_nil]
    exact ⟨rfl, rfl⟩
  refine ⟨["app/x/../__init__.py"], "app", [], rfl, List.forall_mem_singleton.2 rfl, _,
    Store.findsFile_directory rfl rfl hmodule, hclimbs, ?_⟩
  rw [List.forall_mem_singleton]
  rintro g ⟨found, hfound, hg⟩
  cases hfirst.symm.trans hfound
  rw [List.mem_singleton.1 hg]
  decide

/-- A run that succeeds once does not end when it is repeated. -/
theorem run_packageStore :
    (Options.read (packageRun "first").arguments = .ok packageOptions ∧
      packageOptions.Generates ∧
      packageStore.isDirectory (Store.splitPath (packageOptions.config {}).output).1 = true ∧
      (Path.ofText (packageOptions.config {}).output).name ≠ packageFile ∧
      AddsNothing packageStore .plain (packageOptions.config {}) ∧
      (run packageStore (packageRun "first")).ending = .status 0) ∧
    let after := (run packageStore (packageRun "first")).store
    (run after (packageRun "again")).ending = .endless := by
  have ho : packageOptions.Generates := ⟨rfl, rfl, rfl, rfl⟩
  have hprevious : AddsNothing packageStore .plain (packageOptions.config {}) := by decide +kernel
  refine ⟨⟨read_packageRun, ho, by decide, by decide, hprevious, packageRun_status⟩, ?_⟩
  intro after
  obtain ⟨content, hafter⟩ := exists_packagedModule
  rw [show after = packagedModule content from hafter,
    run_of_read (i := packageRun "again") read_packageRun]
  exact (runWith_of_endless ho.help ho.logFile rfl rfl (n := 30) (by decide)
    (endless_packagedModule content)).2

end Command

end Sitemap
