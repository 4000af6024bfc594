import Sitemap.Proofs.Command.Convergence
import Sitemap.Proofs.Command.Sessions
import Sitemap.Proofs.Text.Terminal

/-!
# Runs in which an operation fails

* `Fault.IsOfFiles` : an operation on a file failed, or a source is unreadable;
* `Session.Raises`, `Raises` : an operation of a session, or of a run, fails;
* `inspectFiles_eq_error` : the first source that fails decides how a scan fails;
* `Session.generate_of_raises`, `Session.raises_of_escaped` : a session fails by what was raised;
* `run_faults` : how a run ends in which an operation on files fails.
-/

namespace Sitemap

/-! ## Scans that fail -/

def announced (effect : RecordEffect) (s : Store) (files : List SourceFile) : Store :=
  files.foldl (fun s f => effect s f.announcement) s

/-- Sources are inspected until the first of them fails. -/
theorem inspectFiles_eq_error {decoders : Decoders} {effect : RecordEffect} {s : Store}
    {files : List SourceFile} {fault : ScanFault} :
    (inspectFiles decoders effect s files).result = .error fault ↔
      ∃ before f after ds, files = before ++ f :: after ∧
        (inspectFiles decoders effect s before).result = .ok ds ∧
        f.declarations decoders (announced effect s (before ++ [f])) = .error fault := by
  induction files generalizing s with
  | nil => simp [inspectFiles, Logged.ok]
  | cons f rest ih =>
    have hstep : ∀ files, (inspectFiles decoders effect s (f :: files)).result = (do
        let found ← f.declarations decoders (effect s f.announcement)
        let others ← (inspectFiles decoders effect (effect s f.announcement) files).result
        return found ++ others) := by
      intro files
      simp only [inspectFiles, Logged.bind_result]
      rfl
    rw [hstep, bind_eq_error]
    constructor
    · rintro (h | ⟨found, hfound, h⟩)
      · exact ⟨[], f, rest, [], rfl, rfl, h⟩
      · rcases bind_eq_error.1 h with h | ⟨others, -, h⟩
        · obtain ⟨before, g, after, ds, rfl, hbefore, h⟩ := ih.1 h
          refine ⟨f :: before, g, after, found ++ ds, rfl, ?_, h⟩
          rw [hstep, hfound, hbefore]
          rfl
        · cases h
    · rintro ⟨before, g, after, ds, hsplit, hbefore, h⟩
      cases before with
      | nil =>
        obtain ⟨rfl, rfl⟩ := List.cons.inj hsplit
        exact .inl h
      | cons _ before =>
        obtain ⟨rfl, rfl⟩ := List.cons.inj hsplit
        rw [hstep] at hbefore
        obtain ⟨found, hfound, hbefore⟩ := bind_eq_ok.1 hbefore
        obtain ⟨others, hothers, -⟩ := bind_eq_ok.1 hbefore
        exact .inr ⟨found, hfound, bind_eq_error.2 (.inl (ih.2
          ⟨before, g, after, others, rfl, hothers, h⟩))⟩

namespace Command

/-- A fault of the files: an operation on one failed, or a source is unreadable. -/
inductive Fault.IsOfFiles : Fault → Prop
  | log (error : FileError) : IsOfFiles (.logging (.file error))
  | listing (path : MissingSource) : IsOfFiles (.scan (.missing path))
  | source (error : FileError) : IsOfFiles (.scan (.file error))
  | unreadable (path : String) : IsOfFiles (.scan (.inspection (.unreadable path)))
  | module_ (error : FileError) : IsOfFiles (.text (.file error))

theorem Fault.IsOfFiles.isReported {fault : Fault} (h : fault.IsOfFiles)
    (hlog : ∀ error, fault ≠ .logging (.file error)) : fault.isReported = true := by
  cases h with
  | log error => exact absurd rfl (hlog error)
  | listing | source | unreadable | module_ => rfl

namespace Session

/-- An operation of a session fails: its sources are not listed, one of them is not read or not
understood, the document is not encoded for a preview, the file of the module is not read, its
directory is not created, or it is not written. -/
inductive Raises (s : Session) (o : Options) (config : Config) : Fault → Prop
  | listing {path : MissingSource}
      (h : s.store.sourceFiles config.sources = .error (.fault path)) :
      s.Raises o config (.scan (.missing path))
  | source {files before after : List SourceFile} {f : SourceFile} {ds : List Declaration}
      {fault : ScanFault} (hfiles : s.store.sourceFiles config.sources = .ok files)
      (hsplit : files = before ++ f :: after)
      (hbefore : (inspectFiles s.decoders s.effect s.store before).result = .ok ds)
      (h : f.declarations s.decoders (announced s.effect s.store (before ++ [f])) = .error fault) :
      s.Raises o config (.scan fault)
  | printing {found : PathScan} {base : String} (hscan : (s.scan config).result = .ok found)
      (hpreview : o.preview = some base) (h : found.unpaired = true) :
      s.Raises o config .unencodable
  | comparing {found : PathScan} {fault : TextFault} (hscan : (s.scan config).result = .ok found)
      (hpreview : o.preview = none)
      (h : (s.scanned config found).store.holdsText config.output
        (GeneratedModule.ofEntries found.entries config.escape) = .error fault) :
      s.Raises o config (.text fault)
  | creating {found : PathScan} {error : FileError} (hscan : (s.scan config).result = .ok found)
      (hpreview : o.preview = none) (hcheck : o.check = false)
      (hstale : (s.scanned config found).store.holdsText config.output
        (GeneratedModule.ofEntries found.entries config.escape) = .ok false)
      (h : ((s.scanned config found).store.makeDirectories
        (Store.splitPath config.output).1).2 = some error) :
      s.Raises o config (.text (.file error))
  | writing {found : PathScan} {made : Store} {error : FileError}
      (hscan : (s.scan config).result = .ok found)
      (hpreview : o.preview = none) (hcheck : o.check = false)
      (hstale : (s.scanned config found).store.holdsText config.output
        (GeneratedModule.ofEntries found.entries config.escape) = .ok false)
      (hmade : (s.scanned config found).store.makeDirectories
        (Store.splitPath config.output).1 = (made, none))
      (h : made.writeBytes config.output (Utf8.encode
        (GeneratedModule.ofEntries found.entries config.escape)) = .error error) :
      s.Raises o config (.text (.file error))

section Raises
variable {s t : Session} {o : Options} {config : Config} {fault : Fault} {r : Outcome}

def FailsBy (s : Session) (fault : Fault) (r : Outcome) : Prop :=
  ∃ (t : Session) (lines : String), IsLines lines ∧ t.errors = s.errors ++ lines ∧ r = t.fail fault

theorem failsBy_fail (s : Session) (fault : Fault) : s.FailsBy fault (s.fail fault) :=
  ⟨s, "", .inl rfl, (String.append_empty).symm, rfl⟩

theorem Continues.failsBy (h : s.Continues t) (hr : t.FailsBy fault r) : s.FailsBy fault r := by
  obtain ⟨lines, hlines, ht⟩ := h.errors
  obtain ⟨u, more, hmore, hu, hr⟩ := hr
  exact ⟨u, lines ++ more, hlines.append hmore, by rw [hu, ht, String.append_assoc], hr⟩

theorem scan_eq_error {fault : ScanFault} : (s.scan config).result = .error (.fault fault) ↔
    (∃ path, s.store.sourceFiles config.sources = .error (.fault path) ∧ fault = .missing path) ∨
    ∃ files, s.store.sourceFiles config.sources = .ok files ∧
      (inspectFiles s.decoders s.effect s.store files).result = .error fault := by
  rw [scan, scanPaths_result, bind_eq_error]
  cases s.store.sourceFiles config.sources with
  | error stop => cases stop <;> simp [mapError_error, Stop.map, eq_comm]
  | ok files =>
    simp only [mapError_ok, bind_eq_error, mapError_eq_error]
    simp [pure, Except.pure]

theorem raises_of_scan (o : Options) {fault : ScanFault}
    (h : (s.scan config).result = .error (.fault fault)) : s.Raises o config (.scan fault) := by
  rcases scan_eq_error.1 h with ⟨path, hpath, rfl⟩ | ⟨files, hfiles, hinspect⟩
  · exact .listing hpath
  · obtain ⟨before, f, after, ds, hsplit, hbefore, hf⟩ := inspectFiles_eq_error.1 hinspect
    exact .source hfiles hsplit hbefore hf

theorem generate_of_scan (o : Options) {fault : ScanFault}
    (h : (s.scan config).result = .error (.fault fault)) :
    s.FailsBy (.scan fault) (s.generate o config) := by
  rcases s.generate_cases o config with ⟨t, hendless, -⟩ | ⟨fault', t, hscan, ht, hfail⟩ |
    ⟨found, hfound, -⟩
  · cases h.symm.trans hendless
  · cases h.symm.trans hscan
    rw [hfail]
    exact ht.failsBy (t.failsBy_fail _)
  · cases h.symm.trans hfound

theorem check_of_holdsText_error {path source : String} {fault : TextFault}
    (h : s.store.holdsText path source = .error fault) :
    s.check path source = s.fail (.text fault) := by
  unfold check
  rw [h]

theorem write_of_outcome {path source : String} {fault : TextFault}
    (h : (s.store.writeModule path source).outcome = .error fault) :
    s.FailsBy (.text fault) (s.write path source) := by
  obtain ⟨t, ht, ⟨fault', hfault, hfail⟩ | ⟨⟨b, hb⟩, -⟩⟩ := s.write_cases path source
  · cases h.symm.trans hfault
    obtain ⟨lines, hlines, herrors⟩ := ht.errors
    exact ⟨t, lines, hlines, herrors, hfail⟩
  · cases h.symm.trans hb

/-- A session in which an operation fails shows whole lines and then fails by it. -/
theorem generate_of_raises (h : s.Raises o config fault) :
    s.FailsBy fault (s.generate o config) := by
  have hwritten : ∀ {found : PathScan} {fault : TextFault},
      (s.scan config).result = .ok found → o.preview = none → o.check = false →
      ((s.scanned config found).store.writeModule config.output
        (GeneratedModule.ofEntries found.entries config.escape)).outcome = .error fault →
      s.FailsBy (.text fault) (s.generate o config) := by
    intro found fault hscan hpreview hcheck houtcome
    simp only [generate_of_found o hscan, deliver, hpreview, hcheck, Bool.false_eq_true, if_false]
    exact (s.continues_scanned config found).failsBy (write_of_outcome houtcome)
  cases h with
  | listing hlist => exact generate_of_scan o (scan_eq_error.2 (.inl ⟨_, hlist, rfl⟩))
  | source hfiles hsplit hbefore hf =>
    have hinspect := inspectFiles_eq_error.2 ⟨_, _, _, _, hsplit, hbefore, hf⟩
    exact generate_of_scan o (scan_eq_error.2 (.inr ⟨_, hfiles, hinspect⟩))
  | printing hscan hpreview hunpaired =>
    simp only [generate_of_found o hscan, deliver, hpreview, hunpaired, if_true]
    exact (s.continues_scanned config _).failsBy (failsBy_fail _ _)
  | @comparing found fault hscan hpreview hholds =>
    cases hcheck : o.check with
    | false =>
      exact hwritten hscan hpreview hcheck (Store.writeModule_eq_error_iff.2 (.comparing hholds))
    | true =>
      simp only [generate_of_found o hscan, deliver, hpreview, hcheck, if_true,
        check_of_holdsText_error hholds]
      exact (s.continues_scanned config found).failsBy (failsBy_fail _ _)
  | creating hscan hpreview hcheck hstale hmade =>
    exact hwritten hscan hpreview hcheck (Store.writeModule_eq_error_iff.2 (.creating hstale hmade))
  | writing hscan hpreview hcheck hstale hmade hwrite =>
    exact hwritten hscan hpreview hcheck
      (Store.writeModule_eq_error_iff.2 (.writing hstale hmade hwrite))

theorem eq_of_fail_escaped {fault' : Fault} (h : (s.fail fault').ending = .escaped fault) :
    fault' = fault := by
  unfold fail at h
  split at h
  · cases h
  · cases h
    rfl

/-- Whatever escapes from a session was raised in it. -/
theorem raises_of_escaped (h : (s.generate o config).ending = .escaped fault) :
    s.Raises o config fault := by
  rcases s.generate_cases o config with ⟨t, -, -, hend⟩ | ⟨fault', t, hscan, -, hfail⟩ |
    ⟨found, hscan, hdeliver⟩
  · rw [hend] at h
    cases h
  · rw [hfail] at h
    cases eq_of_fail_escaped h
    exact raises_of_scan o hscan
  · rw [hdeliver] at h
    unfold deliver at h
    split at h
    · rename_i base hpreview
      split at h
      · rename_i hunpaired
        cases eq_of_fail_escaped h
        exact .printing hscan hpreview hunpaired
      · obtain ⟨t, code, -, -, hfinish⟩ := (s.scanned config found).exists_preview base
          found.entries config.escape o.validate
        rw [hfinish] at h
        cases h
    · rename_i hpreview
      split at h
      · rcases (s.scanned config found).check_cases config.output _ with
          ⟨fault', hholds, hfail⟩ | ⟨there, t, -, -, hfinish⟩
        · rw [hfail] at h
          cases eq_of_fail_escaped h
          exact .comparing hscan hpreview hholds
        · rw [hfinish] at h
          cases h
      · rename_i hcheck
        rw [Bool.not_eq_true] at hcheck
        obtain ⟨t, -, ⟨fault', houtcome, hfail⟩ | ⟨-, hfinish⟩⟩ :=
          (s.scanned config found).write_cases config.output _
        · rw [hfail] at h
          cases eq_of_fail_escaped h
          cases Store.writeModule_eq_error_iff.1 houtcome with
          | comparing hholds => exact .comparing hscan hpreview hholds
          | creating hstale hmade => exact .creating hscan hpreview hcheck hstale hmade
          | writing hstale hmade hwrite => exact .writing hscan hpreview hcheck hstale hmade hwrite
        · rw [hfinish] at h
          cases h

end Raises

end Session

/-! ## Runs -/

/-- An operation of a run fails whose command line is read and verified: its log cannot be set up,
or its session fails. -/
inductive Raises (store : Store) (i : Invocation) : Fault → Prop
  | setup {o : Options} {fault : Logging.Fault} (hread : Options.read i.arguments = .ok o)
      (hhelp : o.help = false) (hverify : o.verify store = .ok ())
      (h : Logging.setup store o.level o.logFile = .error fault) : Raises store i (.logging fault)
  | session {o : Options} {opened : Store} {logging : Logging} {fault : Fault}
      (hread : Options.read i.arguments = .ok o) (hhelp : o.help = false)
      (hverify : o.verify store = .ok ())
      (hsetup : Logging.setup store o.level o.logFile = .ok (opened, logging))
      (h : (opening opened logging i).Raises o (o.config i.environment) fault) :
      Raises store i fault

section Runs
variable {store : Store} {i : Invocation} {fault : Fault}

/-- Whatever escapes from a run was raised in it. -/
theorem raises_of_run (h : (run store i).ending = .escaped fault) : Raises store i fault := by
  cases hread : Options.read i.arguments with
  | error usage =>
    simp only [run, hread] at h
    cases h
  | ok o =>
    rw [run_of_read hread] at h
    rcases runWith_cases store i o with ⟨-, hrun⟩ | ⟨-, usage, -, hrun⟩ |
      ⟨hhelp, hverify, fault', hsetup, hrun⟩ | ⟨hhelp, hverify, opened, logging, hsetup, hrun⟩
    · rw [hrun] at h
      cases h
    · rw [hrun] at h
      cases h
    · rw [hrun] at h
      cases h
      exact .setup hread hhelp hverify hsetup
    · rw [hrun] at h
      exact .session hread hhelp hverify hsetup (Session.raises_of_escaped h)

/-- A run in which an operation on files fails, or a source is unreadable, ends with status 1 and
shows the fault in a line of its own, behind whole lines. Only the fault of a log file that cannot
be opened escapes, before anything is shown or changed. -/
theorem run_faults (store : Store) (i : Invocation) :
    (∀ error, Raises store i (.logging (.file error)) →
      run store i = ⟨store, "", "", .escaped (.logging (.file error))⟩) ∧
    (∀ fault, Raises store i fault → fault.IsOfFiles →
      (∀ error, fault ≠ .logging (.file error)) →
      (run store i).ending = .status 1 ∧ ∃ before, IsLines before ∧
        (run store i).errors = before ++ "Error: " ++ stripSequences fault.message ++ "\n") ∧
    ∀ fault, (run store i).ending = .escaped fault →
      Raises store i fault ∧ (fault.IsOfFiles → ∃ error, fault = .logging (.file error)) := by
  have hescapes : ∀ error, Raises store i (.logging (.file error)) →
      run store i = ⟨store, "", "", .escaped (.logging (.file error))⟩ := by
    intro error h
    cases h with
    | setup hread hhelp hverify hsetup =>
      rw [run_of_read hread, runWith_of_setup_error hhelp hverify hsetup]
    | session _ _ _ _ h => cases h
  have hreported : ∀ fault, Raises store i fault → fault.IsOfFiles →
      (∀ error, fault ≠ .logging (.file error)) →
      (run store i).ending = .status 1 ∧ ∃ before, IsLines before ∧
        (run store i).errors = before ++ "Error: " ++ stripSequences fault.message ++ "\n" := by
    intro fault h hfiles hlog
    cases h with
    | setup =>
      cases hfiles
      exact absurd rfl (hlog _)
    | session hread hhelp hverify hsetup h =>
      obtain ⟨t, lines, hlines, ht, hfail⟩ := Session.generate_of_raises h
      obtain ⟨u, hu, hnote⟩ := t.fail_of_isReported (hfiles.isReported hlog)
      obtain ⟨more, hmore, herrors⟩ := hu.errors
      simp only [run_of_read hread, runWith_of_setup hhelp hverify hsetup, hfail, hnote]
      refine ⟨rfl, _, hlines.append hmore, ?_⟩
      have hopening : t.errors = lines := ht.trans (String.empty_append)
      rw [Session.finish, Session.note, herrors, hopening,
        stripSequences_append (by decide), ← String.append_assoc]
  refine ⟨hescapes, hreported, fun fault h => ⟨raises_of_run h, fun hfiles => ?_⟩⟩
  by_contra hlog
  obtain ⟨hstatus, -⟩ := hreported fault (raises_of_run h) hfiles fun error heq => hlog ⟨error, heq⟩
  cases h.symm.trans hstatus

end Runs

def brokenStore : Store where
  items := [(["page.py"], .file (Utf8.encode "class\n"))]

def unopenedRun : Invocation where
  program := "sitemap-codegen"
  arguments := ["--log-file", "no/dir.log"]
  environment := {}
  time := "first"

def unopenedLog : Fault := .logging (.file ⟨.missing, "no/dir.log"⟩)

theorem raises_unopenedLog : Raises {} unopenedRun unopenedLog := by
  have hread : Options.read unopenedRun.arguments = .ok { logFile := "no/dir.log" } := by
    decide
  have hverify : ((({ logFile := "no/dir.log" } : Options).verify {}).toOption) = some () := by
    decide
  have hsetup : fault? (Logging.setup {} "WARNING" "no/dir.log") =
      some (.file ⟨.missing, "no/dir.log"⟩) := by
    decide
  exact .setup hread rfl (mem_toOption.1 hverify) (fault?_eq_some.1 hsetup)

theorem raises_brokenPage :
    Raises brokenStore (pageRun "first") (.scan (.inspection (.unreadable "page.py"))) := by
  have hverify : (pageOptions.verify brokenStore).toOption = some () := by decide
  have hlevel : Log.threshold "WARNING" = .number 30 := by decide
  have hsetup : Logging.setup brokenStore "WARNING" "" = .ok (brokenStore, ⟨30, [.console]⟩) := by
    simp only [Logging.setup, hlevel]
    rfl
  have hscan : fault? ((opening brokenStore ⟨30, [.console]⟩ (pageRun "first")).scan
      (pageOptions.config {})).result = some (.fault (.inspection (.unreadable "page.py"))) := by
    decide +kernel
  exact .session read_pageRun rfl (mem_toOption.1 hverify) hsetup
    (Session.raises_of_scan pageOptions (fault?_eq_some.1 hscan))

/-- A run over a broken page, and one whose log file is not opened. -/
theorem run_brokenPage :
    (Raises brokenStore (pageRun "first") (.scan (.inspection (.unreadable "page.py"))) ∧
      Raises {} unopenedRun unopenedLog ∧ unopenedLog.IsOfFiles ∧
      (run {} unopenedRun).ending = .escaped unopenedLog) ∧
    (run brokenStore (pageRun "first")).ending = .status 1 ∧
    (∃ before, IsLines before ∧ (run brokenStore (pageRun "first")).errors =
      before ++ "Error: " ++ stripSequences "Cannot parse page.py" ++ "\n") ∧
    run {} unopenedRun = ⟨{}, "", "", .escaped unopenedLog⟩ ∧
    ∃ error, unopenedLog = .logging (.file error) := by
  have hending : (run {} unopenedRun).ending = .escaped unopenedLog := by decide
  obtain ⟨-, hreported, -⟩ := run_faults brokenStore (pageRun "first")
  obtain ⟨hescapes, -, hall⟩ := run_faults {} unopenedRun
  obtain ⟨hstatus, hline⟩ := hreported _ raises_brokenPage (.unreadable _) nofun
  exact ⟨⟨raises_brokenPage, raises_unopenedLog, .log _, hending⟩, hstatus, hline,
    hescapes _ raises_unopenedLog, (hall _ hending).2 (.log _)⟩

/-- The fault of the log file is one of the files, but it escapes and no line shows it. -/
theorem run_unopenedLog :
    Raises {} unopenedRun unopenedLog ∧ unopenedLog.IsOfFiles ∧
    (run {} unopenedRun).ending = .escaped unopenedLog ∧ (run {} unopenedRun).errors = "" :=
  ⟨raises_unopenedLog, .log _, by decide, by decide⟩

end Command

end Sitemap
