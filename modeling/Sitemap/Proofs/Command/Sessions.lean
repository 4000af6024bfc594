import Sitemap.Command
import Sitemap.Proofs.Scan.Rescan
import Sitemap.Proofs.Store.Modules

/-!
# How sessions go on

* `IsLines` : a text of whole lines;
* `Session.Continues` : a session has written records and shown lines (`refl`, `trans`), with
  `continues_recordAll` and `continues_note` : the steps that do so;
* `Session.exists_fail`, `exists_preview`, `check_cases`, `write_settles` : how each way to end a
  session goes on and ends;
* `Session.generate_cases` : all that a session can do;
* `scanPaths_result_eq`, `Session.finds_of_scan` : a log apart from the sources is nothing to a
  scan;
* `runWith_cases`, `runWith_alike` : all that a run can do, also beside one with other wishes.
-/

namespace Sitemap

/-! ## Whole lines -/

/-- A text of whole lines: nothing, or the last line is ended. -/
def IsLines (s : String) : Prop := s = "" ∨ s.toList.getLast? = some '\n'

theorem IsLines.append {s t : String} (hs : IsLines s) (ht : IsLines t) : IsLines (s ++ t) := by
  rcases ht with rfl | ht
  · rwa [String.append_empty]
  · exact .inr (by rw [String.toList_append, List.getLast?_append, ht, Option.some_or])

theorem isLines_line (s : String) : IsLines (s ++ "\n") :=
  .inr (by rw [String.toList_append, List.getLast?_append]; rfl)

theorem isLines_join {lines : List String} (h : ∀ line ∈ lines, IsLines line) :
    IsLines (String.join lines) := by
  induction lines with
  | nil => exact .inl rfl
  | cons line lines ih =>
    rw [List.forall_mem_cons] at h
    rw [String.join_cons]
    exact h.1.append (ih h.2)

theorem isLines_console (l : Logging) (time : String) (r : Log.Record) :
    IsLines (l.console time r) := by
  unfold Logging.console
  split
  · refine isLines_join fun line hline => ?_
    obtain ⟨handler, -, hhandler⟩ := List.mem_filterMap.1 hline
    split at hhandler
    · cases hhandler
      exact isLines_line _
    · cases hhandler
  · exact .inl rfl

namespace Command

/-! ## Sessions that go on -/

namespace Session

/-- A session goes on: records go to its log, and whole lines are shown to the user. -/
structure Continues (s t : Session) : Prop where
  store : s.store.Rewrites s.logging.WritesTo t.store
  logging : t.logging = s.logging
  output : t.output = s.output
  errors : ∃ lines, IsLines lines ∧ t.errors = s.errors ++ lines

section Continues
variable {s t u : Session}

theorem Continues.refl (s : Session) : s.Continues s :=
  ⟨.refl _ _, rfl, rfl, "", .inl rfl, (String.append_empty).symm⟩

theorem Continues.trans (h : s.Continues t) (h' : t.Continues u) : s.Continues u where
  store := h.store.trans (h.logging ▸ h'.store)
  logging := h'.logging.trans h.logging
  output := h'.output.trans h.output
  errors := by
    obtain ⟨lines, hlines, ht⟩ := h.errors
    obtain ⟨more, hmore, hu⟩ := h'.errors
    exact ⟨lines ++ more, hlines.append hmore, by rw [hu, ht, String.append_assoc]⟩

theorem continues_record (s : Session) (r : Log.Record) : s.Continues (s.record r) :=
  ⟨Logging.rewrites_write s.logging s.time s.store r, rfl, rfl, _, isLines_console _ _ _, rfl⟩

theorem continues_recordAll (s : Session) (rs : List Log.Record) :
    s.Continues (s.recordAll rs) := by
  unfold recordAll
  induction rs generalizing s with
  | nil => exact .refl s
  | cons r rs ih => exact (s.continues_record r).trans (ih (s.record r))

theorem continues_note (s : Session) (line : String) : s.Continues (s.note line) :=
  ⟨.refl _ _, rfl, rfl, _, isLines_line (stripSequences line), String.append_assoc⟩

theorem continues_summarize (s : Session) (scan : PathScan) : s.Continues (s.summarize scan) := by
  have hnotes : ∀ (omitted : List Omitted) (s : Session), s.Continues
      (omitted.foldl (fun s o => s.note ("  omitted " ++ o.describe)) s) := by
    intro omitted
    induction omitted with
    | nil => exact .refl
    | cons o omitted ih => exact fun s => (s.continues_note _).trans (ih _)
  exact (s.continues_note _).trans (hnotes scan.omitted _)

end Continues

/-! ## How sessions end -/

section Ends
variable (s : Session)

theorem fail_of_isReported {fault : Fault} (h : fault.isReported = true) : ∃ t, s.Continues t ∧
    s.fail fault = (t.note ("Error: " ++ fault.message)).finish (.status 1) := by
  unfold fail
  rw [if_pos h]
  exact ⟨_, s.continues_record _, rfl⟩

theorem fail_of_not_isReported {fault : Fault} (h : ¬ fault.isReported = true) :
    s.fail fault = s.finish (.escaped fault) := by
  unfold fail
  rw [if_neg h]

theorem exists_fail (fault : Fault) : ∃ t ending, s.Continues t ∧ ending ≠ .status 0 ∧
    s.fail fault = t.finish ending := by
  by_cases h : fault.isReported = true
  · obtain ⟨t, ht, hfail⟩ := s.fail_of_isReported h
    exact ⟨_, _, ht.trans (t.continues_note _), by simp, hfail⟩
  · exact ⟨s, _, .refl s, by simp, s.fail_of_not_isReported h⟩

/-- A preview shows the document; it fails only if it is validated. -/
theorem exists_preview (base : String) (entries : List Entry) (escaped validate : Bool) :
    ∃ t code, (s.print (Document.ofEntries base entries escaped)).Continues t ∧
      (validate = false → code = 0) ∧
      s.preview base entries escaped validate = t.finish (.status code) := by
  unfold preview
  cases validate with
  | false => exact ⟨_, 0, .refl _, fun _ => rfl, rfl⟩
  | true =>
    simp only [if_true]
    split
    · exact ⟨_, 0, continues_recordAll _ _, fun _ => rfl, rfl⟩
    · exact ⟨_, 1, (continues_recordAll _ _).trans (continues_note _ _), nofun, rfl⟩

theorem check_cases (path source : String) :
    (∃ fault, s.store.holdsText path source = .error fault ∧
      s.check path source = s.fail (.text fault)) ∨
    ∃ there t, s.store.holdsText path source = .ok there ∧ s.Continues t ∧
      s.check path source = t.finish (.status (if there then 0 else 1)) := by
  unfold check
  cases hholds : s.store.holdsText path source with
  | error fault => exact .inl ⟨fault, rfl, rfl⟩
  | ok there =>
    cases there with
    | true => exact .inr ⟨true, _, rfl, s.continues_note _, rfl⟩
    | false => exact .inr ⟨false, _, rfl, s.continues_note _, rfl⟩

/-- A session writes the module and goes on from there: it fails, or says what was done. -/
theorem write_cases (path source : String) :
    let written := s.store.writeModule path source
    ∃ t, ({ s with store := written.store } : Session).Continues t ∧
      ((∃ fault, written.outcome = .error fault ∧ s.write path source = t.fail (.text fault)) ∨
        (∃ b, written.outcome = .ok b) ∧ s.write path source = t.finish (.status 0)) := by
  unfold write
  generalize s.store.writeModule path source = written
  have hrecords := continues_recordAll { s with store := written.store } written.records
  dsimp only
  cases houtcome : written.outcome with
  | error fault => exact ⟨_, hrecords, .inl ⟨fault, rfl, rfl⟩⟩
  | ok b =>
    cases b with
    | true => exact ⟨_, hrecords.trans (continues_note _ _), .inr ⟨⟨_, rfl⟩, rfl⟩⟩
    | false => exact ⟨_, hrecords.trans (continues_note _ _), .inr ⟨⟨_, rfl⟩, rfl⟩⟩

/-- A session that writes the module fails and keeps the files, finds the module there, or puts it
where its path leads to once directories are created. -/
theorem write_settles (path source : String) :
    (∃ (t : Session) (ending : Ending), ending ≠ .status 0 ∧
      s.store.holdsText path source ≠ .ok true ∧
      s.store.Frame s.logging.WritesTo t.store ∧ t.output = s.output ∧
      s.write path source = t.finish ending) ∨
    (∃ t, s.store.holdsText path source = .ok true ∧ s.Continues t ∧
      s.write path source = t.finish (.status 0)) ∨
    ∃ made at_ t, s.store.holdsText path source = .ok false ∧ s.store.SameFiles made ∧
      made.IsTarget path at_ ∧
      ({ s with store := made.set at_ (.file (Utf8.encode source)) } : Session).Continues t ∧
      s.write path source = t.finish (.status 0) := by
  obtain ⟨t, ht, hend⟩ := s.write_cases path source
  -- how the session ends goes with what happened to the files
  rcases s.store.writeModule_cases path source with ⟨fault, hfailed, hholds, hcreates⟩ |
    ⟨houtcome, hholds, hstore⟩ | ⟨houtcome, hholds, made, at_, hmade, hat, hstore⟩
  · rcases hend with ⟨fault', -, hfail⟩ | ⟨⟨b, hb⟩, -⟩
    · obtain ⟨u, ending, hu, hending, hfinish⟩ := t.exists_fail (.text fault')
      have hall := ht.trans hu
      refine .inl ⟨u, ending, hending, hholds, ?_, hall.output, hfail.trans hfinish⟩
      exact (hcreates.sameFiles.mono fun _ => False.elim).trans hall.store.frame
    · rw [hfailed] at hb
      cases hb
  · rcases hend with ⟨fault, hfault, -⟩ | ⟨-, hfinish⟩
    · cases houtcome.symm.trans hfault
    · rw [hstore] at ht
      exact .inr (.inl ⟨t, hholds, ht, hfinish⟩)
  · rcases hend with ⟨fault, hfault, -⟩ | ⟨-, hfinish⟩
    · cases houtcome.symm.trans hfault
    · rw [hstore] at ht
      exact .inr (.inr ⟨made, at_, t, hholds, hmade.sameFiles, hat, ht, hfinish⟩)

end Ends

/-! ## What sessions do -/

def scan (s : Session) (config : Config) : Logged (Stop ScanFault) PathScan :=
  scanPaths s.decoders s.effect s.store config.names config.reportOmitted config.sources

/-- What a session does with what its scan has found. -/
def deliver (s : Session) (o : Options) (config : Config) (found : PathScan) : Outcome :=
  match o.preview with
  | some base =>
    if found.unpaired then s.fail .unencodable
    else s.preview base found.entries config.escape o.validate
  | none =>
    let source := GeneratedModule.ofEntries found.entries config.escape
    if o.check then s.check config.output source else s.write config.output source

/-- The session in which a scan is delivered. -/
def scanned (s : Session) (config : Config) (found : PathScan) : Session :=
  (s.recordAll (s.scan config).records).summarize found

theorem continues_scanned (s : Session) (config : Config) (found : PathScan) :
    s.Continues (s.scanned config found) :=
  (s.continues_recordAll _).trans (continues_summarize _ found)

/-- A session does not end with its scan, fails with it, or delivers what it has found. -/
theorem generate_cases (s : Session) (o : Options) (config : Config) :
    (∃ t, (s.scan config).result = .error .endless ∧ s.Continues t ∧
      s.generate o config = t.finish .endless) ∨
    (∃ fault t, (s.scan config).result = .error (.fault fault) ∧ s.Continues t ∧
      s.generate o config = t.fail (.scan fault)) ∨
    ∃ found, (s.scan config).result = .ok found ∧
      s.generate o config = (s.scanned config found).deliver o config found := by
  unfold generate scanned scan
  generalize scanPaths s.decoders s.effect s.store config.names config.reportOmitted
    config.sources = scan
  dsimp only
  cases hresult : scan.result with
  | error stop =>
    cases stop with
    | endless => exact .inl ⟨_, rfl, s.continues_recordAll _, rfl⟩
    | fault fault => exact .inr (.inl ⟨fault, _, rfl, s.continues_recordAll _, rfl⟩)
  | ok found => exact .inr (.inr ⟨found, rfl, rfl⟩)

theorem generate_of_found {s : Session} {config : Config} (o : Options) {found : PathScan}
    (h : (s.scan config).result = .ok found) :
    s.generate o config = (s.scanned config found).deliver o config found := by
  rcases s.generate_cases o config with ⟨t, hscan, -⟩ | ⟨fault, t, hscan, -⟩ |
    ⟨found', hfound, hdeliver⟩
  · cases h.symm.trans hscan
  · cases h.symm.trans hscan
  · cases h.symm.trans hfound
    exact hdeliver

end Session

end Command

/-! ## Scans beside a log -/

section Scans
variable {P : Location → Prop} {decoders : Decoders} {effect : RecordEffect}
  (heffect : ∀ (s : Store) (r : Log.Record), s.Rewrites P (effect s r)) {s t : Store}
include heffect

theorem inspectFiles_result_eq (h : s.Rewrites P t) {files : List SourceFile}
    (hfiles : ∀ f ∈ files, ∀ l, s.locate f.path.text = .ok l → ¬ P l) :
    (inspectFiles decoders effect t files).result =
      (inspectFiles decoders .none s files).result := by
  induction files generalizing t with
  | nil => rfl
  | cons f rest ih =>
    rw [List.forall_mem_cons] at hfiles
    have hnext : s.Rewrites P (effect t f.announcement) := h.trans (heffect t f.announcement)
    have hf : f.declarations decoders (effect t f.announcement) = f.declarations decoders s := by
      unfold SourceFile.declarations
      rw [hnext.readBytes_eq hfiles.1]
    simp only [inspectFiles, Logged.bind_result, hf, ih hnext hfiles.2, RecordEffect.none]

theorem scanPaths_result_eq {paths : List String}
    (hfiles : ∀ files, s.sourceFiles paths = .ok files →
      ∀ f ∈ files, ∀ l, s.locate f.path.text = .ok l → ¬ P l) (names : ScanNames)
    (diagnose : Bool) : (scanPaths decoders effect s names diagnose paths).result =
      (scanPaths decoders .none s names diagnose paths).result := by
  rw [scanPaths_result, scanPaths_result]
  cases hlist : s.sourceFiles paths with
  | error stop => rfl
  | ok files =>
    simp only [mapError_ok, bind, Except.bind,
      inspectFiles_result_eq heffect (.refl P s) (hfiles files hlist)]

end Scans

namespace Command

theorem Session.finds_of_scan {s : Session} {config : Config} {found : PathScan}
    (h : (s.scan config).result = .ok found)
    (hfiles : ∀ files, s.store.sourceFiles config.sources = .ok files →
      ∀ f ∈ files, ∀ l, s.store.locate f.path.text = .ok l → ¬ s.logging.WritesTo l) :
    s.store.Finds s.decoders config.names config.sources found.entries := by
  unfold scan effect at h
  rw [scanPaths_result_eq (Logging.rewrites_write s.logging s.time) hfiles] at h
  exact (Store.finds_iff config.reportOmitted).2 ⟨found, h, rfl⟩

/-! ## Runs -/

def opening (store : Store) (logging : Logging) (i : Invocation) : Session :=
  { store, logging, decoders := i.decoders, time := i.time }

section Runs
variable {store opened : Store} {i : Invocation} {o : Options} {logging : Logging}

theorem run_of_read (hread : Options.read i.arguments = .ok o) :
    run store i = runWith store i o := by
  simp only [run, hread]

theorem runWith_of_setup (hhelp : o.help = false) (hverify : o.verify store = .ok ())
    (hsetup : Logging.setup store o.level o.logFile = .ok (opened, logging)) :
    runWith store i o = (opening opened logging i).generate o (o.config i.environment) := by
  simp only [runWith, hhelp, hverify, hsetup, Bool.false_eq_true, if_false, opening]

theorem runWith_of_setup_error (hhelp : o.help = false) (hverify : o.verify store = .ok ())
    {fault : Logging.Fault} (hsetup : Logging.setup store o.level o.logFile = .error fault) :
    runWith store i o = ⟨store, "", "", .escaped (.logging fault)⟩ := by
  simp only [runWith, hhelp, hverify, hsetup, Bool.false_eq_true, if_false]

end Runs

/-- A run shows its help, refuses its command line, cannot set up the log, or has a session. -/
theorem runWith_cases (store : Store) (i : Invocation) (o : Options) :
    (o.help = true ∧ runWith store i o = ⟨store, help i.program, "", .status 0⟩) ∨
    (o.help = false ∧ ∃ fault, o.verify store = .error fault ∧
      runWith store i o = refuse store i.program fault) ∨
    (o.help = false ∧ o.verify store = .ok () ∧
      ∃ fault, Logging.setup store o.level o.logFile = .error fault ∧
        runWith store i o = ⟨store, "", "", .escaped (.logging fault)⟩) ∨
    (o.help = false ∧ o.verify store = .ok () ∧
      ∃ opened logging, Logging.setup store o.level o.logFile = .ok (opened, logging) ∧
        runWith store i o =
          (opening opened logging i).generate o (o.config i.environment)) := by
  cases hhelp : o.help with
  | true => exact .inl ⟨rfl, if_pos hhelp⟩
  | false =>
    refine .inr ?_
    cases hverify : o.verify store with
    | error fault =>
      refine .inl ⟨rfl, fault, rfl, ?_⟩
      simp only [runWith, hhelp, hverify, Bool.false_eq_true, if_false]
    | ok u =>
      refine .inr ?_
      cases hsetup : Logging.setup store o.level o.logFile with
      | error fault =>
        exact .inl ⟨rfl, rfl, fault, rfl, runWith_of_setup_error hhelp hverify hsetup⟩
      | ok opened =>
        exact .inr ⟨rfl, rfl, opened.1, opened.2, rfl, runWith_of_setup hhelp hverify hsetup⟩

/-- Command lines that differ only in what is asked for come to their sessions together, or end
alike without one. -/
theorem runWith_alike (store : Store) (i : Invocation) (arguments : List String) (o o' : Options)
    (hhelp : o'.help = o.help) (hverify : o'.verify store = o.verify store)
    (hsetup : Logging.setup store o'.level o'.logFile = Logging.setup store o.level o.logFile) :
    (runWith store { i with arguments } o' = runWith store i o ∧
      (runWith store i o).store = store) ∨
    ∃ opened logging, Logging.setup store o.level o.logFile = .ok (opened, logging) ∧
      runWith store i o = (opening opened logging i).generate o (o.config i.environment) ∧
      runWith store { i with arguments } o' =
        (opening opened logging i).generate o' (o'.config i.environment) := by
  unfold runWith
  rw [hhelp, hverify, hsetup]
  cases o.help with
  | true =>
    simp only [if_true]
    exact .inl ⟨trivial, trivial⟩
  | false =>
    simp only [Bool.false_eq_true, if_false]
    cases o.verify store with
    | error fault => exact .inl ⟨rfl, rfl⟩
    | ok u =>
      dsimp only
      cases Logging.setup store o.level o.logFile with
      | error fault => exact .inl ⟨rfl, rfl⟩
      | ok opened =>
        obtain ⟨opened, logging⟩ := opened
        exact .inr ⟨opened, logging, rfl, rfl, rfl⟩

end Command

end Sitemap
