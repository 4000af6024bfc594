import Sitemap.Proofs.Command.Convergence
import Sitemap.Proofs.Command.Sessions

/-!
# What a run touches

* `Session.Touches` : an outcome of a session touches nothing but its log and the module, the latter
  only if it writes it well, and prints nothing without a preview;
* `Continues.readText`, `Session.readText_write` : a module that is written without a fault is
  there;
* `Session.generate_checking` : a check passes if the same session would succeed and change nothing;
* `LogsTo`, `LogApart` : where the log of a run goes, and when that is no matter;
* `run_frame` : what a run touches, whatever its command line.
-/

namespace Sitemap

namespace Options

/-- A command line asks for the module to be written. -/
structure Writes (o : Options) : Prop where
  help : o.help = false
  check : o.check = false
  preview : o.preview = none

end Options

namespace Command

namespace Session

variable {s t : Session} {o : Options} {config : Config} {r : Outcome}

/-! ## Frames of sessions -/

/-- An outcome of a session touches only the log and the file that a path leads to, the latter only
if it ends well and neither a check nor a preview is asked for; only a preview is printed. -/
structure Touches (s : Session) (o : Options) (path : String) (r : Outcome) : Prop where
  files : s.store.Frame (fun l => s.logging.WritesTo l ∨ r.store.locate path = .ok l) r.store
  kept : r.ending ≠ .status 0 ∨ o.check = true ∨ o.preview ≠ none →
    s.store.Frame s.logging.WritesTo r.store
  output : o.preview = none → r.output = s.output

theorem Touches.of_frame {path : String} (hfiles : s.store.Frame s.logging.WritesTo r.store)
    (houtput : o.preview = none → r.output = s.output) : s.Touches o path r :=
  ⟨hfiles.mono fun _ => .inl, fun _ => hfiles, houtput⟩

theorem Touches.of_continues {path : String} (h : s.Continues t) (ending : Ending) :
    s.Touches o path (t.finish ending) :=
  .of_frame h.store.frame fun _ => h.output

theorem Continues.touches {path : String} (h : s.Continues t) (hr : t.Touches o path r) :
    s.Touches o path r where
  files := by
    have hfiles := hr.files
    rw [h.logging] at hfiles
    exact (h.store.frame.mono fun _ => .inl).trans hfiles
  kept hstays := by
    have hkept := hr.kept hstays
    rw [h.logging] at hkept
    exact h.store.frame.trans hkept
  output hpreview := (hr.output hpreview).trans h.output

theorem touches_fail (s : Session) (o : Options) (path : String) (fault : Fault) :
    s.Touches o path (s.fail fault) := by
  obtain ⟨t, ending, ht, -, hfinish⟩ := s.exists_fail fault
  rw [hfinish]
  exact .of_continues ht ending

theorem touches_preview (s : Session) {o : Options} {base : String} (h : o.preview = some base)
    (path : String) (entries : List Entry) (escaped : Bool) :
    s.Touches o path (s.preview base entries escaped o.validate) := by
  obtain ⟨t, code, ht, -, hfinish⟩ := s.exists_preview base entries escaped o.validate
  rw [hfinish]
  exact .of_frame ht.store.frame fun hnone => nomatch h.symm.trans hnone

theorem exists_check (s : Session) (path source : String) :
    ∃ t ending, s.Continues t ∧ s.check path source = t.finish ending := by
  rcases s.check_cases path source with ⟨fault, -, hfail⟩ | ⟨there, t, -, ht, hfinish⟩
  · obtain ⟨t, ending, ht, -, hfinish⟩ := s.exists_fail (.text fault)
    exact ⟨t, ending, ht, hfail.trans hfinish⟩
  · exact ⟨t, _, ht, hfinish⟩

theorem touches_write (s : Session) (ho : o.check = false ∧ o.preview = none)
    (path source : String) : s.Touches o path (s.write path source) := by
  rcases s.write_settles path source with ⟨t, ending, -, -, hframe, houtput, hfinish⟩ |
    ⟨t, -, ht, hfinish⟩ | ⟨made, at_, t, -, hmade, hat, ht, hfinish⟩
  · rw [hfinish]
    exact .of_frame hframe fun _ => houtput
  · rw [hfinish]
    exact .of_continues ht _
  · rw [hfinish]
    refine ⟨?_, ?_, fun _ => ht.output⟩
    · -- the module is where its path leads to in the end
      have hthere : t.store.locate path = .ok at_ :=
        (ht.store.locate_eq path).trans ((hat.locate_set _).2 hat.locate)
      refine .trans (t := made) (hmade.mono fun _ hfalse => hfalse.elim) ?_
      refine .trans (t := made.set at_ (.file (Utf8.encode source))) ?_
        (ht.store.frame.mono fun _ => .inl)
      refine (Store.frame_set hat.ne_nil hat.not_directory _).mono ?_
      rintro l rfl
      exact .inr hthere
    · rintro (hending | hcheck | hpreview)
      · exact absurd rfl hending
      · rw [ho.1] at hcheck
        cases hcheck
      · exact absurd ho.2 hpreview

theorem touches_deliver (s : Session) (o : Options) (config : Config) (found : PathScan) :
    s.Touches o config.output (s.deliver o config found) := by
  unfold deliver
  split
  · rename_i base hpreview
    split
    · exact s.touches_fail o _ _
    · exact s.touches_preview hpreview _ _ _
  · rename_i hpreview
    split
    · obtain ⟨t, ending, ht, hfinish⟩ := s.exists_check config.output
        (GeneratedModule.ofEntries found.entries config.escape)
      rw [hfinish]
      exact .of_continues ht ending
    · rename_i hcheck
      exact s.touches_write ⟨Bool.eq_false_iff.2 hcheck, hpreview⟩ _ _

theorem touches_generate (s : Session) (o : Options) (config : Config) :
    s.Touches o config.output (s.generate o config) := by
  rcases s.generate_cases o config with ⟨t, -, ht, hend⟩ | ⟨fault, t, -, ht, hfail⟩ |
    ⟨found, -, hdeliver⟩
  · rw [hend]
    exact .of_continues ht _
  · rw [hfail]
    exact ht.touches (t.touches_fail o _ _)
  · rw [hdeliver]
    exact (s.continues_scanned config found).touches (touches_deliver _ o config _)

/-! ## The module -/

theorem Continues.readText {path source : String} (h : s.Continues t)
    (hholds : s.store.holdsText path source = .ok true)
    (hapart : ∀ l, t.store.locate path = .ok l → ¬ s.logging.WritesTo l) :
    t.store.readText path = .ok source := by
  refine Store.holdsText_iff.1 ?_
  rw [h.store.holdsText_eq fun l hl => hapart l ((h.store.locate_eq path).trans hl), hholds]

theorem readText_write {path source : String} (hreturn : '\r' ∉ source.toList)
    (hapart : ∀ l, (s.write path source).store.locate path = .ok l → ¬ s.logging.WritesTo l)
    (hending : (s.write path source).ending = .status 0) :
    (s.write path source).store.readText path = .ok source := by
  rcases s.write_settles path source with ⟨t, ending, hne, -, -, -, hfinish⟩ |
    ⟨t, hholds, ht, hfinish⟩ | ⟨made, at_, t, -, -, hat, ht, hfinish⟩
  · rw [hfinish] at hending
    exact absurd hending hne
  · rw [hfinish] at hapart ⊢
    exact ht.readText hholds hapart
  · rw [hfinish] at hapart ⊢
    exact ht.readText (hat.holdsText_set hreturn) hapart

/-! ## Checks -/

theorem check_ending (s : Session) (path source : String) :
    (s.check path source).ending = .status 0 ↔ s.store.holdsText path source = .ok true := by
  rcases s.check_cases path source with ⟨fault, hholds, hfail⟩ | ⟨there, t, hholds, -, hfinish⟩
  · obtain ⟨t, ending, -, hne, hfinish⟩ := s.exists_fail (.text fault)
    rw [hfail, hfinish, hholds]
    exact iff_of_false hne nofun
  · rw [hfinish, hholds]
    cases there <;> simp [finish]

theorem Continues.item?_eq (h : s.Continues t) (hlog : ∀ l, ¬ s.logging.WritesTo l)
    (l : Location) : t.store.item? l = s.store.item? l :=
  h.store.item?_eq (hlog l)

/-- A check passes if the module can be written without changing anything. -/
theorem check_iff_write (hlog : ∀ l, ¬ s.logging.WritesTo l) {path source : String}
    (hreturn : '\r' ∉ source.toList) : (s.check path source).ending = .status 0 ↔
      (s.write path source).ending = .status 0 ∧
        ∀ l, (s.write path source).store.item? l = s.store.item? l := by
  rw [check_ending]
  rcases s.write_settles path source with ⟨t, ending, hne, hholds, -, -, hfinish⟩ |
    ⟨t, hholds, ht, hfinish⟩ | ⟨made, at_, t, hholds, -, hat, ht, hfinish⟩
  · rw [hfinish]
    exact iff_of_false hholds fun h => hne h.1
  · rw [hfinish]
    exact iff_of_true hholds ⟨rfl, ht.item?_eq hlog⟩
  · rw [hfinish, hholds]
    refine iff_of_false nofun ?_
    rintro ⟨-, hsame⟩
    -- the file was there before with the same text
    have hrewrites : Store.Rewrites (fun _ => False)
        (made.set at_ (.file (Utf8.encode source))) s.store :=
      fun l => .inl ((hsame l).symm.trans (ht.item?_eq hlog l))
    have hthere : s.store.holdsText path source = _ :=
      hrewrites.holdsText_eq (fun _ _ => id) source
    rw [hat.holdsText_set hreturn, hholds] at hthere
    cases hthere

/-- A session that is asked for a check ends well if it would succeed and change nothing. -/
theorem generate_checking (hlog : ∀ l, ¬ s.logging.WritesTo l) (hpreview : o.preview = none) :
    (s.generate o.checking config).ending = .status 0 ↔
      (s.generate o config).ending = .status 0 ∧
        ∀ l, (s.generate o config).store.item? l = s.store.item? l := by
  cases hscan : (s.scan config).result with
  | error stop =>
    exact iff_of_false (generate_ending_of_error o.checking hscan)
      fun h => generate_ending_of_error o hscan h.1
  | ok found =>
    rw [generate_of_found o hscan, generate_of_found o.checking hscan]
    have hscanned := s.continues_scanned config found
    have hlog' : ∀ l, ¬ (s.scanned config found).logging.WritesTo l := by
      rw [hscanned.logging]
      exact hlog
    simp only [← hscanned.item?_eq hlog]
    generalize s.scanned config found = u at hlog'
    have hfinds := finds_of_scan hscan fun _ _ _ _ l _ => hlog l
    simp only [deliver, Options.checking, hpreview, if_true]
    cases o.check with
    | false =>
      exact check_iff_write hlog'
        (GeneratedModule.carriageReturn_not_mem_ofEntries hfinds.isFinite config.escape)
    | true =>
      -- a check already, which changes nothing
      obtain ⟨t, ending, ht, hfinish⟩ := u.exists_check config.output
        (GeneratedModule.ofEntries found.entries config.escape)
      simp only [if_true, hfinish]
      exact (and_iff_left (ht.item?_eq hlog')).symm

end Session

/-! ## The log of a run -/

section Runs
variable {store : Store} {i : Invocation} {o : Options}

def LogsTo (store : Store) (o : Options) (at_ : Location) : Prop :=
  ∃ opened logging, Logging.setup store o.level o.logFile = .ok (opened, logging) ∧
    logging.WritesTo at_

theorem logsTo_iff {opened : Store} {logging : Logging}
    (h : Logging.setup store o.level o.logFile = .ok (opened, logging)) {l : Location} :
    LogsTo store o l ↔ logging.WritesTo l := by
  constructor
  · rintro ⟨opened', logging', h', hl⟩
    cases h.symm.trans h'
    exact hl
  · exact fun hl => ⟨opened, logging, h, hl⟩

/-- The log of a run goes neither to where the path of the module leads in the end, nor to a source
as they are listed once the log is open. -/
structure LogApart (store : Store) (i : Invocation) (o : Options) : Prop where
  module_ : ∀ opened logging, Logging.setup store o.level o.logFile = .ok (opened, logging) →
    ∀ l, (run store i).store.locate (o.config i.environment).output = .ok l → ¬ logging.WritesTo l
  sources : ∀ opened logging, Logging.setup store o.level o.logFile = .ok (opened, logging) →
    ∀ files, opened.sourceFiles (o.config i.environment).sources = .ok files →
      ∀ f ∈ files, ∀ l, opened.locate f.path.text = .ok l → ¬ logging.WritesTo l

instance (store : Store) (i : Invocation) (o : Options) : Decidable (LogApart store i o) :=
  decidable_of_iff (∀ p ∈ (Logging.setup store o.level o.logFile).toOption,
    (∀ l ∈ ((run store i).store.locate (o.config i.environment).output).toOption,
      ¬ .file l ∈ p.2.handlers) ∧
    ∀ files ∈ (p.1.sourceFiles (o.config i.environment).sources).toOption,
      ∀ f ∈ files, ∀ l ∈ (p.1.locate f.path.text).toOption, ¬ .file l ∈ p.2.handlers) <| by
    simp only [mem_toOption, Prod.forall]
    constructor
    · intro h
      exact ⟨fun opened logging hsetup => (h opened logging hsetup).1,
        fun opened logging hsetup => (h opened logging hsetup).2⟩
    · exact fun h opened logging hsetup => ⟨h.module_ opened logging hsetup,
        h.sources opened logging hsetup⟩

theorem not_writesTo_of_setup {opened : Store} {logging : Logging}
    (hsetup : Logging.setup store o.level o.logFile = .ok (opened, logging))
    (hlog : o.logFile = "") : opened = store ∧ ∀ l, ¬ logging.WritesTo l := by
  obtain ⟨hopened, hhandlers⟩ := (Logging.setup_eq_ok hsetup).2 hlog
  refine ⟨hopened, fun l hl => ?_⟩
  rw [Logging.WritesTo, hhandlers] at hl
  simp at hl

theorem logApart_of_logFile (hlog : o.logFile = "") : LogApart store i o where
  module_ _ _ hsetup l _ := (not_writesTo_of_setup hsetup hlog).2 l
  sources _ _ hsetup _ _ _ _ l _ := (not_writesTo_of_setup hsetup hlog).2 l

/-! ## Runs -/

theorem runWith_touches (store : Store) (i : Invocation) (o : Options) :
    let r := runWith store i o
    store.Frame (fun l => LogsTo store o l ∨
      r.store.locate (o.config i.environment).output = .ok l) r.store ∧
    (r.ending ≠ .status 0 ∨ ¬ o.Writes → store.Frame (LogsTo store o) r.store) ∧
    (o.help = false → o.preview = none → r.output = "") := by
  intro r
  rcases runWith_cases store i o with ⟨hhelp, hrun⟩ | ⟨-, fault, -, hrun⟩ |
    ⟨-, -, fault, -, hrun⟩ | ⟨hhelp, -, opened, logging, hsetup, hrun⟩
  · simp only [r, hrun, hhelp]
    exact ⟨.refl _ _, fun _ => .refl _ _, fun hfalse => nomatch hfalse⟩
  · simp only [r, hrun]
    exact ⟨.refl _ _, fun _ => .refl _ _, fun _ _ => rfl⟩
  · simp only [r, hrun]
    exact ⟨.refl _ _, fun _ => .refl _ _, fun _ _ => trivial⟩
  · have hlog : LogsTo store o = logging.WritesTo := funext fun l => propext (logsTo_iff hsetup)
    have hopened := (Logging.setup_eq_ok hsetup).1
    have htouches := Session.touches_generate (opening opened logging i) o
      (o.config i.environment)
    simp only [r, hrun, hlog]
    refine ⟨(hopened.mono fun _ => .inl).trans htouches.files, fun hstays => ?_,
      fun _ => htouches.output⟩
    refine hopened.trans (htouches.kept (hstays.imp_right fun hwrites => ?_))
    by_contra hmodes
    simp only [not_or, Bool.not_eq_true, not_not] at hmodes
    exact hwrites ⟨hhelp, hmodes.1, hmodes.2⟩

/-- A run that writes without a fault, with its log apart, leaves the module of the entries that its
scan has found. -/
theorem runWith_writes (ho : o.Writes) (hrun : run store i = runWith store i o)
    (hending : (runWith store i o).ending = .status 0) (hapart : LogApart store i o) :
    let config := o.config i.environment
    ∃ opened logging entries, Logging.setup store o.level o.logFile = .ok (opened, logging) ∧
      opened.Finds i.decoders config.names config.sources entries ∧
      (runWith store i o).store.readText config.output =
        .ok (GeneratedModule.ofEntries entries config.escape) := by
  intro config
  rcases runWith_cases store i o with ⟨hhelp, -⟩ | ⟨-, fault, -, hcase⟩ |
    ⟨-, -, fault, -, hcase⟩ | ⟨-, -, opened, logging, hsetup, hcase⟩
  · cases ho.help.symm.trans hhelp
  · rw [hcase] at hending
    cases hending
  · rw [hcase] at hending
    cases hending
  · have hmodule := hapart.module_ opened logging hsetup
    have hsources := hapart.sources opened logging hsetup
    rw [hrun] at hmodule
    rw [hcase] at hending hmodule ⊢
    cases hscan : ((opening opened logging i).scan config).result with
    | error stop => exact absurd hending (Session.generate_ending_of_error o hscan)
    | ok found =>
      have hfinds := Session.finds_of_scan hscan hsources
      refine ⟨opened, logging, found.entries, hsetup, hfinds, ?_⟩
      have hlogging := (Session.continues_scanned (opening opened logging i) config
        found).logging
      have hwrite : ∀ s : Session, s.deliver o config found =
          s.write config.output (GeneratedModule.ofEntries found.entries config.escape) := by
        intro s
        simp only [Session.deliver, ho.preview, ho.check, Bool.false_eq_true, if_false]
      rw [Session.generate_of_found o hscan, hwrite] at hending hmodule ⊢
      refine Session.readText_write
        (GeneratedModule.carriageReturn_not_mem_ofEntries hfinds.isFinite config.escape)
        (fun l hl => ?_) hending
      rw [hlogging]
      exact hmodule l hl

/-- A run without a log that ends well changes no file if its module was there, perhaps under
another path. -/
theorem sameFiles_of_generates {config : Config} (ho : o.Generates)
    (hconfig : o.config i.environment = config)
    (hending : (runWith store i o).ending = .status 0) {l : Location}
    (hl : (runWith store i o).store.locate config.output = .ok l)
    (hthere : ∀ entries, store.Finds i.decoders config.names config.sources entries →
      store.item? l =
      some (.file (Utf8.encode (GeneratedModule.ofEntries entries config.escape)))) :
    store.SameFiles (runWith store i o).store := by
  obtain ⟨entries, hfinds, ⟨b, hb⟩, hstore⟩ := runWith_eq_status ho hconfig hending
  have hcontent := hthere entries hfinds
  rw [hstore] at hl ⊢
  rcases store.writeModule_cases config.output (GeneratedModule.ofEntries entries config.escape)
    with ⟨fault, hfailed, -⟩ | ⟨-, -, hsame⟩ | ⟨-, -, made, at_, hmade, hat, hset⟩
  · rw [hfailed] at hb
    cases hb
  · rw [hsame]
    exact .refl _ _
  · rw [hset] at hl ⊢
    cases ((hat.locate_set _).2 hat.locate).symm.trans hl
    refine ⟨fun l' _ content => ?_, fun l' hdirectory => ?_⟩
    · by_cases hl' : l' = l
      · rw [hl', hat.item?_set_self, hcontent]
      · rw [hat.item?_set_of_ne _ hl', hmade.sameFiles.file l' id]
    · exact (hat.directory_set _).2 (hmade.sameFiles.directory l' hdirectory)

/-- Without a log file and a preview, a check passes if the same run would succeed and change
nothing. -/
theorem runWith_checking (hlog : o.logFile = "") (hpreview : o.preview = none)
    (arguments : List String) :
    (runWith store { i with arguments } o.checking).ending = .status 0 ↔
      (runWith store i o).ending = .status 0 ∧
        ∀ l, (runWith store i o).store.item? l = store.item? l := by
  rcases runWith_alike store i arguments o o.checking rfl rfl rfl with
    ⟨hsame, hstore⟩ | ⟨opened, logging, hsetup, hrun, hcheck⟩
  · rw [hsame, hstore]
    exact (and_iff_left fun _ => rfl).symm
  · obtain ⟨hopened, hwrites⟩ := not_writesTo_of_setup hsetup hlog
    rw [hrun, hcheck, hopened]
    exact Session.generate_checking hwrites hpreview

/-- A run touches the file of its log and the file that the path of its module leads to, no others.
Unless it writes the module and ends well, it touches its log only. If it does, with its log apart,
the module holds the text for the entries that the scan has found. It prints nothing unless a
preview or help is asked for. Without a log file and a preview, a check passes exactly if the same
run without it would end well and leave everything as it is, directories included. -/
theorem run_frame (store : Store) (i : Invocation) :
    let r := run store i
    (∀ fault, Options.read i.arguments = .error fault →
      r.store = store ∧ r.output = "" ∧ r.ending = .status 2) ∧
    (∀ o, Options.read i.arguments = .ok o →
      let config := o.config i.environment
      store.Frame (fun l => LogsTo store o l ∨ r.store.locate config.output = .ok l) r.store ∧
      (r.ending ≠ .status 0 ∨ ¬ o.Writes → store.Frame (LogsTo store o) r.store) ∧
      (o.Writes → r.ending = .status 0 → LogApart store i o →
        ∃ opened logging entries text,
          Logging.setup store o.level o.logFile = .ok (opened, logging) ∧
          opened.Finds i.decoders config.names config.sources entries ∧
          GeneratedModule.emit (entries.map Entry.toRow) config.escape = .ok text ∧
          r.store.readText config.output = .ok text) ∧
      (o.help = false → o.preview = none → r.output = "")) ∧
    ∀ arguments, Options.Inserted ["--check"] i.arguments arguments →
      (∀ o, Options.read i.arguments = .ok o → o.logFile = "" ∧ o.preview = none) →
      ((run store { i with arguments }).ending = .status 0 ↔
        r.ending = .status 0 ∧ ∀ l, r.store.item? l = store.item? l) := by
  intro r
  refine ⟨fun fault hread => ?_, fun o hread => ?_, fun arguments hinserted hplain => ?_⟩
  · have hrun : r = refuse store i.program fault := by
      simp only [r, run, hread]
    rw [hrun]
    exact ⟨rfl, rfl, rfl⟩
  · have hrun : r = runWith store i o := run_of_read hread
    obtain ⟨hfiles, hkept, houtput⟩ := runWith_touches store i o
    rw [hrun]
    refine ⟨hfiles, hkept, fun ho hending hapart => ?_, houtput⟩
    obtain ⟨opened, logging, entries, hsetup, hfinds, htext⟩ :=
      runWith_writes ho hrun hending hapart
    exact ⟨opened, logging, entries, _, hsetup, hfinds, GeneratedModule.emit_toRow entries _,
      htext⟩
  · have hcheck := Options.read_inserted_check hinserted
    cases hread : Options.read i.arguments with
    | error fault =>
      rw [hread] at hcheck
      simp only [r, run, hread, hcheck, Except.map]
      refine iff_of_false (fun hending => ?_) fun hending => ?_
      · cases hending
      · cases hending.1
    | ok o =>
      rw [hread] at hcheck
      simp only [r, run, hread, hcheck, Except.map]
      exact runWith_checking (hplain o hread).1 (hplain o hread).2 arguments

end Runs

def loggedRun : Invocation where
  program := "sitemap-codegen"
  arguments := ["--log-file", "run.log", "--log-level", "DEBUG", "--route-annotation", "route", "."]
  environment := {}
  time := "first"

def loggedOptions : Options where
  paths := ["."]
  routeName := some "route"
  level := "DEBUG"
  logFile := "run.log"

def pageRunWith (arguments : List String) : Invocation := { pageRun "first" with arguments }

/-- A run with a log beside its sources, a check, an option that is none, and the check beside the
run that it stands for. -/
theorem run_loggedPage :
    let arguments := (pageRun "first").arguments
    ((Options.read loggedRun.arguments = .ok loggedOptions ∧ loggedOptions.Writes ∧
        (run pageStore loggedRun).ending = .status 0 ∧
        LogApart pageStore loggedRun loggedOptions) ∧
      (Options.read ("--check" :: arguments) = .ok pageOptions.checking ∧
        ¬ pageOptions.checking.Writes) ∧
      Options.read ["--nope"] = .error (.unknown "--nope") ∧
      Options.Inserted ["--check"] arguments ("--check" :: arguments) ∧
      ∀ o, Options.read arguments = .ok o → o.logFile = "" ∧ o.preview = none) ∧
    (∃ (entries : List Entry) (text : String),
      GeneratedModule.emit (entries.map Entry.toRow) false = .ok text ∧
      (run pageStore loggedRun).store.readText "sitemap_generated.py" = .ok text) ∧
    (pageStore.Frame (LogsTo pageStore pageOptions.checking)
        (run pageStore (pageRunWith ("--check" :: arguments))).store ∧
      (run pageStore (pageRunWith ("--check" :: arguments))).output = "") ∧
    (run pageStore (pageRunWith ["--nope"])).store = pageStore ∧
    ((run pageStore (pageRunWith ("--check" :: arguments))).ending = .status 0 ↔
      (run pageStore (pageRun "first")).ending = .status 0 ∧
        ∀ l, (run pageStore (pageRun "first")).store.item? l = pageStore.item? l) := by
  intro arguments
  have hread : Options.read loggedRun.arguments = .ok loggedOptions := by decide
  have ho : loggedOptions.Writes := ⟨rfl, rfl, rfl⟩
  have hending : (run pageStore loggedRun).ending = .status 0 := by decide +kernel
  have hapart : LogApart pageStore loggedRun loggedOptions := by decide +kernel
  have hcheck : Options.read ("--check" :: arguments) = .ok pageOptions.checking := by
    rw [Options.read_check, read_pageRun]
    rfl
  have hmode : ¬ pageOptions.checking.Writes := fun h => nomatch h.check
  have hnope : Options.read ["--nope"] = .error (.unknown "--nope") := by decide
  have hinserted := Options.Inserted.front ["--check"] arguments
  have hplain : ∀ o, Options.read arguments = .ok o → o.logFile = "" ∧ o.preview = none := by
    intro o ho
    cases read_pageRun.symm.trans ho
    exact ⟨rfl, rfl⟩
  obtain ⟨-, hlogged, -⟩ := run_frame pageStore loggedRun
  obtain ⟨-, -, hmodule, -⟩ := hlogged loggedOptions hread
  obtain ⟨opened, logging, entries, text, -, -, htext, hholds⟩ := hmodule ho hending hapart
  obtain ⟨-, hchecked, -⟩ := run_frame pageStore (pageRunWith ("--check" :: arguments))
  obtain ⟨-, hkept, -, hprinted⟩ := hchecked pageOptions.checking hcheck
  obtain ⟨hrefused, -⟩ := run_frame pageStore (pageRunWith ["--nope"])
  obtain ⟨-, -, hagrees⟩ := run_frame pageStore (pageRun "first")
  exact ⟨⟨⟨hread, ho, hending, hapart⟩, ⟨hcheck, hmode⟩, hnope, hinserted, hplain⟩,
    ⟨entries, text, htext, hholds⟩, ⟨hkept (.inr hmode), hprinted rfl rfl⟩,
    (hrefused _ hnope).1, hagrees _ hinserted hplain⟩

/-- A source without classes beside its module. -/
def settledStore : Store where
  items := [(["p.py"], .file (Utf8.encode "x = 1\n")),
    (["sitemap_generated.py"], .file (Utf8.encode (GeneratedModule.ofEntries [] false)))]

def detourRun : Invocation where
  program := "sitemap-codegen"
  arguments := ["-o", "new/../sitemap_generated.py", "p.py"]
  environment := {}
  time := "first"

def detourOptions : Options where
  paths := ["p.py"]
  output := some "new/../sitemap_generated.py"

/-- A path through a missing directory leads nowhere, so that the check fails; the run creates the
directory and then writes what the file holds already, which changes no file. -/
theorem run_detour :
    Options.Inserted ["--check"] detourRun.arguments ("--check" :: detourRun.arguments) ∧
    (∀ o, Options.read detourRun.arguments = .ok o → o.logFile = "" ∧ o.preview = none) ∧
    (run settledStore { detourRun with
      arguments := "--check" :: detourRun.arguments }).ending = .status 1 ∧
    (run settledStore detourRun).ending = .status 0 ∧
    settledStore.SameFiles (run settledStore detourRun).store := by
  have hread : Options.read detourRun.arguments = .ok detourOptions := by decide
  have hrun : run settledStore detourRun = runWith settledStore detourRun detourOptions :=
    run_of_read hread
  have hending : (run settledStore detourRun).ending = .status 0 := by decide +kernel
  have hl : ((run settledStore detourRun).store.locate "new/../sitemap_generated.py").toOption =
      some ["sitemap_generated.py"] := by decide +kernel
  have hnone : ∀ scan ∈ (scanPaths .plain .none settledStore (detourOptions.config {}).names false
      (detourOptions.config {}).sources).result.toOption, scan.entries = [] := by decide +kernel
  refine ⟨.front _ _, fun o ho => ?_, by decide +kernel, hending, ?_⟩
  · cases hread.symm.trans ho
    exact ⟨rfl, rfl⟩
  · rw [hrun] at hending hl ⊢
    refine sameFiles_of_generates ⟨rfl, rfl, rfl, rfl⟩ rfl hending (mem_toOption.1 hl) ?_
    intro entries hfinds
    obtain ⟨scan, hscan, rfl⟩ := (Store.finds_iff false).1 hfinds
    rw [hnone scan (mem_toOption.2 hscan)]
    rfl

end Command

end Sitemap
