import Sitemap.Command.Help
import Sitemap.Command.Options
import Sitemap.Document
import Sitemap.GeneratedModule
import Sitemap.Scan.Paths
import Sitemap.Text.Terminal
import Sitemap.Validation

/-!
# The command

* `Command.Fault` : what can end a run, with its wording, and whether it is reported or escapes;
* `Command.Session` : the files, the log and what has been shown so far;
* `Session.record`, `Session.note`, `Session.print` : a record, a line for the user, and the result;
* `Command.Outcome` : the files after a run, what it showed, and how it ended;
* `Session.preview`, `Session.check`, `Session.write` : the three things that a run does with its entries;
* `Command.run` : a run.
-/

namespace Sitemap.Command

/-! ## Faults -/

/-- What can end a run. -/
inductive Fault where
  | logging (fault : Logging.Fault)
  | scan (fault : ScanFault)
  | text (fault : TextFault)
  | unencodable
  deriving DecidableEq

def Fault.message : Fault → String
  | logging fault => fault.message
  | scan fault => fault.message
  | text fault => fault.message
  | unencodable => "surrogates not allowed"

/-- The fault is reported to the user: an operation on a file failed, or a source is unreadable.
All others escape. -/
def Fault.isReported : Fault → Bool
  | scan (.missing _) => true
  | scan (.file _) => true
  | scan (.inspection (.unreadable _)) => true
  | text (.file _) => true
  | _ => false

/-- How a run ends: with a status, by a fault that escapes, or not at all. -/
inductive Ending where
  | status (code : Nat)
  | escaped (fault : Fault)
  | endless
  deriving DecidableEq

/-- The status that the caller sees, if the run ends. -/
def Ending.code? : Ending → Option Nat
  | status code => some code
  | escaped _ => some 1
  | endless => none

/-- The files after a run, what it showed, and how it ended. -/
structure Outcome where
  store : Store
  output : String
  errors : String
  ending : Ending

/-! ## Sessions -/

/-- The files, the log and what has been shown so far. -/
structure Session where
  store : Store
  logging : Logging
  decoders : Decoders
  time : String
  output : String := ""
  errors : String := ""

namespace Session

def finish (s : Session) (ending : Ending) : Outcome := ⟨s.store, s.output, s.errors, ending⟩

/-- What writing a record does to the files. -/
def effect (s : Session) : RecordEffect := s.logging.write s.time

def record (s : Session) (r : Log.Record) : Session :=
  { s with store := s.effect s.store r, errors := s.errors ++ s.logging.console s.time r }

def recordAll (s : Session) (rs : List Log.Record) : Session := rs.foldl record s

def note (s : Session) (line : String) : Session :=
  { s with errors := s.errors ++ stripSequences line ++ "\n" }

def print (s : Session) (text : String) : Session :=
  { s with output := s.output ++ stripSequences text }

def fail (s : Session) (fault : Fault) : Outcome :=
  if fault.isReported then
    ((s.record ⟨.main, .error, "Fatal error: " ++ fault.message⟩).note
      ("Error: " ++ fault.message)).finish (.status 1)
  else s.finish (.escaped fault)

def summarize (s : Session) (scan : PathScan) : Session :=
  scan.omitted.foldl (fun s o => s.note ("  omitted " ++ o.describe)) (s.note scan.summary)

/-- Shows the document of entries under a base address, and validates it if asked for. -/
def preview (s : Session) (base : String) (entries : List Entry) (escaped validate : Bool) :
    Outcome :=
  let document := Document.ofEntries base entries escaped
  let s := s.print document
  if validate then
    let (valid, records) := Validation.check document
    let s := s.recordAll records
    if valid then s.finish (.status 0)
    else (s.note "Rendered sitemap is invalid").finish (.status 1)
  else s.finish (.status 0)

def check (s : Session) (path source : String) : Outcome :=
  match s.store.holdsText path source with
  | .error fault => s.fail (.text fault)
  | .ok true => (s.note ("Up to date: " ++ path)).finish (.status 0)
  | .ok false => (s.note ("Out of date: " ++ path)).finish (.status 1)

/-- Writes the source text of the generated module into a file. -/
def write (s : Session) (path source : String) : Outcome :=
  let written := s.store.writeModule path source
  let s := { s with store := written.store }.recordAll written.records
  match written.outcome with
  | .error fault => s.fail (.text fault)
  | .ok true => (s.note ("Wrote " ++ path)).finish (.status 0)
  | .ok false => (s.note ("Unchanged " ++ path)).finish (.status 0)

/-- Scans, and does with the entries what the options ask for: a preview goes before a check. -/
def generate (s : Session) (o : Options) (config : Config) : Outcome :=
  let scan := scanPaths s.decoders s.effect s.store config.names config.reportOmitted config.sources
  let s := s.recordAll scan.records
  match scan.result with
  | .error .endless => s.finish .endless
  | .error (.fault fault) => s.fail (.scan fault)
  | .ok found =>
    let s := s.summarize found
    match o.preview with
    | some base =>
      if found.unpaired then s.fail .unencodable
      else s.preview base found.entries config.escape o.validate
    | none =>
      let source := GeneratedModule.ofEntries found.entries config.escape
      if o.check then s.check config.output source else s.write config.output source

end Session

/-! ## Runs -/

/-- What a run is given: the name of the program, its arguments and environment, the time that
records are dated with, and the decoders that are installed. -/
structure Invocation where
  program : String
  arguments : List String
  environment : Environment
  time : String
  decoders : Decoders := .plain

def refuse (store : Store) (program : String) (fault : UsageFault) : Outcome :=
  ⟨store, "", stripSequences (fault.message program), .status 2⟩

/-- A run with options. -/
def runWith (store : Store) (i : Invocation) (o : Options) : Outcome :=
  if o.help then ⟨store, help i.program, "", .status 0⟩
  else match o.verify store with
    | .error fault => refuse store i.program fault
    | .ok () =>
      match Logging.setup store o.level o.logFile with
      | .error fault => ⟨store, "", "", .escaped (.logging fault)⟩
      | .ok (store, logging) =>
        Session.generate { store, logging, decoders := i.decoders, time := i.time } o
          (o.config i.environment)

def run (store : Store) (i : Invocation) : Outcome :=
  match Options.read i.arguments with
  | .error fault => refuse store i.program fault
  | .ok o => runWith store i o

end Sitemap.Command
