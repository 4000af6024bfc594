import Sitemap.Declaration.Inspection
import Sitemap.Scan
import Sitemap.SourceFiles
import Sitemap.Store.Files

/-!
# Scanning files

* `SourceFile.declarations` : the classes of one file;
* `ScanFault` : why a scan fails, with its wording;
* `inspectFiles` : the classes of files in order;
* `PathScan`, `scanPaths` : the entries of all sources that paths lead to.

Each file is announced by a record before it is read. What writing a record does to the files is a
parameter, since a log may be one of the files that are read.
-/

namespace Sitemap

/-- Why a scan fails. -/
inductive ScanFault where
  | missing (path : MissingSource)
  | file (error : FileError)
  | inspection (fault : Inspection.Fault)
  deriving DecidableEq

def ScanFault.message : ScanFault → String
  | missing path => path.message
  | file error => error.message
  | inspection fault => fault.message

/-- The classes of one file. -/
def SourceFile.declarations (decoders : Decoders) (s : Store) (f : SourceFile) :
    Except ScanFault (List Declaration) := do
  let content ← (s.readBytes f.path.text).mapError .file
  (inspect (.bytes decoders content) f.moduleName f.path.text f.isPackage).mapError .inspection

def SourceFile.announcement (f : SourceFile) : Log.Record :=
  ⟨.inspector, .debug, "Inspecting " ++ f.path.text ++ " as module " ++
    (if f.moduleName.isEmpty then "<unnamed>" else f.moduleName)⟩

/-- What writing a record does to the files. -/
abbrev RecordEffect := Store → Log.Record → Store

def RecordEffect.none : RecordEffect := fun s _ => s

/-- The classes of files in order. -/
def inspectFiles (decoders : Decoders) (effect : RecordEffect) (s : Store) :
    List SourceFile → Logged ScanFault (List Declaration)
  | [] => .ok []
  | f :: rest => do
    Logged.write f.announcement
    let s := effect s f.announcement
    let found ← Logged.ofExcept (f.declarations decoders s)
    let others ← inspectFiles decoders effect s rest
    return found ++ others

/-- What a scan of paths finds. `unpaired` says that stand-ins have been put into the entries. -/
structure PathScan where
  fileCount : Nat
  classCount : Nat
  entries : List Entry
  omitted : List Omitted
  unpaired : Bool

def PathScan.summary (p : PathScan) : String :=
  "Scanned " ++ groupedText p.fileCount ++ " files, " ++ groupedText p.classCount ++
    " classes: " ++ groupedText p.entries.length ++ " sitemap entries"

/-- Scans all sources that paths lead to. Only listing them can go on without end. -/
def scanPaths (decoders : Decoders) (effect : RecordEffect) (s : Store) (names : ScanNames)
    (diagnose : Bool) (paths : List String) : Logged (Stop ScanFault) PathScan := do
  let files ← Logged.ofExcept ((s.sourceFiles paths).mapError (.map .missing))
  let declarations ← (inspectFiles decoders effect s files).mapError .fault
  let found := scanDeclarations names diagnose declarations
  let scan : PathScan := ⟨files.length, declarations.length, found.entries, found.omitted,
    scanUnpaired names declarations⟩
  ⟨found.records ++ [⟨.scanner, .info, scan.summary⟩], .ok scan⟩

end Sitemap
