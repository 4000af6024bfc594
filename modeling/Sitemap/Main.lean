import Sitemap.Command
import Std.Time

/-!
# The program

Reads the files below the working directory, runs the command on them, and carries out what it has
changed and shown.
-/

namespace Sitemap.Main

/-- What is below a directory, which is at a location. -/
partial def readBelow (at_ : Location) (directory : IO.FS.DirEntry) :
    IO (List (Location × Item)) := do
  let mut items := []
  for entry in ← directory.path.readDir do
    let below := at_ ++ [entry.fileName]
    match (← entry.path.metadata).type with
    | .dir => items := items ++ (below, .directory) :: (← readBelow below entry)
    | .file => items := items ++ [(below, .file (← IO.FS.readBinFile entry.path).data.toList)]
    | _ => pure ()
  return items

def readStore : IO Store := return ⟨← readBelow [] ⟨".", "."⟩⟩

def readEnvironment : IO Environment := do
  let names := ["SOURCES", "OUTPUT", "ROUTE_ANNOTATION", "SITEMAP_ANNOTATION", "ESCAPE_XML",
    "REPORT_OMITTED"].map ("SITEMAP_CODEGEN_" ++ ·)
  let values ← names.mapM fun name => return (name, ← IO.getEnv name)
  return .ofVariables fun name => (values.lookup name).join

/-- Creates the directories and writes the files that are not as they were. -/
def writeChanges (earlier later : Store) : IO Unit := do
  for (at_, item) in later.items do
    if item == .directory && (earlier.item? at_).isNone then
      IO.FS.createDirAll (Path.mk at_).text
  for (at_, content) in later.changesFrom earlier do
    IO.FS.writeBinFile (Path.mk at_).text ⟨content.toArray⟩

/-- Goes on without end. -/
partial def idle : IO UInt32 := do
  IO.sleep 1000
  idle

end Sitemap.Main

open Sitemap in
/-- Runs the command and ends with its status, if the run ends. -/
def main (arguments : List String) : IO UInt32 := do
  let store ← Main.readStore
  let now ← Std.Time.PlainDateTime.now
  let outcome := Command.run store
    { program := "sitemap-codegen"
      arguments
      environment := ← Main.readEnvironment
      time := now.format "uuuu-MM-dd HH:mm:ss" }
  Main.writeChanges store outcome.store
  IO.print outcome.output
  IO.eprint outcome.errors
  if let .escaped fault := outcome.ending then IO.eprintln fault.message
  match outcome.ending.code? with
  | some code => return code.toUInt32
  | none => Main.idle
