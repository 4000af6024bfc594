/-!
# Log records

* `Log.Level` : how grave a record is, with its number and its name;
* `Log.Part` : the part of the program that writes it, with the name of its logger;
* `Log.Record` : a record;
* `Log.Record.line` : its line in a log, after the time;
* `Logged` : a result with the records written on the way, also when it fails.
-/

namespace Sitemap

namespace Log

/-- How grave a record is. -/
inductive Level where
  | debug
  | info
  | warning
  | error
  deriving DecidableEq, Repr

def Level.name : Level → String
  | debug => "DEBUG"
  | info => "INFO"
  | warning => "WARNING"
  | error => "ERROR"

/-- The number of a level, by which records are filtered. -/
def Level.number : Level → Nat
  | debug => 10
  | info => 20
  | warning => 30
  | error => 40

/-- The part of the program that writes a record; `named` is one that builds on the others. -/
inductive Part where
  | inspector
  | scanner
  | renderer
  | endpoint
  | main
  | named (name : String)
  deriving DecidableEq, Repr

/-- The name of a part's logger. -/
def Part.logger : Part → String
  | inspector => "sitemap_codegen.inspector"
  | scanner => "sitemap_codegen.scanner"
  | renderer => "sitemap_codegen.renderer"
  | endpoint => "sitemap_codegen.endpoint"
  | main => "sitemap_codegen.main"
  | named name => "sitemap_codegen." ++ name

/-- A record. -/
structure Record where
  part : Part
  level : Level
  message : String
  deriving DecidableEq, Repr

def Record.line (time : String) (r : Record) : String :=
  time ++ " - " ++ r.part.logger ++ " - " ++ r.level.name ++ " - " ++ r.message ++ "\n"

def Record.text (r : Record) : String := r.level.name ++ ": " ++ r.message

end Log

/-- A result or a failure, with the records written until then. -/
structure Logged (ε α : Type) where
  records : List Log.Record
  result : Except ε α

namespace Logged

/-- A result without records. -/
def ok {ε α : Type} (x : α) : Logged ε α := ⟨[], .ok x⟩

def write {ε : Type} (r : Log.Record) : Logged ε Unit := ⟨[r], .ok ()⟩

def ofExcept {ε α : Type} (x : Except ε α) : Logged ε α := ⟨[], x⟩

/-- Goes on with a result, the records one after the other. -/
def bind {ε α β : Type} (x : Logged ε α) (f : α → Logged ε β) : Logged ε β :=
  match x.result with
  | .ok a => let y := f a; ⟨x.records ++ y.records, y.result⟩
  | .error e => ⟨x.records, .error e⟩

instance {ε : Type} : Monad (Logged ε) where
  pure := ok
  bind := bind

def mapError {ε δ α : Type} (f : ε → δ) (x : Logged ε α) : Logged δ α :=
  ⟨x.records, x.result.mapError f⟩

end Logged

end Sitemap
