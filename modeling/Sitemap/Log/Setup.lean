import Sitemap.Path
import Sitemap.Store.Files

/-!
# Setting up the log

* `Log.Handler`, `Logging` : where records go, and how grave they have to be to go there;
* `Log.threshold` : the number that a word stands for, with the words that stand for none;
* `Logging.Fault` : why the log cannot be set up, with its wording;
* `Logging.setup` : sends records to the console, and to a file if one is given, whatever was
  before;
* `Logging.console`, `Logging.write` : what a record puts on the console and into the files.
-/

namespace Sitemap

namespace Log

/-- Where records go. -/
inductive Handler where
  | console
  | file (at_ : Location)
  deriving DecidableEq, Repr

/-- The word of a level in capital letters; letters without a capital among them stay. -/
def capital (c : Char) : List Char :=
  if c = 'ı' then ['I'] else if c = 'ſ' then ['S'] else if c = 'ﬅ' ∨ c = 'ﬆ' then ['S', 'T']
  else [c.toUpper]

/-- What a word in place of a level means: a number; a text, which is no level; a table, which is no
level either. A word without a meaning means the level of information. -/
inductive Threshold where
  | number (n : Nat)
  | text (s : String)
  | table (written : String)
  deriving DecidableEq

/-- The layout of records that other programs fall back on. -/
def basicFormat : String := "%(levelname)s:%(name)s:%(message)s"

def layoutTable : String :=
  "\x7b'%': (<class 'logging.PercentStyle'>, '%(levelname)s:%(name)s:%(message)s'), " ++
  "'\x7b': (<class 'logging.StrFormatStyle'>, '\x7blevelname\x7d:\x7bname\x7d:\x7bmessage\x7d'), " ++
  "'$': (<class 'logging.StringTemplateStyle'>, '$\x7blevelname\x7d:$\x7bname\x7d:$\x7bmessage\x7d')\x7d"

/-- What a word in place of a level means. -/
def threshold (word : String) : Threshold :=
  match String.ofList (word.toList.flatMap capital) with
  | "CRITICAL" | "FATAL" => .number 50
  | "ERROR" => .number 40
  | "WARNING" | "WARN" => .number 30
  | "INFO" => .number 20
  | "DEBUG" => .number 10
  | "NOTSET" => .number 0
  | "BASIC_FORMAT" => .text basicFormat
  | "_STYLES" => .table layoutTable
  | _ => .number 20

end Log

/-- Where records go, and the least number of the levels that do. -/
structure Logging where
  threshold : Nat := 30
  handlers : List Log.Handler := []
  deriving DecidableEq

namespace Logging

/-- Why the log cannot be set up. -/
inductive Fault where
  | unknownLevel (text : String)
  | notLevel (written : String)
  | file (error : FileError)
  deriving DecidableEq

def Fault.message : Fault → String
  | unknownLevel text => "Unknown level: " ++ quoted text
  | notLevel written => "Level not an integer or a valid string: " ++ written
  | file error => error.message

/-- Opens a file to write behind what it holds, and creates it if it is missing. The path is
condensed before it is followed. -/
def openFile (s : Store) (path : String) : Except FileError (Store × Location) :=
  let path := (Path.ofText path).condensed.text
  match s.target path with
  | .ok at_ => .ok (if (s.item? at_).isSome then s else s.set at_ (.file []), at_)
  | .error fault => .error ⟨fault, path⟩

/-- Sends records of a level and above to the console, and to a file if a path is given. What was
set up before is removed. -/
def setup (s : Store) (level file : String) : Except Fault (Store × Logging) :=
  match Log.threshold level with
  | .text text => .error (.unknownLevel text)
  | .table written => .error (.notLevel written)
  | .number n =>
    if file.isEmpty then .ok (s, ⟨n, [.console]⟩)
    else match openFile s file with
      | .ok (s, at_) => .ok (s, ⟨n, [.console, .file at_]⟩)
      | .error error => .error (.file error)

def accepts (l : Logging) (r : Log.Record) : Bool := l.threshold ≤ r.level.number

def console (l : Logging) (time : String) (r : Log.Record) : String :=
  if l.accepts r then String.join (l.handlers.filterMap fun
    | .console => some (r.line time)
    | .file _ => none)
  else ""

def write (l : Logging) (time : String) (s : Store) (r : Log.Record) : Store :=
  if l.accepts r then l.handlers.foldl (fun s handler =>
    match handler with
    | .console => s
    | .file at_ => s.append at_ (Utf8.encode (r.line time))) s
  else s

end Logging

end Sitemap
