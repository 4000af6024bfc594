import Sitemap.Config
import Sitemap.Log.Setup

/-!
# The command line

* `Options` : what a command line asks for;
* `UsageFault` : why a command line cannot be read, with its wording;
* `Options.read` : reads the arguments one after the other, options and paths in any order;
* `Options.verify` : the level for the log, once it is known to be one and all paths lead to
  something;
* `Options.config` : the configuration, where options go before the environment.
-/

namespace Sitemap

/-- What a command line asks for. -/
structure Options where
  paths : List String := []
  output : Option String := none
  routeName : Option String := none
  sitemapName : Option String := none
  escape : Option Bool := none
  reportOmitted : Option Bool := none
  check : Bool := false
  preview : Option String := none
  validate : Bool := false
  level : String := "WARNING"
  logFile : String := ""
  help : Bool := false
  deriving DecidableEq, Repr

/-- Why a command line cannot be read. -/
inductive UsageFault where
  | unknown (option : String)
  | needsValue (option : String)
  | takesNoValue (option : String)
  | notLevel (word : String)
  | missingPath (path : String)
  deriving DecidableEq, Repr

namespace UsageFault

/-- The wording of a fault. -/
def text : UsageFault → String
  | unknown option => "No such option " ++ quoted option ++ "."
  | needsValue option => "Option " ++ quoted option ++ " requires an argument."
  | takesNoValue option => "Option " ++ quoted option ++ " does not take a value."
  | notLevel word => "Invalid value for '--log-level': " ++ quoted word ++
      " is not one of 'DEBUG', 'INFO', 'WARNING', 'ERROR'."
  | missingPath path => "Invalid value for '[PATHS]...': Path " ++ quoted path ++
      " does not exist."

/-- The usage is shown before the fault, unless an option is used in a wrong way. -/
def showsUsage : UsageFault → Bool
  | needsValue _ => false
  | takesNoValue _ => false
  | _ => true

def message (program : String) (f : UsageFault) : String :=
  (if f.showsUsage then "Usage: " ++ program ++ " [OPTIONS] [PATHS]...\nTry '" ++ program ++
    " --help' for help.\n\n" else "") ++ "Error: " ++ f.text ++ "\n"

end UsageFault

namespace Options

/-! ## Arguments -/

/-- What an option does: it takes a value, or it is a switch. -/
inductive Meaning where
  | value (set : String → Options → Options)
  | switch (set : Options → Options)

def setOutput (v : String) (o : Options) : Options := { o with output := some v }

/-- What the long form of an option does. -/
def meaning? : String → Option Meaning
  | "--output" => some (.value setOutput)
  | "--route-annotation" => some (.value fun v o => { o with routeName := some v })
  | "--sitemap-annotation" => some (.value fun v o => { o with sitemapName := some v })
  | "--escape-xml" => some (.switch fun o => { o with escape := some true })
  | "--no-escape-xml" => some (.switch fun o => { o with escape := some false })
  | "--report-omitted" => some (.switch fun o => { o with reportOmitted := some true })
  | "--no-report-omitted" => some (.switch fun o => { o with reportOmitted := some false })
  | "--check" => some (.switch fun o => { o with check := true })
  | "--preview" => some (.value fun v o => { o with preview := some v })
  | "--validate" => some (.switch fun o => { o with validate := true })
  | "--log-level" => some (.value fun v o => { o with level := v })
  | "--log-file" => some (.value fun v o => { o with logFile := v })
  | "--help" => some (.switch fun o => { o with help := true })
  | _ => none

/-- What one argument is: a path, a complete option, an option whose value follows, or a fault. -/
inductive Argument where
  | path
  | complete (set : Options → Options)
  | incomplete (option : String) (set : String → Options → Options)
  | fault (f : UsageFault)

/-- The name of an option, and the value behind an equals sign if there is one. -/
def splitValue (arg : String) : String × Option String :=
  match arg.toList.span (· ≠ '=') with
  | (name, []) => (String.ofList name, none)
  | (name, _ :: value) => (String.ofList name, some (String.ofList value))

/-- Reads one argument. A text that begins with a hyphen is an option in its long form, or else in
the short form, with the value right behind it. -/
def readArgument (arg : String) : Argument :=
  match arg.toList with
  | '-' :: c :: rest =>
    let (name, value?) := splitValue arg
    match meaning? name, value? with
    | some (.value set), some v => .complete (set v)
    | some (.value set), none => .incomplete name set
    | some (.switch set), none => .complete set
    | some (.switch _), some _ => .fault (.takesNoValue name)
    | none, _ =>
      if c = '-' then .fault (.unknown name)
      else if c ≠ 'o' then .fault (.unknown (String.ofList ['-', c]))
      else if rest.isEmpty then .incomplete "-o" setOutput
      else .complete (setOutput (String.ofList rest))
  | _ => .path

/-- Reads arguments after those before. Two hyphens end the options. -/
def readFrom (o : Options) : List String → Except UsageFault Options
  | [] => .ok o
  | arg :: rest =>
    if arg = "--" then .ok { o with paths := o.paths ++ rest }
    else match readArgument arg with
      | .path => readFrom { o with paths := o.paths ++ [arg] } rest
      | .complete set => readFrom (set o) rest
      | .incomplete option set => match rest with
        | [] => .error (.needsValue option)
        | value :: rest => readFrom (set value o) rest
      | .fault f => .error f

def read (arguments : List String) : Except UsageFault Options := readFrom {} arguments

def levelWords : List String := ["DEBUG", "INFO", "WARNING", "ERROR"]

/-- The word for the level is one, and all paths lead to something. -/
def verify (o : Options) (s : Store) : Except UsageFault Unit :=
  if !levelWords.contains o.level then .error (.notLevel o.level)
  else match o.paths.find? (!s.holds ·) with
    | some path => .error (.missingPath path)
    | none => .ok ()

/-- The configuration: what options give, and what the environment gives for the others. -/
def config (o : Options) (env : Environment) : Config :=
  let given := Config.ofEnvironment env
  { sources := if o.paths.isEmpty then given.sources else o.paths
    output := o.output.getD given.output
    routeName := o.routeName.getD given.routeName
    sitemapName := o.sitemapName.getD given.sitemapName
    escape := o.escape.getD given.escape
    reportOmitted := o.reportOmitted.getD given.reportOmitted }

end Options

end Sitemap
