import Sitemap.Config
import Sitemap.Entry
import Sitemap.Log

/-!
# From declarations to entries

* `Declaration.isCandidate` : both decorators are there as they must be written;
* `Declaration.extract` : the entry of a declaration, or `Malformed`, the reason why it has none;
* `Omission` : why a decorated class is left out, with its wording;
* `Declaration.omission?` : the reason why a class without an entry is left out, if it has to do
  with sitemaps at all;
* `ScanNames` : the two names that decorators must be written with;
* `scanDeclarations` : the entries of declarations in order, and the classes left out;
* `scanUnpaired` : whether stand-ins have been put into an entry.
-/

namespace Sitemap

def routeParameter : String := "template"

/-- The parameters of the sitemap decorator in order. -/
def sitemapParameters : List String := ["change_freq", "priority"]

/-! ## Reasons -/

/-- Why a declaration has no entry. -/
inductive Malformed where
  | unresolved (qualified : String)
  | routeNotLiteral
  | routeArity (count : Nat)
  | routeKeyword (key : Option String)
  | routeKind (k : Value.Kind)
  | sitemapNotLiteral
  | sitemapArity (count : Nat)
  | sitemapKeyword (key : Option String)
  | frequencyKind (k : Value.Kind)
  | priorityKind (k : Value.Kind)
  deriving DecidableEq

def keywordText : Option String → String
  | some key => quoted key
  | none => "None"

/-- The wording of a reason. -/
def Malformed.message : Malformed → String
  | unresolved qualified => "no decorator resolves to " ++ qualified
  | routeNotLiteral => "route arguments are not literals"
  | routeArity n => "route takes 1 argument, got " ++ toString n
  | routeKeyword key => "unexpected route keyword " ++ keywordText key
  | routeKind k => "route template is " ++ k.name ++ ", not str"
  | sitemapNotLiteral => "sitemap_url arguments are not literals"
  | sitemapArity n => "sitemap_url takes 2 arguments, got " ++ toString n
  | sitemapKeyword key => "unexpected sitemap_url keyword " ++ keywordText key
  | frequencyKind k => "change_freq is " ++ k.name ++ ", not int"
  | priorityKind k => "priority is " ++ k.name ++ ", not a number"

/-- Why a decorated class is left out. -/
inductive Omission where
  | missing (name : String)
  | misspelled (route sitemap : String)
  | malformed (reason : Malformed)
  deriving DecidableEq

def Omission.message : Omission → String
  | missing name => "missing " ++ name ++ " decorator"
  | misspelled route sitemap => "decorators must be written as " ++ route ++ " and " ++ sitemap
  | malformed reason => reason.message

/-! ## Entries -/

/-- The names that the two decorators must be written with. -/
structure ScanNames where
  route : String := routeAnnotation
  sitemap : String := "sitemap_url"

def Config.names (c : Config) : ScanNames := ⟨c.routeName, c.sitemapName⟩

/-- Both names are found among those that annotations are written with. The flags say which of them
was found before, and the search ends with the second one. -/
def findsBoth (names : ScanNames) (route sitemap : Bool) : List Annotation → Bool
  | [] => false
  | a :: rest =>
    let isRoute := !route && a.written == names.route
    let isSitemap := !sitemap && a.written == names.sitemap
    if isRoute && sitemap then true
    else if isSitemap && (route || isRoute) then true
    else findsBoth names (route || isRoute) (sitemap || isSitemap) rest

/-- Both decorators are there as they must be written. -/
def Declaration.isCandidate (d : Declaration) (names : ScanNames) : Bool :=
  findsBoth names false false d.annotations

/-- The first annotation that resolves to a name. -/
def Declaration.firstNamed (d : Declaration) (qualified : String) : Except Malformed Annotation :=
  match d.annotations.find? (·.name == some qualified) with
  | some a => .ok a
  | none => .error (.unresolved qualified)

/-- The value that a route annotation gives for the path template. -/
def Annotation.templateValue (a : Annotation) : Except Malformed Value :=
  if !a.resolved then .error .routeNotLiteral
  else if a.arity ≠ 1 then .error (.routeArity a.arity)
  else match a.args, a.kwargs with
    | v :: _, _ => .ok v
    | [], (key, v) :: _ =>
      if key = some routeParameter then .ok v else .error (.routeKeyword key)
    | [], [] => .error (.routeArity 0)

/-- The path template that a route annotation gives, with stand-ins for halves of pairs. -/
def Annotation.template (a : Annotation) : Except Malformed String := do
  let v ← a.templateValue
  match v.text? with
  | some s => .ok s
  | none => .error (.routeKind v.kindOf)

/-- The values bound to the parameters of the sitemap decorator. -/
structure SitemapArguments where
  frequency : Option Value := none
  priority : Option Value := none

/-- Binds a keyword to a parameter that is still free. -/
def SitemapArguments.bind (s : SitemapArguments) (key : Option String) (v : Value) :
    Except Malformed SitemapArguments :=
  if key = some "change_freq" ∧ s.frequency.isNone then .ok { s with frequency := some v }
  else if key = some "priority" ∧ s.priority.isNone then .ok { s with priority := some v }
  else .error (.sitemapKeyword key)

/-- The values that a sitemap annotation gives to the parameters; what is left out has a
default. -/
def Annotation.sitemapArguments (a : Annotation) : Except Malformed (Value × Value) := do
  if !a.resolved then .error .sitemapNotLiteral
  if sitemapParameters.length < a.args.length then .error (.sitemapArity a.arity)
  let positional : SitemapArguments := ⟨a.args[0]?, a.args[1]?⟩
  let bound ← a.kwargs.foldlM (fun s (key, v) => s.bind key v) positional
  return (bound.frequency.getD (.int 0), bound.priority.getD (.float (.ofRatio false 1 2)))

/-- The integer of a value that is one and no truth value. -/
def Value.ordinal? : Value → Option Int
  | .int n => some n
  | .frequency f => some f.ordinal
  | _ => Option.none

/-- The clamped priority of a value that is a number and no truth value. -/
def Value.priority? : Value → Option Binary64
  | .float x => some (Priority.clamp x)
  | v => v.ordinal?.map Priority.clampInt

/-- The entry of a declaration. -/
def Declaration.extract (d : Declaration) : Except Malformed Entry := do
  let template ← (← d.firstNamed routeAnnotation).template
  let (frequency, priority) ← (← d.firstNamed sitemapAnnotation).sitemapArguments
  match frequency.ordinal? with
  | none => .error (.frequencyKind frequency.kindOf)
  | some n =>
    match priority.priority? with
    | none => .error (.priorityKind priority.kindOf)
    | some x => return ⟨template, .ofOrdinal n, x⟩

def Declaration.entry? (d : Declaration) : Option Entry := d.extract.toOption

/-! ## Omissions -/

def Declaration.mentions (d : Declaration) (written qualified : String) : Bool :=
  d.annotations.any fun a => a.written == written || a.name == some qualified

/-- Why a declaration without an entry is left out; one that mentions neither decorator is not
reported. -/
def Declaration.omission? (d : Declaration) (names : ScanNames) : Option Omission :=
  let route := d.mentions names.route routeAnnotation
  let sitemap := d.mentions names.sitemap sitemapAnnotation
  if !route && !sitemap then none
  else if !route then some (.missing names.route)
  else if !sitemap then some (.missing names.sitemap)
  else if !d.isCandidate names then some (.misspelled names.route names.sitemap)
  else match d.extract with
    | .error reason => some (.malformed reason)
    | .ok _ => none

/-- A class that is left out, with the reason. -/
structure Omitted where
  declaration : Declaration
  reason : Omission

def Omitted.describe (o : Omitted) : String :=
  let d := o.declaration
  d.path ++ ":" ++ toString d.line ++ " " ++ d.moduleName ++ "." ++ d.qualname ++ ": " ++
    o.reason.message

def Omitted.warning (o : Omitted) : Log.Record :=
  ⟨.scanner, .warning, "Omitted from sitemap: " ++ o.describe⟩

/-- What scanning one declaration gives. -/
inductive Scanned where
  | entry (e : Entry)
  | omitted (o : Omitted)
  | silent

/-- Scans one declaration. -/
def Declaration.scan (names : ScanNames) (d : Declaration) : Scanned :=
  if d.annotations.isEmpty then .silent
  else match if d.isCandidate names then d.entry? else none with
    | some e => .entry e
    | none => match d.omission? names with
      | some reason => .omitted ⟨d, reason⟩
      | none => .silent

/-- The entries of declarations, in order. -/
def scanEntries (names : ScanNames) (ds : List Declaration) : List Entry :=
  ds.filterMap fun d => match d.scan names with
    | .entry e => some e
    | _ => none

/-- The declarations that are left out, in order. -/
def scanOmitted (names : ScanNames) (ds : List Declaration) : List Omitted :=
  ds.filterMap fun d => match d.scan names with
    | .omitted o => some o
    | _ => none

/-- The path template of a declaration has half of a pair. -/
def Declaration.isUnpaired (d : Declaration) : Bool :=
  match d.firstNamed routeAnnotation with
  | .ok a => a.templateValue.toOption.any Value.isUnpaired
  | .error _ => false

/-- Some entry of declarations has a path template with half of a pair, so that a document of the
entries cannot be encoded. -/
def scanUnpaired (names : ScanNames) (ds : List Declaration) : Bool :=
  ds.any fun d => match d.scan names with
    | .entry _ => d.isUnpaired
    | _ => false

/-- The outcome of a scan. -/
structure ScanResult where
  entries : List Entry
  omitted : List Omitted
  records : List Log.Record

/-- Scans declarations. Omissions are recorded and reported only if asked for. -/
def scanDeclarations (names : ScanNames) (diagnose : Bool) (ds : List Declaration) : ScanResult :=
  let omitted := if diagnose then scanOmitted names ds else []
  ⟨scanEntries names ds, omitted, omitted.map Omitted.warning⟩

end Sitemap
