import Sitemap.Declaration.Imports
import Sitemap.Source.Encoding
import Sitemap.Source.LiteralValue
import Sitemap.Source.Written

/-!
# Declarations of a source

* `topLevelNames` : the names that a module defines itself;
* `Resolver` : how written names resolve in a module;
* `Resolver.annotation` : the annotation of a decorator;
* `Stmt.declarations` : the classes of a statement, from the outside in and in source order;
* `inspect` : the classes of a source;
* `Inspection.Fault` : why a source cannot be inspected.
-/

namespace Sitemap

open Source

/-- Why a source cannot be inspected. -/
inductive Inspection.Fault where
  | unreadable (path : String)
  | tooLarge
  | unwritable (fault : WrittenFault)
  deriving DecidableEq

def Inspection.Fault.message : Inspection.Fault → String
  | unreadable path => "Cannot parse " ++ path
  | tooLarge => Value.Fault.message .tooLarge
  | unwritable fault => fault.message

/-- The names that one statement at the top of a module defines. -/
def Source.Stmt.definedNames : Stmt → List String
  | .function name _ _ => [name]
  | .classDef _ name _ _ => [name]
  | .assign targets _ => targets.filterMap fun
    | .name id => some id
    | _ => none
  | .annotated (.name id) => [id]
  | _ => []

def topLevelNames (body : List Stmt) : List String := body.flatMap Stmt.definedNames

/-- How written names resolve in a module, and where its declarations are. -/
structure Resolver where
  moduleName : String
  path : String
  imports : ImportMap
  topLevel : List String

namespace Resolver

/-- The qualified name of a written one: its first part is imported or defined in the module. -/
def resolve? (r : Resolver) (written : String) : Option String :=
  let (head, rest) := splitFirst written
  let base? := match r.imports.lookup head with
    | some target => some target
    | none =>
      if r.topLevel.contains head ∧ ¬ r.moduleName.isEmpty then some (r.moduleName ++ "." ++ head)
      else none
  base?.map fun base => canonicalName (match rest with
    | some rest => if rest.isEmpty then base else base ++ "." ++ rest
    | none => base)

def frequencyNumber? (r : Resolver) (e : Expr) : Option Value := do
  let qualified ← r.resolve? (← e.dottedName?)
  let (owner, member) := splitLast qualified
  if owner = frequencyEnum then
    (Frequency.ofMemberName? member).map fun f => Value.int f.ordinal
  else none

/-- The value of an argument, if it is a literal or the constant of a frequency. -/
def argument (r : Resolver) (e : Expr) : Except Inspection.Fault (Option Value) :=
  match e with
  | .starred _ => .ok none
  | e => match e.literal with
    | .ok v => .ok (some v)
    | .error .tooLarge => .error .tooLarge
    | .error .notLiteral => .ok (r.frequencyNumber? e)

def arguments (r : Resolver) : List Expr → Except Inspection.Fault (Option (List Value))
  | [] => .ok (some [])
  | e :: rest => do
    match ← r.argument e with
    | none => return none
    | some v => return (← r.arguments rest).map (v :: ·)

/-- The annotation of a decorator. -/
def annotation (r : Resolver) (decorator : Expr) : Except Inspection.Fault Annotation :=
  let target := match decorator with
    | .call function _ _ => function
    | e => e
  match target.dottedName? with
  | none =>
    match target.written with
    | .ok text => .ok { written := text, name := none, resolved := false }
    | .error fault => .error (.unwritable fault)
  | some written =>
    let name := r.resolve? written
    match decorator with
    | .call _ positional keywords => do
      let values ← r.arguments (positional ++ keywords.map fun
        | .mk _ value => value)
      match values with
      | none => return { written, name, resolved := false }
      | some values =>
        let keys := keywords.map fun
          | .mk key _ => key
        return { written, name, args := values.take positional.length,
                 kwargs := keys.zip (values.drop positional.length) }
    | _ => .ok { written, name }

end Resolver

mutual

/-- The classes of a statement inside some scopes. -/
def Source.Stmt.declarations (r : Resolver) (scopes : List String) :
    Stmt → Except Inspection.Fault (List Declaration)
  | .classDef line name decorators body => do
    let annotations ← decorators.mapM r.annotation
    let inner ← declarationsOf r (scopes ++ [name]) body
    return ⟨name, ".".intercalate (scopes ++ [name]), r.moduleName, r.path, line, annotations⟩ ::
      inner
  | .function name _ body => declarationsOf r (scopes ++ [name, "<locals>"]) body
  | .branch body otherwise => do
    return (← declarationsOf r scopes body) ++ (← declarationsOf r scopes otherwise)
  | .loop body otherwise => do
    return (← declarationsOf r scopes body) ++ (← declarationsOf r scopes otherwise)
  | .withBlock body => declarationsOf r scopes body
  | .tryBlock body handlers otherwise final => do
    return (← declarationsOf r scopes body) ++ (← declarationsOfAll r scopes handlers) ++
      (← declarationsOf r scopes otherwise) ++ (← declarationsOf r scopes final)
  | .cases bodies => declarationsOfAll r scopes bodies
  | _ => .ok []

def Source.Stmt.declarationsOf (r : Resolver) (scopes : List String) :
    List Stmt → Except Inspection.Fault (List Declaration)
  | [] => .ok []
  | s :: rest => do return (← s.declarations r scopes) ++ (← declarationsOf r scopes rest)

def Source.Stmt.declarationsOfAll (r : Resolver) (scopes : List String) :
    List (List Stmt) → Except Inspection.Fault (List Declaration)
  | [] => .ok []
  | body :: rest => do
    return (← declarationsOf r scopes body) ++ (← declarationsOfAll r scopes rest)

end

def inspectModule (moduleName path : String) (isPackage : Bool) (body : List Stmt) :
    Except Inspection.Fault (List Declaration) :=
  Stmt.declarationsOf ⟨moduleName, path, ImportMap.ofModule moduleName isPackage body,
    topLevelNames body⟩ [] body

def inspect (source : Source.Input) (moduleName path : String) (isPackage : Bool) :
    Except Inspection.Fault (List Declaration) :=
  match Source.parseInput? source with
  | none => .error (.unreadable path)
  | some body => inspectModule moduleName path isPackage body

end Sitemap
