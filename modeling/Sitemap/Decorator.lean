import Sitemap.Value

/-!
# Decorators when they run

* `Call` : the arguments of a call;
* `CallFault` : why arguments do not fit, or a decorator refuses them, with its wording;
* `Signature`, `Signature.bind` : the parameters of a function, and the values bound to them;
* `Marks` : what the decorators have left on a class;
* `Decorator`, `Decorator.apply` : one decorator, and the marks after it.
-/

namespace Sitemap

/-- The arguments of a call. -/
structure Call where
  args : List Value := []
  kwargs : List (String × Value) := []

/-- The parameters of a function: how many of them have to be given, and all of them in order. -/
structure Signature where
  function : String
  required : Nat
  parameters : List String
  deriving DecidableEq

/-- Why arguments do not fit, or a decorator refuses them. -/
inductive CallFault where
  | unexpected (function keyword : String)
  | repeated (function keyword : String)
  | tooMany (signature : Signature) (given : Nat)
  | missing (function parameter : String)
  | notText (k : Value.Kind)
  | immutable (k : Value.Kind)
  deriving DecidableEq

def Signature.countText (s : Signature) : String :=
  let n := s.parameters.length
  (if s.required = n then toString n else "from " ++ toString s.required ++ " to " ++ toString n) ++
    " positional argument" ++ (if s.required = n ∧ n = 1 then "" else "s")

/-- The wording of a fault. -/
def CallFault.message : CallFault → String
  | unexpected function key => function ++ "() got an unexpected keyword argument '" ++ key ++ "'"
  | repeated function key => function ++ "() got multiple values for argument '" ++ key ++ "'"
  | tooMany s given => s.function ++ "() takes " ++ s.countText ++ " but " ++ toString given ++
      (if given = 1 then " was given" else " were given")
  | missing function parameter => function ++ "() missing 1 required positional argument: '" ++
      parameter ++ "'"
  | notText k => "route template must be a string, got " ++ k.name
  | immutable k => "cannot set '__sitemap_url__' attribute of immutable type '" ++ k.name ++ "'"

/-- Binds one keyword to its parameter, which has to be free. -/
def Signature.bindKeyword (s : Signature) (bound : List (String × Value)) :
    String × Value → Except CallFault (List (String × Value))
  | (key, v) =>
    if !s.parameters.contains key then .error (.unexpected s.function key)
    else if (bound.lookup key).isSome then .error (.repeated s.function key)
    else .ok (bound ++ [(key, v)])

/-- The values bound to parameters: positional ones in order, then keywords. A keyword that does
not fit counts before a positional argument too many. -/
def Signature.bind (s : Signature) (c : Call) : Except CallFault (List (String × Value)) := do
  let bound ← c.kwargs.foldlM s.bindKeyword (s.parameters.zip c.args)
  if s.parameters.length < c.args.length then .error (.tooMany s c.args.length)
  match (s.parameters.take s.required).find? fun p => (bound.lookup p).isNone with
  | some parameter => .error (.missing s.function parameter)
  | none => .ok bound

def routeSignature : Signature := ⟨"route", 1, ["template"]⟩

/-- The decorator for sitemaps takes a frequency and a priority, both optional. -/
def sitemapSignature : Signature := ⟨"sitemap_url", 0, ["change_freq", "priority"]⟩

/-- What the decorators have left on a class. -/
structure Marks where
  route : Option String := none
  sitemap : Option (Value × Value) := none

/-- A decorator: the one for paths, the one for sitemaps, and the latter applied without a call. -/
inductive Decorator where
  | route (call : Call)
  | sitemap (call : Call)
  | bareSitemap

namespace Decorator

def defaultFrequency : Value := .frequency .always

def defaultPriority : Value := .float (.ofRatio false 1 2)

/-- The template that a call gives, which has to be a text, with stand-ins for halves of pairs. -/
def template (c : Call) : Except CallFault String := do
  let bound ← routeSignature.bind c
  let v := (bound.lookup "template").getD .none
  match v.text? with
  | some s => return s
  | none => throw (.notText v.kindOf)

/-- The frequency and the priority that a call gives. A class in place of the frequency is taken as
the one to decorate, and the classes that values can name cannot be decorated. -/
def metadata (c : Call) : Except CallFault (Value × Value) := do
  let bound ← sitemapSignature.bind c
  match (bound.lookup "change_freq").getD defaultFrequency with
  | .kind k => throw (.immutable k)
  | frequency => return (frequency, (bound.lookup "priority").getD defaultPriority)

def apply (m : Marks) : Decorator → Except CallFault Marks
  | route call => do return { m with route := some (← template call) }
  | sitemap call => do return { m with sitemap := some (← metadata call) }
  | bareSitemap => .ok { m with sitemap := some (defaultFrequency, defaultPriority) }

/-- The marks after decorators, the first of them being applied first. -/
def applyAll (m : Marks) (ds : List Decorator) : Except CallFault Marks := ds.foldlM apply m

end Decorator

end Sitemap
