import Sitemap.Endpoint
import Sitemap.GeneratedModule.Loading

/-!
# Sites

* `Site` : an application, a router, whose endpoints an application can take over, and the rows to
  be registered next;
* `Site.newRouter`, `Site.includeRouter` : starting a router and taking over its endpoints;
* `Site.register` : registering the rows, directly or through a generated module;
* `Site.respond` : the answer to a request;
* `Site.step`, `Site.run` : a step of each kind, and the answers to a list of steps.
-/

namespace Sitemap

/-- An application, a router with the path that it puts before its endpoints, and the rows to be
registered next. -/
structure Site where
  application : List Endpoint := []
  routerPath : String := ""
  router : List Endpoint := []
  rows : List Row := []

namespace Site

/-- Where an endpoint is added. -/
inductive Target where
  | application
  | router
  deriving DecidableEq, Repr

/-- Why a router cannot have a path. -/
inductive PathFault where
  | start
  | finish
  deriving DecidableEq, Repr

def PathFault.message : PathFault → String
  | start => "A path prefix must start with '/'"
  | finish => "A path prefix must not end with '/', as the routes will start with '/'"

/-- Starts a new router. Its path is empty, or starts with a slash and does not end with one. -/
def newRouter (s : Site) (path : String) : Except PathFault Site :=
  if path.isEmpty then .ok { s with routerPath := path, router := [] }
  else if path.toList.head? ≠ some '/' then .error .start
  else if endsWithSlash path then .error .finish
  else .ok { s with routerPath := path, router := [] }

/-- The application takes over the endpoints that the router has now. -/
def includeRouter (s : Site) : Site := { s with application := s.application ++ s.router }

def add (s : Site) (target : Target) (e : Endpoint) : Site :=
  match target with
  | .application => { s with application := s.application ++ [e] }
  | .router => { s with router := s.router ++ [e.below s.routerPath] }

/-- Registers rows: the site with their endpoint, and the endpoint. -/
def registerRows (s : Site) (target : Target) (url : String) (rows : List Row) (escaped : Bool) :
    Site × Endpoint :=
  let e := Endpoint.ofRows url rows escaped
  (s.add target e, e)

/-- Why the rows of the site cannot be registered through a generated module. -/
inductive GenerationFault where
  | row (fault : Row.Fault)
  | load (fault : GeneratedModule.LoadFault)
  deriving DecidableEq

/-- How rows come to be registered: as they are, or through a generated module that holds them. -/
inductive Via where
  | direct
  | generated
  deriving DecidableEq, Repr

/-- Registers the rows of the site. -/
def register (s : Site) (via : Via) (target : Target) (url : String) (escaped : Bool) :
    Except GenerationFault (Site × Endpoint) :=
  match via with
  | .direct => .ok (s.registerRows target url s.rows escaped)
  | .generated => do
    let text ← (GeneratedModule.emit s.rows escaped).mapError .row
    let loaded ← (GeneratedModule.load text).mapError .load
    return s.registerRows target url loaded.rows loaded.escaped

def respond (s : Site) (method address : String) : Except Row.Fault Response :=
  Endpoint.respond s.application method.toUpper (requestPath address)

/-! ## Runs -/

/-- One step of a run. -/
inductive Step where
  | rows (rows : List Row)
  | append (row : Row)
  | router (path : String)
  | includeRouter
  | register (via : Via) (target : Target) (url : String) (escaped : Bool)
  | request (method address : String)

/-- The answer to a step. -/
inductive Answer where
  | done
  | badPath (fault : PathFault)
  | registered (endpoint : Endpoint)
  | notRegistered (fault : GenerationFault)
  | response (response : Response)
  | notRendered (fault : Row.Fault)

/-- The site after a step and the answer to it. A step that fails leaves the site as it is. -/
def step (s : Site) : Step → Site × Answer
  | .rows rows => ({ s with rows }, .done)
  | .append row => ({ s with rows := s.rows ++ [row] }, .done)
  | .router path => match s.newRouter path with
    | .ok s' => (s', .done)
    | .error fault => (s, .badPath fault)
  | .includeRouter => (s.includeRouter, .done)
  | .register via target url escaped => match s.register via target url escaped with
    | .ok (s', e) => (s', .registered e)
    | .error fault => (s, .notRegistered fault)
  | .request method address => match s.respond method address with
    | .ok response => (s, .response response)
    | .error fault => (s, .notRendered fault)

/-- The site after steps and the answers to them in order. -/
def run (s : Site) : List Step → Site × List Answer
  | [] => (s, [])
  | first :: rest =>
    let (s, reply) := s.step first
    let (s, replies) := run s rest
    (s, reply :: replies)

end Site

end Sitemap
