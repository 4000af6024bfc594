import Sitemap.Document
import Sitemap.Endpoint.Address
import Sitemap.Log

/-!
# Endpoints

* `Endpoint` : a path with what is rendered there;
* `Endpoint.record` : the record about a new endpoint;
* `Response` : the answer to a request;
* `Endpoint.respond` : the answer of endpoints, of which the first with a path answers for it.

The rows of an endpoint are those at the moment it was made; each request renders them anew.
-/

namespace Sitemap

/-! ## Endpoints -/

/-- A path with what is rendered there. -/
structure Endpoint where
  path : String
  url : String
  rows : List Row
  escaped : Bool

def sitemapPath : String := "/sitemap.xml"

namespace Endpoint

def ofRows (url : String) (rows : List Row) (escaped : Bool) : Endpoint :=
  ⟨sitemapPath, url, rows, escaped⟩

def record (e : Endpoint) : Log.Record :=
  ⟨.endpoint, .info, "Registered " ++ e.path ++ " with " ++ toString e.rows.length ++
    " entries under " ++ e.url⟩

def below (e : Endpoint) (path : String) : Endpoint := { e with path := path ++ e.path }

def document (e : Endpoint) : Except Row.Fault String := do
  let text ← Document.render e.url e.rows e.escaped
  if e.rows.any Row.isUnpaired then .error .unencodable else .ok text

end Endpoint

/-! ## Responses -/

/-- The answer to a request. -/
structure Response where
  status : Nat
  contentType : Option String
  body : String
  deriving DecidableEq

namespace Response

def length (r : Response) : Nat := (Utf8.encode r.body).length

def document (text : String) : Response := ⟨200, some "text/xml; charset=utf-8", text⟩

def refusal (status : Nat) (reason : String) : Response :=
  ⟨status, some "application/json", "\x7b\"detail\":\"" ++ reason ++ "\"\x7d"⟩

def notFound : Response := refusal 404 "Not Found"

def wrongMethod : Response := refusal 405 "Method Not Allowed"

/-- There is something at the path with or without a slash at its end. -/
def elsewhere : Response := ⟨307, none, ""⟩

end Response

/-- The path with a slash at its end taken away or added. -/
def slashSibling (path : String) : String :=
  if endsWithSlash path then
    String.ofList (path.toList.reverse.dropWhile (· = '/')).reverse
  else path ++ "/"

/-- The answer of endpoints to a request. Only reading is allowed. -/
def Endpoint.respond (endpoints : List Endpoint) (method path : String) :
    Except Row.Fault Response :=
  match endpoints.find? (·.path == routedPath path) with
  | some e =>
    if method = "GET" then e.document.map .document else .ok .wrongMethod
  | none =>
    if path ≠ "/" ∧ endpoints.any (·.path == routedPath (slashSibling path)) then .ok .elsewhere
    else .ok .notFound

end Sitemap
