import Sitemap.Entry

/-!
# The sitemap document

* `joinLocation` : a base address and a path, a slash on both sides being kept once;
* `Document.escape` : the three characters that would be read as markup, as references;
* `Document.url` : the element of one page;
* `Document.render` : the document of all pages in order;
* `Document.ofEntries` : the document of entries, which can always be rendered;
* `Row.rendered` : the parts that one row puts into the document, or why it cannot.
-/

namespace Sitemap

def sitemapNamespace : String := "http://www.sitemaps.org/schemas/sitemap/0.9"

def instanceNamespace : String := "http://www.w3.org/2001/XMLSchema-instance"

def schemaLocation : String := "http://www.sitemaps.org/schemas/sitemap/0.9/sitemap.xsd"

/-- The last character is a slash. -/
def endsWithSlash (s : String) : Bool := s.toList.getLast? == some '/'

/-- The base before the path; if both have a slash between them, only one is kept. -/
def joinLocation (base path : String) : String :=
  match endsWithSlash base, path.toList with
  | true, '/' :: rest => base ++ String.ofList rest
  | _, _ => base ++ path

/-- The base before a path given as a value, which has to be a text. A base that ends in a slash
asks first how the path begins. -/
def joinLocationValue (base : String) (path : Value) : Except Row.Fault String :=
  match path with
  | .str s => .ok (joinLocation base s)
  | .unpaired t => .ok (joinLocation base t.standIn)
  | v =>
    if endsWithSlash base then
      match v with
      | .bytes _ => .error .bytesPath
      | .kind .str => .error .unboundPath
      | .kind .bytes => .error .unboundPath
      | .kind k => .error (.noPathOfClass k)
      | v => .error (.noPath v.kindOf)
    else .error (.notText v.kindOf)

namespace Document

/-- A character of text, as a reference if it would be read as markup. -/
def escapeChar (c : Char) : List Char :=
  if c = '&' then "&amp;".toList
  else if c = '<' then "&lt;".toList
  else if c = '>' then "&gt;".toList
  else [c]

/-- A text with the characters of markup as references. -/
def escape (s : String) : String := String.ofList (s.toList.flatMap escapeChar)

/-- What stands in the document for one page. -/
structure Url where
  location : String
  frequency : String
  priority : String
  deriving DecidableEq

/-- The element of one page, without a line end. -/
def url (u : Url) : String :=
  "    <url>\n" ++
  "        <loc>" ++ u.location ++ "</loc>\n" ++
  "        <changefreq>" ++ u.frequency ++ "</changefreq>\n" ++
  "        <priority>" ++ u.priority ++ "</priority>\n" ++
  "    </url>"

def header : String :=
  "<?xml version=\"1.0\" encoding=\"utf-8\"?>\n" ++
  "<urlset xmlns:xsi=\"" ++ instanceNamespace ++ "\"\n" ++
  "        xsi:schemaLocation=\"" ++ sitemapNamespace ++ " " ++ schemaLocation ++ "\"\n" ++
  "        xmlns=\"" ++ sitemapNamespace ++ "\">\n"

def ofUrls (urls : List Url) : String :=
  header ++ String.join (urls.map fun u => url u ++ "\n") ++ "</urlset>\n"

end Document

/-- The texts of one row: the location is joined and escaped first, then the priority is
converted, then the frequency is shown. -/
def Row.rendered (base : String) (escaped : Bool) (row : Row) : Except Row.Fault Document.Url := do
  let (template, frequency, priority) ← row.fields
  let location ← joinLocationValue base template
  let location := if escaped then Document.escape location else location
  let priority ← (Priority.textOfValue priority).mapError .value
  let frequency ← frequency.shown.mapError .value
  return ⟨location, frequency, priority⟩

def Document.render (base : String) (rows : List Row) (escaped : Bool) :
    Except Row.Fault String :=
  (rows.mapM (Row.rendered base escaped)).map ofUrls

/-- The page of an entry, with a location that cannot be read as markup or as it is. -/
def Entry.url (base : String) (escaped : Bool) (e : Entry) : Document.Url :=
  let location := joinLocation base e.template
  ⟨if escaped then Document.escape location else location, e.frequency.keyword,
    Priority.text e.priority⟩

theorem Entry.rendered_toRow (base : String) (escaped : Bool) (e : Entry) :
    e.toRow.rendered base escaped = .ok (e.url base escaped) := rfl

namespace Document

def ofEntries (base : String) (entries : List Entry) (escaped : Bool) : String :=
  ofUrls (entries.map (Entry.url base escaped))

theorem render_toRow (base : String) (entries : List Entry) (escaped : Bool) :
    render base (entries.map Entry.toRow) escaped = .ok (ofEntries base entries escaped) := by
  have h : (entries.map Entry.toRow).mapM (Row.rendered base escaped) =
      .ok (entries.map (Entry.url base escaped)) := by
    induction entries with
    | nil => rfl
    | cons e rest ih => simp [List.mapM_cons, ih, Entry.rendered_toRow]; rfl
  rw [render, h]
  rfl

end Document

end Sitemap
