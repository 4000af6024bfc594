import Sitemap.Entry

/-!
# The generated module

* `GeneratedModule.emit` : the source text of a module that holds rows as literals and serves them;
* `GeneratedModule.rowLine` : the line of one row;
* `GeneratedModule.ofEntries` : the source text for entries, which can always be emitted.
-/

namespace Sitemap.GeneratedModule

def rowText (row : Row) : Except Row.Fault String := do
  let (template, frequency, priority) ← row.fields
  ((Value.tuple [template, frequency, priority]).written).mapError .value

def rowLine (text : String) : String := "    " ++ text ++ ",\n"

/-- The assignment of all rows; without a row it takes one line. -/
def assignment (texts : List String) : String :=
  match texts with
  | [] => "SITEMAP_ENTRIES = ()\n"
  | texts => "SITEMAP_ENTRIES = (\n" ++ String.join (texts.map rowLine) ++ ")\n"

def header : String :=
  "# Generated by sitemap-codegen. Do not edit.\n" ++
  "\n" ++
  "from sitemap_codegen.endpoint import register_sitemap\n" ++
  "\n"

/-- The function that serves the rows. -/
def footer (escaped : Bool) : String :=
  "\n" ++
  "\n" ++
  "def map_sitemap(app, url):\n" ++
  "    \"\"\"Serve sitemap.xml for the annotated components under ``url``.\"\"\"\n" ++
  "    return register_sitemap(app, url, SITEMAP_ENTRIES, escape=" ++
    (if escaped then "True" else "False") ++ ")\n"

def ofTexts (texts : List String) (escaped : Bool) : String :=
  header ++ assignment texts ++ footer escaped

/-- The source text for rows. Every row must have three fields before any literal is written. -/
def emit (rows : List Row) (escaped : Bool) : Except Row.Fault String := do
  let _ ← rows.mapM Row.fields
  let texts ← rows.mapM rowText
  return ofTexts texts escaped

def entryText (e : Entry) : String :=
  "(" ++ Value.commaSeparated [quoted e.template, quoted e.frequency.keyword, e.priority.text] ++ ")"

theorem rowText_toRow (e : Entry) : rowText e.toRow = .ok (entryText e) := rfl

def ofEntries (entries : List Entry) (escaped : Bool) : String :=
  ofTexts (entries.map entryText) escaped

theorem mapM_fields_toRow (entries : List Entry) :
    (entries.map Entry.toRow).mapM Row.fields =
      .ok (entries.map fun e => (.str e.template, .str e.frequency.keyword, .float e.priority)) := by
  induction entries with
  | nil => rfl
  | cons e rest ih => simp [List.mapM_cons, ih, Entry.toRow, Row.fields]; rfl

theorem mapM_rowText_toRow (entries : List Entry) :
    (entries.map Entry.toRow).mapM rowText = .ok (entries.map entryText) := by
  induction entries with
  | nil => rfl
  | cons e rest ih => simp [List.mapM_cons, ih, rowText_toRow]; rfl

theorem emit_toRow (entries : List Entry) (escaped : Bool) :
    emit (entries.map Entry.toRow) escaped = .ok (ofEntries entries escaped) := by
  rw [emit, mapM_fields_toRow, mapM_rowText_toRow]
  rfl

end Sitemap.GeneratedModule
