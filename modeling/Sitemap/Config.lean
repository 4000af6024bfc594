import Sitemap.Declaration.Basic
import Sitemap.Text.Blank

/-!
# Configuration

* `Config` : the settings of a run;
* `Environment` : the settings given from outside, each of which may be missing;
* `Environment.ofVariables` : the names of the variables that give them;
* `Config.ofEnvironment` : the configuration with its defaults.
-/

namespace Sitemap

/-- The settings of a run: what to scan, where to write, the names that decorators must be written
with, and two switches. -/
structure Config where
  sources : List String := ["."]
  output : String := "sitemap_generated.py"
  routeName : String := routeAnnotation
  sitemapName : String := "sitemap_url"
  escape : Bool := false
  reportOmitted : Bool := false
  deriving DecidableEq, Repr

/-- The settings given from outside. -/
structure Environment where
  sources : Option String := none
  output : Option String := none
  routeName : Option String := none
  sitemapName : Option String := none
  escape : Option String := none
  reportOmitted : Option String := none
  deriving DecidableEq, Repr

/-- The settings that variables give. -/
def Environment.ofVariables (value? : String → Option String) : Environment where
  sources := value? "SITEMAP_CODEGEN_SOURCES"
  output := value? "SITEMAP_CODEGEN_OUTPUT"
  routeName := value? "SITEMAP_CODEGEN_ROUTE_ANNOTATION"
  sitemapName := value? "SITEMAP_CODEGEN_SITEMAP_ANNOTATION"
  escape := value? "SITEMAP_CODEGEN_ESCAPE_XML"
  reportOmitted := value? "SITEMAP_CODEGEN_REPORT_OMITTED"

/-- A switch is on if its text is the word for true, in any case and between blanks. -/
def isTrueWord (s : String) : Bool :=
  (trimList isBlank s.toList).map Char.toLower = "true".toList

/-- The paths in a text, between commas, without blanks around them and without empty ones. -/
def sourcePaths (s : String) : List String :=
  ((splitChars ',' s.toList).map fun path => String.ofList (trimList isBlank path)).filter
    (!·.isEmpty)

/-- The configuration that the environment gives, with a default for what is missing. -/
def Config.ofEnvironment (env : Environment) : Config :=
  let standard : Config := {}
  let paths := sourcePaths (env.sources.getD ".")
  { sources := if paths.isEmpty then standard.sources else paths
    output := env.output.getD standard.output
    routeName := env.routeName.getD standard.routeName
    sitemapName := env.sitemapName.getD standard.sitemapName
    escape := env.escape.any isTrueWord
    reportOmitted := env.reportOmitted.any isTrueWord }

end Sitemap
