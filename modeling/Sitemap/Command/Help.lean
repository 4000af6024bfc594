/-!
# The help text

* `Command.help` : what is shown when help is asked for.
-/

namespace Sitemap.Command

def help (program : String) : String := "Usage: " ++ program ++ " [OPTIONS] [PATHS]...

  Generate a sitemap.xml endpoint from decorated component classes.

  Scans PATHS (files or directories, default from SITEMAP_CODEGEN_SOURCES) for
  classes carrying both the route and the sitemap_url decorators and writes a
  module whose map_sitemap(app, url) serves the sitemap.

Options:
  -o, --output TEXT               Path of the generated module  [default:
                                  (dynamic)]
  --route-annotation TEXT         Route decorator name as written on component
                                  classes  [default: (dynamic)]
  --sitemap-annotation TEXT       Sitemap decorator name as written on component
                                  classes  [default: (dynamic)]
  --escape-xml / --no-escape-xml  XML-escape sitemap locations (default from
                                  SITEMAP_CODEGEN_ESCAPE_XML)
  --report-omitted / --no-report-omitted
                                  Warn about decorated classes left out of the
                                  sitemap (default from
                                  SITEMAP_CODEGEN_REPORT_OMITTED)
  --check                         Exit with status 1 if the generated module is
                                  out of date; write nothing
  --preview BASE_URL              Print the rendered sitemap for BASE_URL
                                  instead of writing the module
  --validate                      With --preview, exit with status 1 if the
                                  rendered sitemap is invalid
  --log-level [DEBUG|INFO|WARNING|ERROR]
                                  Logging level  [default: WARNING]
  --log-file PATH                 Log file path (optional)
  --help                          Show this message and exit.
"

end Sitemap.Command
