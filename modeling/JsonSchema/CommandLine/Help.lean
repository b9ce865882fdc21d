import JsonSchema.CommandLine.Arguments

/-!
# Help texts of the command line
-/

namespace JsonSchema.CommandLine

/-- The lines of the help on a topic. -/
def Topic.lines : Topic → List String
  | general =>
    ["Compile JSON schemas and validate data against them",
     "",
     "Usage: schema-validator [OPTIONS] <COMMAND>",
     "",
     "Commands:",
     "  check     Check schema documents against their meta-schema",
     "  validate  Validate data files against a schema",
     "  compile   Compile a schema, loading referenced schemas on demand",
     "  help      Print this message or the help of the given subcommand(s)",
     "",
     "Options:",
     "  -c, --config <CONFIG>  Configuration file (defaults to schemac.toml lookup)",
     "      --all-errors       Report every error instead of stopping at the first",
     "  -h, --help             Print help"]
  | check =>
    ["Check schema documents against their meta-schema",
     "",
     "Usage: schema-validator check <PATHS>...",
     "",
     "Arguments:",
     "  <PATHS>...  Schema files or directories of *.json schemas",
     "",
     "Options:",
     "  -h, --help  Print help"]
  | validate =>
    ["Validate data files against a schema",
     "",
     "Usage: schema-validator validate [OPTIONS] --schema <SCHEMA> <DATA>...",
     "",
     "Arguments:",
     "  <DATA>...  Data files",
     "",
     "Options:",
     "  -s, --schema <SCHEMA>  Schema file",
     "  -r, --refs <REFS>      Directory of referenced schemas",
     "  -h, --help             Print help"]
  | compile =>
    ["Compile a schema, loading referenced schemas on demand",
     "",
     "Usage: schema-validator compile [OPTIONS] --schema <SCHEMA>",
     "",
     "Options:",
     "  -s, --schema <SCHEMA>      Schema file",
     "  -r, --refs <REFS>          Directory referenced schemas are loaded from",
     "      --base-uri <BASE_URI>  URI prefix mapped onto the refs directory",
     "  -h, --help                 Print help"]

/-- The help on a topic. -/
def Topic.text (topic : Topic) : String := String.join (topic.lines.map (· ++ "\n"))

end JsonSchema.CommandLine
