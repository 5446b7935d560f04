import ImportStubs.Command.Arguments

/-!
# Help
-/

namespace ImportStubs.Command

/-- What the option for help writes. -/
def usage : Text := Text.concat ([
  "Usage: vitalink [OPTIONS] PATH",
  "",
  "  Vitalink -- Vita import stub extractor.",
  "",
  "  PATH is the Vita ELF executable to inspect.",
  "",
  "Options:",
  "  -d, --db FILE               NID import database (JSON).  Overrides",
  "                              link.import_db.",
  "  -c, --config FILE           Configuration file (TOML).",
  "  --chunk-size INTEGER RANGE  Deliver section data in chunks of this many",
  "                              bytes.  [x>=0]",
  "  --json                      Output results as JSON to stdout.",
  "  -v, --verbose               Enable debug logging.",
  "  --help                      Show this message and exit."].map
    fun line => Text.ofString (line ++ "\n"))

namespace UsageError

/-- What is said of wrong arguments. -/
def message : UsageError → Text
  | unknownOption name => "No such option: " ++ name
  | missingValue key => "Option " ++ Text.ofString key.name ++ " requires an argument."
  | superfluousValue key => "Option " ++ Text.ofString key.name ++ " does not take a value."
  | missingPath => "Missing argument PATH."
  | extraArgument argument => "Got unexpected extra argument: " ++ argument
  | missingFile path => "File does not exist: " ++ path
  | directory path => "File is a directory: " ++ path
  | badNumber text => "Not a number of at least zero: " ++ text

end UsageError
end ImportStubs.Command
