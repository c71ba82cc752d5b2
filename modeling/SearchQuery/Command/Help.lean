import SearchQuery.Text.Basic

/-!
# Help texts

The commands of the program, and what their help says.
-/

set_option autoImplicit false

namespace SearchQuery

inductive Command where
  | compile
  | help
  | initConfig
  | selectors
deriving DecidableEq

namespace Command

def all : List Command :=
  [.compile, .help, .initConfig, .selectors]

def name : Command → Text
  | .compile => "compile"
  | .help => "help"
  | .initConfig => "init-config"
  | .selectors => "selectors"

def ofName? (s : Text) : Option Command :=
  all.find? (·.name = s)

/-- What a usage line says behind the program and the command; without a command, of the program. -/
def usageArguments : Option Command → Text
  | none => "[OPTIONS] COMMAND [ARGS]..."
  | some .compile => "[OPTIONS] QUERY..."
  | some .help => "[OPTIONS] [COMMAND]..."
  | some .initConfig => "[OPTIONS]"
  | some .selectors => "[OPTIONS]"

/-- The help of the whole program, below its usage line. -/
def overviewHelp : List String :=
  [
    "",
    "  mediathek-search: Compile search strings into structured queries.",
    "",
    "  Free text is matched against the default fields; clauses like channel:arte,",
    "  c:arte or !:arte restrict a value to one field, and a leading - excludes a",
    "  clause.",
    "",
    "  Configuration is loaded from ~/.config/mediathek-search/config.toml by",
    "  default. Use --config to specify an alternative configuration file.",
    "",
    "  Examples:",
    "",
    "      # Show the query tree for a search     mediathek-search compile --",
    "      '-c:arte news duration:10-20'",
    "",
    "      # List the selectors of every field     mediathek-search selectors",
    "",
    "Options:",
    "  -c, --config PATH  Path to config file (default: ~/.config/mediathek-",
    "                     search/config.toml)",
    "  --no-color         Disable colored output",
    "  -v, --verbose      Enable verbose output",
    "  --debug            Enable debug output (implies --verbose)",
    "  -q, --quiet        Suppress non-error output",
    "  --version          Show the version and exit.",
    "  --help             Show this message and exit.",
    "",
    "Commands:",
    "  compile      Compile a search string into a query tree.",
    "  help         Show help for a command.",
    "  init-config  Create a new configuration file with default settings.",
    "  selectors    Show the selectors of every field."
  ]

/-- The help of `compile`, below its usage line. -/
def compileHelp : List String :=
  [
    "",
    "  Compile a search string into a query tree.",
    "",
    "  QUERY words are joined with spaces. Put -- before the query when it starts",
    "  with a negated clause.",
    "",
    "  Examples:",
    "",
    "    # Free text against the default fields",
    "    mediathek-search compile tatort",
    "",
    "    # Channel abbreviation, exclusion and a duration range",
    "    mediathek-search compile -- '-c:ard krimi duration:80-100'",
    "",
    "    # Machine-readable output",
    "    mediathek-search compile --format json 'aired:2024-01-01..'",
    "",
    "Options:",
    "  -f, --format [tree|json]  Output format (default: tree)",
    "  --help                    Show this message and exit."
  ]

/-- The help of `help`, below its usage line. -/
def helpHelp : List String :=
  [
    "",
    "  Show help for a command.",
    "",
    "Options:",
    "  --help  Show this message and exit."
  ]

/-- The help of `init-config`, below its usage line. -/
def initConfigHelp : List String :=
  [
    "",
    "  Create a new configuration file with default settings.",
    "",
    "  The file documents the default fields and every built-in selector, with",
    "  commented-out examples for overriding aliases and symbols.",
    "",
    "  Examples:",
    "",
    "    # Create config at default location",
    "    mediathek-search init-config",
    "",
    "    # Create config at custom location",
    "    mediathek-search init-config --output ./search.toml",
    "",
    "Options:",
    "  -f, --force        Overwrite existing config file",
    "  -o, --output PATH  Output path for config file (default: ~/.config/mediathek-",
    "                     search/config.toml)",
    "  --help             Show this message and exit."
  ]

/-- The help of `selectors`, below its usage line. -/
def selectorsHelp : List String :=
  [
    "",
    "  Show the selectors of every field.",
    "",
    "  Any prefix of a name or alias selects its field (c, ch and channel all select",
    "  the channel); symbols must be typed exactly.",
    "",
    "Options:",
    "  --help  Show this message and exit."
  ]

def helpLines : Option Command → List String
  | none => overviewHelp
  | some .compile => compileHelp
  | some .help => helpHelp
  | some .initConfig => initConfigHelp
  | some .selectors => selectorsHelp

/-- The usage line of a command that is reached by some words. -/
def usage (caller : Text) (command : Option Command) : Text :=
  "Usage: " ++ caller ++ ' ' :: usageArguments command

/-- The help of a command that is reached by some words. -/
def helpText (caller : Text) (command : Option Command) : Text :=
  Text.join ['\n'] (usage caller command :: (helpLines command).map String.toList)

end Command

end SearchQuery
