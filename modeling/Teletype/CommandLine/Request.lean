/-!
# What is asked on the command line

Arguments are read from left to right. The first one that settles the matter
does: a question for help or for the version, or something that cannot be
understood, whatever follows it. Otherwise they are options, of which the last
one given counts.
-/

namespace Teletype.CommandLine

/-- **The options.** -/
structure Options where
  /-- Whether bytes typed are shown, instead of a report. -/
  showsBytes : Bool := false
  /-- The file with the configuration, if not the usual one. -/
  configuration : Option String := none
  deriving DecidableEq

/-- **What is asked.** -/
inductive Request where
  /-- How the program is used. -/
  | help
  /-- Which version it is. -/
  | version
  /-- To do its work. -/
  | work (options : Options)
  /-- Something unknown. -/
  | unknown (argument : String)
  /-- An option that lacks its value. -/
  | incomplete
  deriving DecidableEq

/-- **The arguments read**, behind options already given. -/
def Request.read (options : Options) : List String → Request
  | [] => work options
  | argument :: rest =>
    if argument == "-h" || argument == "--help" then help
    else if argument == "-v" || argument == "--version" then version
    else if argument == "-r" || argument == "--raw-test" then
      read { options with showsBytes := true } rest
    else if argument == "-c" || argument == "--config" then
      match rest with
      | [] => incomplete
      | path :: rest => read { options with configuration := some path } rest
    else unknown argument

/-- The line that names the version. -/
def versionText : String := "polyterm 0.1.0"

/-- The lines that say how the program is used. -/
def helpLines : List String :=
  [versionText ++ " - terminal diagnostics",
   "",
   "Usage: polyterm [OPTIONS]",
   "",
   "Options:",
   "  -r, --raw-test        Print each byte read in raw mode (q quits)",
   "  -c, --config <PATH>   Read configuration from PATH",
   "  -v, --version         Show version",
   "  -h, --help            Show this help",
   "",
   "Configuration: ~/.polyterm/config.toml",
   "Log file:      ~/.polyterm/polyterm.log (level from RUST_LOG)"]

/-- The text that says how the program is used. -/
def helpText : String := String.join (helpLines.map (· ++ "\n"))

/-- What is said of arguments that are no good. -/
def usageText (complaint : String) : String :=
  "Error: " ++ complaint ++ "\nUse --help for usage information\n"

end Teletype.CommandLine
