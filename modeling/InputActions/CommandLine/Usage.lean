import InputActions.CommandLine.Arguments

/-!
# What is said about arguments

A request for help or for the version is a wish, not a mistake, and is answered on the output. Every
other usage error is explained in one line, followed by the usage where nothing was asked for.
-/

namespace InputActions.CommandLine

def versionText : String := "wdactions 0.1.0"

def usageText : String :=
  String.intercalate "\n"
    ["Replay WebDriver action chains against a recording host", "",
      "Usage: wdactions [OPTIONS] <COMMAND>", "",
      "Commands:",
      "  replay <FILE>  Dispatch an action chain file and print the synthesized events",
      "  config show    Show the effective configuration, environment overrides included",
      "  config path    Print the configuration file path in use", "",
      "Options:",
      "  -c, --config <FILE>            Configuration file path",
      "  -l, --log-level <LEVEL>        Log level",
      "  -d, --debug                    Enable debug mode",
      "      --log-format <text|json>   Log line format",
      "  -h, --help                     Print help",
      "  -V, --version                  Print version", "",
      "Options of replay:",
      "      --release                  Release everything still held at the end",
      "      --legacy-origin            Take the centres of whole elements",
      "      --viewport <WIDTHxHEIGHT>  Viewport of the recording host"]

namespace UsageError

/-- Whether help or the version was asked for. -/
def isWish : UsageError → Bool
  | .helpRequested => true
  | .versionRequested => true
  | _ => false

def message : UsageError → String
  | .nothingGiven => usageText
  | .missingCommand => "error: a command is required"
  | .unknownCommand => "error: unrecognized command"
  | .missingArgument => "error: a required argument was not given"
  | .unknownArgument => "error: unexpected argument"
  | .badValue => "error: invalid or missing value"
  | .badViewport fault => "error: invalid value for '--viewport': " ++ fault.message
  | .unwantedValue => "error: unexpected value"
  | .repeated => "error: an argument cannot be used multiple times"
  | .helpRequested => usageText
  | .versionRequested => versionText

end UsageError

end InputActions.CommandLine
