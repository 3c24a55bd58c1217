import Signalbox.CommandLine.Invocation

/-!
# Help

The texts for command lines that do not lead to a command.
-/

namespace Signalbox.CommandLine

/-- What the program can be asked to do. -/
def helpText : String :=
  String.intercalate "\n"
    ["Edit and run block programs for model railway devices",
      "",
      "Commands:",
      "  new [PATH] [--force]",
      "  check PROGRAM",
      "  tree PROGRAM",
      "  add PROGRAM --kind KIND [--value V] [--count N] [--condition C] [--device D] [--prop P]",
      "  move PROGRAM BLOCK --onto ID [--snap inner|append]",
      "  eval CONDITION [--devices FILE]",
      "  run PROGRAM [--devices FILE] [--simulate] [--passes N]",
      "  config show|path|set KEY VALUE|default|verify",
      "  help [COMMAND]",
      "",
      "Options: --config PATH, -j/--json, -q/--quiet, -v/--verbose, -h/--help, -V/--version"]

/-- The version of the program. -/
def versionText : String := "0.1.0"

/-- The wording of what is wrong with a command line, or what it asks for. -/
def Usage.message : Usage → String
  | .unknownArgument => "error: unexpected argument"
  | .invalidSubcommand => "error: unrecognized subcommand"
  | .missingSubcommand => "error: a subcommand is required"
  | .missingRequired => "error: a required argument was not provided"
  | .invalidValue => "error: a value is required"
  | .valueValidation => "error: invalid value"
  | .argumentConflict => "error: an argument cannot be used multiple times"
  | .tooManyValues => "error: unexpected value"
  | .help => helpText
  | .version => versionText
  | .helpInsteadOfCommand => helpText

end Signalbox.CommandLine
