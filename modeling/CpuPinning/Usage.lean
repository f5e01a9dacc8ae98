/-!
# Usage

The texts that explain the arguments, line by line.
-/

namespace CpuPinning.Usage

private def purpose : String :=
  "Alters CPU masks of running processes with different arguments, based on a configuration file."

private def format : String :=
  "The pin file maps executable names to command line fragments. " ++
    "Each fragment may carry a 'parent' mask, applied to every child process and thread of the " ++
    "matched process, and a 'threads' map from full-match thread name patterns to masks that " ++
    "override the parent mask."

/-- The help in short. -/
def short : List String := [
  purpose,
  "",
  "Usage: readout-affinity [OPTIONS]",
  "",
  "Options:",
  "  -p, --pinfile <PINFILE>",
  "          File with process to CPU mask list (JSON, YAML or TOML)",
  "      --log-level <LOG_LEVEL>",
  "          Log level [default: info] [possible values: off, error, warn, info, debug, trace]",
  "      --check-config",
  "          Compile the pin file, print the rules and exit without touching any process",
  "      --ambiguous-threads <AMBIGUOUS_THREADS>",
  "          What to do when a thread matches more than one thread rule " ++
    "[default: abort] [possible values: abort, skip]",
  "      --strict-exit-codes",
  "          Exit 1 on fatal errors and 2 when warnings were emitted (default: always 0)",
  "  -h, --help",
  "          Print help (see more with '--help')",
  "  -V, --version",
  "          Print version"]

/-- The help in full. -/
def full : List String := [
  purpose,
  "",
  format,
  "",
  "Usage: readout-affinity [OPTIONS]",
  "",
  "Options:",
  "  -p, --pinfile <PINFILE>",
  "          File with process to CPU mask list (JSON, YAML or TOML)",
  "",
  "      --log-level <LOG_LEVEL>",
  "          Log level",
  "          ",
  "          [default: info]",
  "          [possible values: off, error, warn, info, debug, trace]",
  "",
  "      --check-config",
  "          Compile the pin file, print the rules and exit without touching any process",
  "",
  "      --ambiguous-threads <AMBIGUOUS_THREADS>",
  "          What to do when a thread matches more than one thread rule",
  "",
  "          Possible values:",
  "          - abort: Stop the run with an error",
  "          - skip:  Leave the thread untouched and continue",
  "          ",
  "          [default: abort]",
  "",
  "      --strict-exit-codes",
  "          Exit 1 on fatal errors and 2 when warnings were emitted (default: always 0)",
  "",
  "  -h, --help",
  "          Print help (see a summary with '-h')",
  "",
  "  -V, --version",
  "          Print version"]

/-- The name and the version. -/
def version : List String := ["readout-affinity 0.1.0"]

end CpuPinning.Usage
