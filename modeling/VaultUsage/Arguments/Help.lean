import VaultUsage.Arguments.Reader

/-!
# Help

What is printed when help is asked for or the command line cannot be read. What that is depends on what was given
(`Screen`): help shows the URL of the environment, an error shows the argument it is about. The texts here have nothing
of that and are only used where no others are given.
-/

namespace VaultUsage.Arguments

def versionText : String := "vaultsummary 1.0.0\n"

def usage : String := "Usage: vaultsummary [OPTIONS]\n"

def helpText : String :=
  "Reports how many files and bytes a project holds in each vault of a Vaultdoor service\n\n"
    ++ usage
    ++ "\nOptions:\n"
    ++ "  -p, --project <ID>         Project to summarize\n"
    ++ "      --vaultdoor-url <URL>  Base URL of the service (or the variable VAULTDOOR_URL)\n"
    ++ "      --token <TOKEN>        Token sent with every request (or the variable VAULTDOOR_TOKEN)\n"
    ++ "      --vault <VAULT_ID>     Show what one vault holds, by category\n"
    ++ "      --list-vaults          List the known vaults\n"
    ++ "  -f, --format <FORMAT>      markdown or json (default: markdown)\n"
    ++ "  -o, --output <FILE>        Write the report to a file\n"
    ++ "      --si                   Use units of 1000 (kB, MB) instead of 1024 (KiB, MiB)\n"
    ++ "      --decimals <N>         Decimal places of sizes\n"
    ++ "      --timeout <SECS>       Seconds to wait for a reply\n"
    ++ "      --catalog-order        Keep the order of the catalog instead of newest first\n"
    ++ "  -c, --config <FILE>        Settings file (default: .vaultsummary.toml)\n"
    ++ "  -v, --verbose              Log more\n"
    ++ "  -q, --quiet                Log errors only\n"
    ++ "      --init-config          Make a settings file with defaults\n"
    ++ "  -h, --help                 Print help\n"
    ++ "  -V, --version              Print version\n"

def Stop.message : Stop → String
  | .help => helpText
  | .version => versionText
  | .unknownArgument => "error: unexpected argument\n\n" ++ usage
  | .badValue => "error: invalid or missing value\n\n" ++ usage
  | .badNumber => "error: a value is not a number in range\n\n" ++ usage
  | .conflict => "error: an argument cannot be used with another one, or twice\n\n" ++ usage
  | .superfluousValue => "error: a value for an option that takes none\n\n" ++ usage

/-- The text for what stops a run, by the URL of the environment and the arguments. The token of the environment is
not shown. -/
abbrev Screen := (url : Option String) → (arguments : List String) → Stop → String

/-- Whether the command line asked for nothing but a text. -/
def Stop.isAnswer : Stop → Bool
  | .help => true
  | .version => true
  | _ => false

end VaultUsage.Arguments
