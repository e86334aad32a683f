/-!
# Help pages
-/

namespace WeakestPre.CommandLine

def versionLine : String := "wpcalc 0.1.0\n"

/-- Lines, each with its end. -/
def page (lines : List String) : String := "".intercalate (lines.map (· ++ "\n"))

def usageLine : String := "usage: wpcalc [-h] [--version] \x7bwp,parse\x7d ..."

def mainHelp : String := page [
  usageLine,
  "",
  "Weakest-precondition calculator for a small imperative language",
  "",
  "positional arguments:",
  "  \x7bwp,parse\x7d  Available commands",
  "    wp        Derive the weakest precondition of a program",
  "    parse     Parse and print rendered form",
  "",
  "options:",
  "  -h, --help  show this help message and exit",
  "  --version   show program's version number and exit"]

def wpHelp : String := page [
  "usage: wpcalc wp [-h] --post POST [--file] [--format \x7btext,json\x7d] [--no-steps]",
  "                 [--config CONFIG] [-v]",
  "                 program",
  "",
  "positional arguments:",
  "  program               Program text (or a path with --file)",
  "",
  "options:",
  "  -h, --help            show this help message and exit",
  "  --post POST           Postcondition expression",
  "  --file                Treat PROGRAM as a file path",
  "  --format \x7btext,json\x7d  Output format (default: from config, else text)",
  "  --no-steps            Do not print the derivation steps",
  "  --config CONFIG       Path to a .wpcalcrc file",
  "  -v, --verbose         Debug logging to stderr"]

def parseHelp : String := page [
  "usage: wpcalc parse [-h] [--expression] text",
  "",
  "Parse a program or expression and print its rendered form.",
  "",
  "positional arguments:",
  "  text          Program or expression text",
  "",
  "options:",
  "  -h, --help    show this help message and exit",
  "  --expression  Parse TEXT as an expression instead of a program"]

end WeakestPre.CommandLine
