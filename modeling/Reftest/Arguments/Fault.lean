import Reftest.Arguments.Basic
import Reftest.Text.Terminal

namespace Reftest

inductive ArgumentFault where
  | help
  | version
  | unexpected (argument : String)
  | valueMissing (option : ValueOption)
  | optionRepeated (option : ValueOption)
  | flagRepeated (flag : Flag)
  | valueUnneeded (switch : Switch) (value : String)
  | notText
  deriving DecidableEq, Repr

namespace ArgumentFault

def helpText : String :=
  "\n".intercalate
    ["Run the headless reftests and open the analyzer on failure",
      "",
      "Usage: reftest-debugger [OPTIONS] [SUITE]",
      "",
      "Arguments:",
      "  [SUITE]  Test suite passed to the harness (default: reftest)",
      "",
      "Options:",
      "      --harness <HARNESS>    Harness executable (default: ./headless.py)",
      "      --browser <BROWSER>    Browser used to show failures (default: firefox)",
      "      --analyzer <ANALYZER>  Analyzer page opened on failure (default: reftest-analyzer.xhtml)",
      "      --log <LOG>            File receiving the harness output (default: reftest.log)",
      "      --config <CONFIG>      Read configuration from this file instead of the default location",
      "      --no-open              Don't open the browser when tests fail",
      "      --exit-code            Exit with status 1 when tests fail",
      "  -v, --verbose              Enable debug logging on stderr",
      "  -h, --help                 Print help",
      "  -V, --version              Print version",
      ""]

def versionText : String :=
  "reftest-debugger 0.1.0\n"

def explain (fault : ArgumentFault) (medium : Terminal.Medium) : String :=
  match fault with
  | .help => helpText
  | .version => versionText
  | .unexpected argument => "unexpected argument '" ++ Terminal.visible medium argument ++ "' found"
  | .valueMissing option =>
    "a value is required for '" ++ option.shown ++ "' but none was supplied"
  | .optionRepeated option =>
    "the argument '" ++ option.shown ++ "' cannot be used multiple times"
  | .flagRepeated flag => "the argument '" ++ flag.shown ++ "' cannot be used multiple times"
  | .valueUnneeded switch value =>
    "unexpected value '" ++ Terminal.visible medium value ++ "' for '" ++ switch.shown ++
      "' found; no more were expected"
  | .notText => "invalid UTF-8 was detected in one or more arguments"

def isRequest : ArgumentFault → Bool
  | .help => true
  | .version => true
  | _ => false

def firstLine : List Char → List Char
  | [] => []
  | '\n' :: _ => []
  | '\r' :: '\n' :: _ => []
  | c :: text => c :: firstLine text

/-- A request is answered in full, an error in a single line. -/
def message (fault : ArgumentFault) (medium : Terminal.Medium) : String :=
  if fault.isRequest then fault.explain medium
  else String.ofList (firstLine ("error: " ++ fault.explain medium).toList)

def status (fault : ArgumentFault) : Nat :=
  if fault.isRequest then 0 else 2

end ArgumentFault

end Reftest
