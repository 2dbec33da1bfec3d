import Reftest.Config.Basic
import Reftest.Text.Quoted

namespace Reftest.Config.Layout

def isControl (c : Char) : Bool :=
  c.toNat < 0x20 || (0x7F ≤ c.toNat && c.toNat ≤ 0x9F)

def fourDigits (n : Nat) : List Char :=
  [12, 8, 4, 0].map fun shift => Nat.digitChar ((n >>> shift) % 16)

def escapeChar (c : Char) : List Char :=
  if c = '"' ∨ c = '\\' then ['\\', c]
  else if isControl c then '\\' :: 'u' :: fourDigits c.toNat
  else [c]

def text (value : String) : List Char :=
  '"' :: value.toList.flatMap escapeChar ++ ['"']

def texts (values : List String) : List Char :=
  '[' :: [',', ' '].intercalate (values.map text) ++ [']']

def flag (value : Bool) : List Char :=
  if value then "true".toList else "false".toList

def header (name : String) : List Char :=
  '[' :: name.toList ++ [']', '\n']

def entry (name : String) (value : List Char) : List Char :=
  name.toList ++ [' ', '=', ' '] ++ value ++ ['\n']

def document (config : Config) (log : String) : List Char :=
  header "harness" ++
    entry "program" (text config.harness.program) ++
    entry "args" (texts config.harness.arguments) ++
    entry "suite" (text config.harness.suite) ++
    entry "log_file" (text log) ++
  header "viewer" ++
    entry "browser" (text config.viewer.browser) ++
    entry "args" (texts config.viewer.arguments) ++
    entry "analyzer_page" (text config.viewer.analyzerPage) ++
    entry "open_on_failure" (flag config.viewer.openOnFailure) ++
  header "run" ++
    entry "exit_code" (flag config.run.exitCode)

/-- Only a log whose path is text can be written down. -/
def write? (config : Config) : Option String :=
  config.harness.logFile.text?.map fun log => String.ofList (document config log)

end Reftest.Config.Layout
