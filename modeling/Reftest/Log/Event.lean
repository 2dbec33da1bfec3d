namespace Reftest.Log

inductive Level where
  | error
  | warn
  | info
  | debug
  | trace
  deriving DecidableEq, Repr

namespace Level

def rank : Level → Nat
  | .error => 1
  | .warn => 2
  | .info => 3
  | .debug => 4
  | .trace => 5

def label : Level → String
  | .error => "ERROR"
  | .warn => "WARN"
  | .info => "INFO"
  | .debug => "DEBUG"
  | .trace => "TRACE"

def tag : Level → String
  | .warn => " WARN"
  | .info => " INFO"
  | level => level.label

def colour : Level → String
  | .error => "31"
  | .warn => "33"
  | .info => "32"
  | .debug => "34"
  | .trace => "35"

end Level

def painted (style text : String) : String :=
  "\x1b[" ++ style ++ "m" ++ text ++ "\x1b[0m"

inductive Topic where
  | runner
  | viewer
  | program
  deriving DecidableEq, Repr

def Topic.target : Topic → String
  | .runner => "reftest_debugger::reftest::runner"
  | .viewer => "reftest_debugger::reftest::viewer"
  | .program => "reftest_debugger::reftest::program"

structure Event where
  level : Level
  topic : Topic
  message : String
  deriving DecidableEq, Repr

namespace Event

def fields : List (List Char) :=
  ["message".toList]

def text (event : Event) : String :=
  event.level.label ++ " " ++ event.message

/-- Controls that could steer a terminal are not passed on to it. -/
def escapeControl (c : Char) : List Char :=
  match c with
  | '\x07' => "\\x07".toList
  | '\x08' => "\\x08".toList
  | '\x0c' => "\\x0c".toList
  | '\x1b' => "\\x1b".toList
  | '\x7f' => "\\x7f".toList
  | c =>
    if 0x80 ≤ c.toNat ∧ c.toNat ≤ 0x9F then
      ['\\', 'u', '\x7b'] ++ Nat.toDigits 16 c.toNat ++ ['\x7d']
    else [c]

def line (coloured : Bool) (time : String) (event : Event) : String :=
  (if coloured then painted "2" time else time) ++ " " ++
    (if coloured then painted event.level.colour event.level.tag else event.level.tag) ++ " " ++
    String.ofList (event.message.toList.flatMap escapeControl) ++ "\n"

end Event

end Reftest.Log
