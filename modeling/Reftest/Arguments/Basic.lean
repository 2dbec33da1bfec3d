import Reftest.Config.Basic

namespace Reftest

structure Arguments where
  suite : Option String := none
  harness : Option String := none
  browser : Option String := none
  analyzer : Option String := none
  log : Option Octets := none
  config : Option Octets := none
  noOpen : Bool := false
  exitCode : Bool := false
  verbose : Bool := false
  deriving DecidableEq, Repr

namespace Arguments

def overrideHarness (arguments : Arguments) (base : HarnessSection) : HarnessSection :=
  { base with
    suite := arguments.suite.getD base.suite
    program := arguments.harness.getD base.program
    logFile := arguments.log.getD base.logFile }

def overrideViewer (arguments : Arguments) (base : ViewerSection) : ViewerSection :=
  { base with
    browser := arguments.browser.getD base.browser
    analyzerPage := arguments.analyzer.getD base.analyzerPage
    openOnFailure := base.openOnFailure && !arguments.noOpen }

def override (arguments : Arguments) (config : Config) : Config where
  harness := arguments.overrideHarness config.harness
  viewer := arguments.overrideViewer config.viewer
  run := { exitCode := config.run.exitCode || arguments.exitCode }

end Arguments

inductive ValueOption where
  | harness
  | browser
  | analyzer
  | log
  | config
  deriving DecidableEq, Repr

namespace ValueOption

def name : ValueOption → String
  | .harness => "harness"
  | .browser => "browser"
  | .analyzer => "analyzer"
  | .log => "log"
  | .config => "config"

def shown (option : ValueOption) : String :=
  "--" ++ option.name ++ " <" ++ option.name.toUpper ++ ">"

def isGiven (option : ValueOption) (arguments : Arguments) : Bool :=
  match option with
  | .harness => arguments.harness.isSome
  | .browser => arguments.browser.isSome
  | .analyzer => arguments.analyzer.isSome
  | .log => arguments.log.isSome
  | .config => arguments.config.isSome

end ValueOption

inductive Flag where
  | noOpen
  | exitCode
  | verbose
  deriving DecidableEq, Repr

namespace Flag

def shown : Flag → String
  | .noOpen => "--no-open"
  | .exitCode => "--exit-code"
  | .verbose => "--verbose"

def isGiven (flag : Flag) (arguments : Arguments) : Bool :=
  match flag with
  | .noOpen => arguments.noOpen
  | .exitCode => arguments.exitCode
  | .verbose => arguments.verbose

def give (flag : Flag) (arguments : Arguments) : Arguments :=
  match flag with
  | .noOpen => { arguments with noOpen := true }
  | .exitCode => { arguments with exitCode := true }
  | .verbose => { arguments with verbose := true }

end Flag

inductive Switch where
  | flag (flag : Flag)
  | help
  | version
  deriving DecidableEq, Repr

def Switch.shown : Switch → String
  | .flag given => given.shown
  | .help => "--help"
  | .version => "--version"

end Reftest
