import Reftest.Config.Basic

namespace Reftest.Run

/-- Where the browser finds a page on a log.  It takes one piece of text, so octets of the path of
the log that are no text are replaced. -/
def address (page : String) (log : Octets) : String :=
  page ++ "#logurl=" ++ log.shown

structure Settings where
  harness : String
  harnessArguments : List String
  suite : String
  logFile : Octets
  browser : String
  browserArguments : List String
  analyzerPage : String
  openOnFailure : Bool
  deriving DecidableEq, Repr

namespace Settings

def ofConfig (config : Config) : Settings where
  harness := config.harness.program
  harnessArguments := config.harness.arguments
  suite := config.harness.suite
  logFile := config.harness.logFile
  browser := config.viewer.browser
  browserArguments := config.viewer.arguments
  analyzerPage := config.viewer.analyzerPage
  openOnFailure := config.viewer.openOnFailure

def address (settings : Settings) : String :=
  Run.address settings.analyzerPage settings.logFile

end Settings

end Reftest.Run
