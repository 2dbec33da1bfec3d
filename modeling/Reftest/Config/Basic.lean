import Reftest.Text.Utf8

namespace Reftest

structure HarnessSection where
  program : String := "./headless.py"
  arguments : List String := []
  suite : String := "reftest"
  logFile : Octets := Octets.ofText "reftest.log"
  deriving DecidableEq, Repr

structure ViewerSection where
  browser : String := "firefox"
  arguments : List String := []
  analyzerPage : String := "reftest-analyzer.xhtml"
  openOnFailure : Bool := true
  deriving DecidableEq, Repr

structure RunSection where
  exitCode : Bool := false
  deriving DecidableEq, Repr

structure Config where
  harness : HarnessSection := {}
  viewer : ViewerSection := {}
  run : RunSection := {}
  deriving DecidableEq, Repr

end Reftest
