import Reftest.Config.Mismatch
import Reftest.Failure
import Reftest.Text.Utf8

namespace Reftest

inductive Fault where
  | programNotFound (name : String)
  | harnessLaunch (program : String) (cause : Failure)
  | viewerLaunch (program : String) (cause : Failure)
  | viewerFailed (program : String) (code : Option Int)
  | logFile (path : Octets) (cause : Failure)
  | config (text : String)
  | configParse (text : String)
  | fileRead (path : String) (text : String)
  | io (cause : Failure)
  deriving DecidableEq, Repr

namespace Fault

def ofDiagnostic (text : String) (objection : Toml.Objection) (diagnostic : Config.Diagnostic) :
    Fault :=
  .configParse (diagnostic.message text.toList objection)

def exitWords : Option Int → String
  | some code => "exit code " ++ toString code
  | none => "no exit code (terminated by signal)"

def message : Fault → String
  | .programNotFound name =>
    "Program '" ++ name ++ "' not found on PATH. Pass a path or set it in the config file"
  | .harnessLaunch program cause =>
    "Failed to start test harness '" ++ program ++ "': " ++ cause.message
  | .viewerLaunch program cause =>
    "Failed to start browser '" ++ program ++ "': " ++ cause.message
  | .viewerFailed program code =>
    "Browser '" ++ program ++ "' exited with " ++ exitWords code
  | .logFile path cause =>
    "Failed to create log file '" ++ path.shown ++ "': " ++ cause.message
  | .config text => "Configuration error: " ++ text
  | .configParse text => "Invalid configuration file: " ++ text
  | .fileRead path text => "Failed to read file '" ++ path ++ "': " ++ text
  | .io cause => "IO error: " ++ cause.message

def cause? : Fault → Option Failure
  | .harnessLaunch _ cause => some cause
  | .viewerLaunch _ cause => some cause
  | .logFile _ cause => some cause
  | .io cause => some cause
  | _ => none

end Fault

end Reftest
