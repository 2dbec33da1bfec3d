import Reftest.Failure.SystemText

namespace Reftest

inductive FailureKind where
  | notFound
  | permissionDenied
  | brokenPipe
  | interrupted
  | invalidData
  | unexpectedEnd
  | writeZero
  | other
  deriving DecidableEq, Repr

def FailureKind.message : FailureKind → String
  | .notFound => "entity not found"
  | .permissionDenied => "permission denied"
  | .brokenPipe => "broken pipe"
  | .interrupted => "operation interrupted"
  | .invalidData => "invalid data"
  | .unexpectedEnd => "unexpected end of file"
  | .writeZero => "write zero"
  | .other => "other error"

inductive Failure where
  | system (number : Int)
  | ofKind (kind : FailureKind)
  | told (text : String)
  | nulInPath
  | nulInCommand
  | notText
  | nothingWritten
  deriving DecidableEq, Repr

namespace Failure

def noEntry : Failure := .system 2
def argumentsTooLong : Failure := .system 7
def execFormat : Failure := .system 8
def permissionDenied : Failure := .system 13
def notDirectory : Failure := .system 20
def isDirectory : Failure := .system 21
def fileBusy : Failure := .system 26
def nameTooLong : Failure := .system 36
def tooManyLinks : Failure := .system 40

def message : Failure → String
  | .system number => SystemText.ofNumber number ++ " (os error " ++ toString number ++ ")"
  | .ofKind kind => kind.message
  | .told text => text
  | .nulInPath => "file name contained an unexpected NUL byte"
  | .nulInCommand => "nul byte found in provided data"
  | .notText => "stream did not contain valid UTF-8"
  | .nothingWritten => "failed to write whole buffer"

end Failure

end Reftest
