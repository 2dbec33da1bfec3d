import Reftest.Config.Decode
import Reftest.Fault
import Reftest.World

namespace Reftest.Config

def applicationName : Octets := Octets.ofText "reftest-debugger"

def home? (environment : Environment) : Option Octets :=
  (environment.home.filter (· ≠ [])).or (environment.accountHome.filter (· ≠ []))

/-- A place for settings that is not absolute does not count. -/
def baseDirectory (environment : Environment) (home : Octets) : Octets :=
  match environment.configHome.filter Path.isAbsolute with
  | some directory => directory
  | none => Path.join home (Octets.ofText ".config")

/-- Without a home directory there is no directory for settings, wherever they are to be kept. -/
def directory? (environment : Environment) : Option Octets :=
  (home? environment).map fun home => Path.join (baseDirectory environment home) applicationName

def standardPath? (environment : Environment) : Option Octets :=
  (directory? environment).map (Path.join · (Octets.ofText "config.toml"))

def ofFile (world : World) (path : Octets) : Except Fault Config :=
  if !world.exists? path then
    .error (.config ("config file '" ++ path.shown ++ "' does not exist"))
  else match world.readText path with
    | .error failure => .error (.fileRead path.shown failure.message)
    | .ok text => (ofText text).mapError (.ofDiagnostic text (world.objection text))

def ofStandardFile (world : World) : Except Fault Config :=
  match standardPath? world.environment with
  | some path => if world.exists? path then ofFile world path else .ok {}
  | none => .ok {}

end Reftest.Config
