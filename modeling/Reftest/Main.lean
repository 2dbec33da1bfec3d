import Reftest.CommandLine

/-!
The command line as a process.  Its world is what the process can see: the variables of its
environment, the working directory and the file with the settings.  A process of this kind starts
no others, so no program has a place in that world.
-/

namespace Reftest.Main

def readVariable (name : String) : IO (Option Octets) := do
  return (← IO.getEnv name).map Octets.ofText

def environment : IO Environment := do
  return {
    searchPath := ← readVariable "PATH"
    home := ← readVariable "HOME"
    configHome := ← readVariable "XDG_CONFIG_HOME"
    logFilter := ← readVariable "RUST_LOG" }

/-- The names that a path leads along when no link is on the way. -/
def plainPlace (directory : Location) (path : Octets) : Location :=
  (Path.steps path).foldl (fun place step =>
    if step = [] ∨ step = Path.dot then place
    else if step = Path.dotDot then place.dropLast
    else place ++ [step]) (Path.origin directory path)

def settingsPath? (items : List Octets) (environment : Environment) : Option Octets :=
  match Arguments.read items with
  | .ok { config := some path, .. } => some path
  | _ => Config.standardPath? environment

def content? (path : Octets) : IO (Option Octets) := do
  match path.text? with
  | none => return none
  | some text =>
    try return some (← IO.FS.readBinFile text).toList
    catch _ => return none

def world (items : List Octets) : IO World := do
  let environment ← environment
  let current := Octets.ofText (← IO.currentDir).toString
  let directory := plainPlace [] current
  let bare := (FileTree.empty.descend [] directory).1
  let world := { files := bare, directory, environment }
  let some path := settingsPath? items environment | return world
  return match ← content? path with
    | none => world
    | some octets =>
      world.plant [] (plainPlace directory path) (.file FileTree.newMode (.octets octets))

def write (stream : IO.FS.Stream) (octets : Octets) : IO Unit := do
  stream.write ⟨octets.toArray⟩
  stream.flush

end Reftest.Main

def main (items : List String) : IO UInt32 := do
  let items := items.map Reftest.Octets.ofText
  let session := Reftest.CommandLine.use items (← Reftest.Main.world items)
  Reftest.Main.write (← IO.getStdout) session.output
  Reftest.Main.write (← IO.getStderr) session.errors
  return UInt32.ofNat session.status
