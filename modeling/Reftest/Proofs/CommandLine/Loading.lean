import Reftest.Proofs.CommandLine.Session
import Reftest.Proofs.Config.Overriding
import Reftest.Proofs.Files.Walk

namespace Reftest

namespace Config

variable {world : World} {environment : Environment} {path : Octets} {text : String}
  {outcome : Except Fault Config}

/-- What comes of a file that has to be there. -/
inductive Loaded (world : World) (path : Octets) : Except Fault Config → Prop where
  | missing (hnowhere : ∀ place, ¬ world.LeadsTo path place) :
      Loaded world path (.error (.config ("config file '" ++ path.shown ++ "' does not exist")))
  | directory {place : Location} (hleads : world.LeadsTo path place)
      (hentry : ∀ mode content, world.files.lookup? place ≠ some (.file mode content)) :
      Loaded world path (.error (.fileRead path.shown Failure.isDirectory.message))
  | notText {place : Location} {mode : Nat} {content : Content}
      (hleads : world.LeadsTo path place)
      (hentry : world.files.lookup? place = some (.file mode content))
      (hread : ∀ text, content.read ≠ Octets.ofText text) :
      Loaded world path (.error (.fileRead path.shown Failure.notText.message))
  | text {place : Location} {mode : Nat} {content : Content} {text : String}
      (hleads : world.LeadsTo path place)
      (hentry : world.files.lookup? place = some (.file mode content))
      (hread : content.read = Octets.ofText text) :
      Loaded world path ((ofText text).mapError (.ofDiagnostic text (world.objection text)))

theorem ofFile_of_nowhere (h : ∀ place, ¬ world.LeadsTo path place) :
    ofFile world path = .error (.config ("config file '" ++ path.shown ++ "' does not exist")) := by
  rw [ofFile, World.exists?_eq_false h]
  rfl

/-- The home directory is the one that the variable names, or else the one on record. -/
inductive Home (environment : Environment) : Octets → Prop where
  | named {home : Octets} (hnamed : environment.home = some home) (hne : home ≠ []) :
      Home environment home
  | onRecord {home : Octets} (hunnamed : ∀ other, environment.home = some other → other = [])
      (hrecord : environment.accountHome = some home) (hne : home ≠ []) : Home environment home

/-- The place of the settings of which no command line says where they are. -/
inductive StandardPlace (environment : Environment) : Octets → Prop where
  | given {home directory : Octets} (hhome : Home environment home)
      (hgiven : environment.configHome = some directory)
      (habsolute : directory.head? = some Path.separator) :
      StandardPlace environment
        (Path.join directory (Octets.ofText "reftest-debugger/config.toml"))
  | home {home : Octets} (hhome : Home environment home)
      (hnone : ∀ directory, environment.configHome = some directory →
        directory.head? ≠ some Path.separator) :
      StandardPlace environment
        (Path.join home (Octets.ofText ".config/reftest-debugger/config.toml"))

end Config

namespace Arguments

variable {arguments : Arguments} {world : World} {outcome : Except Fault Config}

inductive Based (arguments : Arguments) (world : World) : Except Fault Config → Prop where
  | chosen {path : Octets} {outcome : Except Fault Config} (hchosen : arguments.config = some path)
      (hloaded : Config.Loaded world path outcome) : Based arguments world outcome
  | standard {path : Octets} {place : Location} {outcome : Except Fault Config}
      (hnone : arguments.config = none) (hpath : Config.StandardPlace world.environment path)
      (hleads : world.LeadsTo path place) (hloaded : Config.Loaded world path outcome) :
      Based arguments world outcome
  | defaults (hnone : arguments.config = none)
      (hnowhere : ∀ path, Config.StandardPlace world.environment path →
        ∀ place, ¬ world.LeadsTo path place) : Based arguments world (.ok {})

structure Overrides (arguments : Arguments) (base result : Config) : Prop where
  value : ∀ setting : Setting,
    setting.value result = (setting.value? arguments).getD (setting.value base)
  openOnFailure : result.viewer.openOnFailure = true ↔
    base.viewer.openOnFailure = true ∧ arguments.noOpen = false
  exitCode : result.run.exitCode = true ↔ base.run.exitCode = true ∨ arguments.exitCode = true
  harnessArguments : result.harness.arguments = base.harness.arguments
  viewerArguments : result.viewer.arguments = base.viewer.arguments

/-- What is in force: the settings with the arguments over them, or why there are none. -/
inductive InForce (arguments : Arguments) (world : World) : Except Fault Config → Prop where
  | settled {base result : Config} (hbase : arguments.Based world (.ok base))
      (hover : arguments.Overrides base result) : InForce arguments world (.ok result)
  | refused {fault : Fault} (hbase : arguments.Based world (.error fault)) :
      InForce arguments world (.error fault)

end Arguments

end Reftest
