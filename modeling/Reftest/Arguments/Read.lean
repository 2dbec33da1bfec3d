import Reftest.Arguments.Fault
import Reftest.Arguments.Token

/-!
Reading a command line from left to right.  A value that stands on its own is looked at only when
the next item is known to be in order.
-/

namespace Reftest

inductive Pending where
  | awaiting (option : ValueOption)
  | valued (option : ValueOption) (value : Octets)
  | suite (value : Octets)
  deriving DecidableEq, Repr

namespace Arguments

def textOf (value : Octets) : Except ArgumentFault String :=
  match value.text? with
  | some text => .ok text
  | none => .error .notText

def pathOf (option : ValueOption) (value : Octets) : Except ArgumentFault Octets :=
  if value = [] then .error (.valueMissing option) else .ok value

def setValue (arguments : Arguments) (option : ValueOption) (value : Octets) :
    Except ArgumentFault Arguments :=
  match option with
  | .harness => (textOf value).map fun text => { arguments with harness := some text }
  | .browser => (textOf value).map fun text => { arguments with browser := some text }
  | .analyzer => (textOf value).map fun text => { arguments with analyzer := some text }
  | .log => (pathOf option value).map fun path => { arguments with log := some path }
  | .config => (pathOf option value).map fun path => { arguments with config := some path }

/-- An option that was given before is refused, whatever its value. -/
def give (arguments : Arguments) (option : ValueOption) (value : Octets) :
    Except ArgumentFault Arguments :=
  if option.isGiven arguments then .error (.optionRepeated option)
  else arguments.setValue option value

def take (arguments : Arguments) : Pending → Except ArgumentFault Arguments
  | .awaiting option => .error (.valueMissing option)
  | .valued option value => arguments.give option value
  | .suite value => (textOf value).map fun text => { arguments with suite := some text }

def turn (arguments : Arguments) : Switch → Except ArgumentFault Arguments
  | .flag flag =>
    if flag.isGiven arguments then .error (.flagRepeated flag) else .ok (flag.give arguments)
  | .help => .error .help
  | .version => .error .version

end Arguments

structure Reading where
  arguments : Arguments := {}
  pending : Option Pending := none
  escaped : Bool := false
  deriving DecidableEq, Repr

namespace Reading

def settle (reading : Reading) : Except ArgumentFault Arguments :=
  match reading.pending with
  | none => .ok reading.arguments
  | some pending => reading.arguments.take pending

def hasSuite (reading : Reading) : Bool :=
  match reading.pending with
  | some (.suite _) => true
  | _ => reading.arguments.suite.isSome

def proceed (reading : Reading) (arguments : Arguments) (pending : Option Pending) : Reading :=
  { reading with arguments, pending }

def readPositional (reading : Reading) (octets : Octets) : Except ArgumentFault Reading :=
  if reading.hasSuite then .error (.unexpected octets.shown)
  else reading.settle.map fun arguments => reading.proceed arguments (some (.suite octets))

/-- Only a value that no option waits for can be the suite. -/
def readPlain (reading : Reading) (octets : Octets) : Except ArgumentFault Reading :=
  match reading.pending with
  | some (.awaiting option) => .ok { reading with pending := some (.valued option octets) }
  | _ => reading.readPositional octets

def readSwitch (reading : Reading) (switch : Switch) : Except ArgumentFault Reading :=
  match reading.settle with
  | .error fault => .error fault
  | .ok arguments => (arguments.turn switch).map fun arguments => reading.proceed arguments none

def readLong (reading : Reading) (name : Octets) (value : Option Octets) :
    Except ArgumentFault Reading :=
  match Meaning.ofLong? name, value with
  | none, _ => .error (.unexpected ("--" ++ name.shown))
  | some (.switch switch), some value => .error (.valueUnneeded switch value.shown)
  | some (.switch switch), none => reading.readSwitch switch
  | some (.option option), none =>
    reading.settle.map fun arguments => reading.proceed arguments (some (.awaiting option))
  | some (.option option), some value =>
    match reading.settle with
    | .error fault => .error fault
    | .ok arguments =>
      (arguments.give option value).map fun arguments => reading.proceed arguments none

def readCluster (reading : Reading) : List (Option Char) → Except ArgumentFault Reading
  | [] => .ok reading
  | none :: rest =>
    .error (.unexpected
      ("-" ++ String.ofList ((none :: rest).map (·.getD Utf8.replacement))))
  | some c :: rest =>
    match Switch.ofShort? c with
    | none => .error (.unexpected (String.ofList ['-', c]))
    | some switch =>
      match reading.readSwitch switch with
      | .error fault => .error fault
      | .ok reading => reading.readCluster rest

def readItem (reading : Reading) (item : Octets) : Except ArgumentFault Reading :=
  if reading.escaped then reading.readPositional item
  else match Token.ofOctets item with
    | .escape => .ok { reading with escaped := true }
    | .long name value => reading.readLong name value
    | .cluster options => reading.readCluster options
    | .plain octets => reading.readPlain octets

end Reading

/-- The arguments that a command line gives; the first fault decides. -/
def Arguments.read (items : List Octets) : Except ArgumentFault Arguments :=
  match items.foldlM Reading.readItem ({} : Reading) with
  | .error fault => .error fault
  | .ok reading => reading.settle

end Reftest
