import Reftest.Arguments.Basic

namespace Reftest

inductive Token where
  | escape
  | long (name : Octets) (value : Option Octets)
  /-- short options behind a single dash, octets that are no text among them -/
  | cluster (options : List (Option Char))
  | plain (octets : Octets)
  deriving DecidableEq, Repr

namespace Token

def dash : UInt8 := 0x2D

def equals : UInt8 := 0x3D

/-- A long option, the value of which stands behind the first equals sign. -/
def ofLong (octets : Octets) : Token :=
  .long (octets.takeWhile (· ≠ equals)) ((octets.dropWhile (· ≠ equals)).tail?)

def ofOctets : Octets → Token
  | [] => .plain []
  | [octet] => .plain [octet]
  | first :: second :: rest =>
    if first ≠ dash then .plain (first :: second :: rest)
    else if second ≠ dash then .cluster (Utf8.units (second :: rest))
    else if rest = [] then .escape
    else ofLong rest

end Token

inductive Meaning where
  | option (option : ValueOption)
  | switch (switch : Switch)
  deriving DecidableEq, Repr

namespace Meaning

def table : List (Octets × Meaning) :=
  [("harness", .option .harness), ("browser", .option .browser),
    ("analyzer", .option .analyzer), ("log", .option .log), ("config", .option .config),
    ("no-open", .switch (.flag .noOpen)), ("exit-code", .switch (.flag .exitCode)),
    ("verbose", .switch (.flag .verbose)), ("help", .switch .help),
    ("version", .switch .version)].map fun entry => (Octets.ofText entry.1, entry.2)

/-- Names are never abbreviated. -/
def ofLong? (name : Octets) : Option Meaning :=
  table.lookup name

end Meaning

def Switch.ofShort? : Char → Option Switch
  | 'v' => some (.flag .verbose)
  | 'h' => some .help
  | 'V' => some .version
  | _ => none

end Reftest
