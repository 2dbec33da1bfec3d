import Reftest.Log.Event
import Reftest.Text.Utf8

namespace Reftest.Run

inductive Happening where
  | event (event : Log.Event)
  | call (program : Octets) (arguments : List Octets)
  | output (octets : Octets)
  | complaint (octets : Octets)
  | verdict (octets : Octets)
  | flush
  deriving DecidableEq, Repr

abbrev Trace := List Happening

namespace Trace

def events (trace : Trace) : List Log.Event :=
  trace.filterMap fun
    | .event told => some told
    | _ => none

def calls (trace : Trace) : List (Octets × List Octets) :=
  trace.filterMap fun
    | .call program arguments => some (program, arguments)
    | _ => none

def output (trace : Trace) : Octets :=
  trace.flatMap fun
    | .output octets => octets
    | _ => []

def complaint (trace : Trace) : Octets :=
  trace.flatMap fun
    | .complaint octets => octets
    | _ => []

def verdict (trace : Trace) : Octets :=
  trace.flatMap fun
    | .verdict octets => octets
    | _ => []

def flushes (trace : Trace) : Nat :=
  trace.count .flush

@[simp] theorem events_append (left right : Trace) :
    (left ++ right : Trace).events = left.events ++ right.events :=
  List.filterMap_append

@[simp] theorem calls_append (left right : Trace) :
    (left ++ right : Trace).calls = left.calls ++ right.calls :=
  List.filterMap_append

@[simp] theorem output_append (left right : Trace) :
    (left ++ right : Trace).output = left.output ++ right.output :=
  List.flatMap_append

@[simp] theorem verdict_append (left right : Trace) :
    (left ++ right : Trace).verdict = left.verdict ++ right.verdict :=
  List.flatMap_append

end Trace

end Reftest.Run
