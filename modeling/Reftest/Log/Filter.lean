import Reftest.Log.Directive

namespace Reftest.Log

abbrev Filter := List Directive

namespace Filter

def standard (verbose : Bool) : Filter :=
  let own := "reftest_debugger".toList
  if verbose then
    [{ target := own, threshold := some .debug }, { threshold := some .warn }]
  else [{ target := own, threshold := some .warn }]

/-- Of two directives that cover an event, the second decides unless it is less specific. -/
def prefer (first : Option Directive) (second : Directive) : Option Directive :=
  match first with
  | none => some second
  | some chosen => if chosen.specificity ≤ second.specificity then some second else some chosen

def deciding (filter : Filter) (event : Event) : Option Directive :=
  (filter.filter (·.covers event)).foldl prefer none

def shows (filter : Filter) (event : Event) : Bool :=
  match filter.deciding event with
  | some directive => directive.threshold.admits event.level
  | none => false

def read? (text : String) : Option Filter :=
  let directives := (pieces ',' text.toList).filter (· ≠ [])
  if directives = [] then some [{ threshold := some .error }]
  else directives.mapM Directive.read?

def choose (verbose : Bool) (wanted : Option String) : Filter :=
  (wanted.bind read?).getD (standard verbose)

end Filter

/-- How events come to be seen: those that the filter shows, each with the time at which it is
told. -/
structure Display where
  filter : Filter
  coloured : Bool
  clock : Event → String

def Display.show (display : Display) (event : Event) : Octets :=
  if display.filter.shows event then
    Octets.ofText (event.line display.coloured (display.clock event))
  else []

end Reftest.Log
