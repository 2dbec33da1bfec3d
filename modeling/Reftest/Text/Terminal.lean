/-!
What a terminal shows of a text.  Control sequences in the text do not reach the terminal, and
neither do single controls, except for those that are white space.
-/

namespace Reftest.Terminal

/-- How a text comes to be shown: as a whole, or written to a stream.  White space inside of a
control sequence is shown; it breaks the sequence off in a whole text, while in a stream the
sequence goes on at the next control. -/
inductive Medium where
  | whole
  | stream
  deriving DecidableEq, Repr

/-- Outside of control sequences, or how far a sequence has come.  Behind an escape stands a short
sequence, a sequence with parameters, a string for the device, a command for the system, or some
other message. -/
inductive Mode where
  | plain
  | escape
  | escapeIntermediate
  | sequence
  | sequenceParameters
  | sequenceIntermediate
  | sequenceRefused
  | device
  | deviceParameters
  | deviceIntermediate
  | command
  | message
  deriving DecidableEq, Repr

def isWhite (c : Char) : Bool :=
  c = '\t' || c = '\n' || c = '\x0c' || c = '\r'

def isIntermediate (c : Char) : Bool :=
  ' ' ≤ c && c ≤ '/'

def isParameter (c : Char) : Bool :=
  '0' ≤ c && c ≤ ';'

def isPrivate (c : Char) : Bool :=
  '<' ≤ c && c ≤ '?'

def isFinal (c : Char) : Bool :=
  '@' ≤ c && c ≤ '~'

def terminator : UInt8 := 0x9C

namespace Mode

def afterEscape (c : Char) : Mode :=
  if isIntermediate c then .escapeIntermediate
  else if c = '[' then .sequence
  else if c = ']' then .command
  else if c = 'P' then .device
  else if c = 'X' ∨ c = '^' ∨ c = '_' then .message
  else if isParameter c ∨ isPrivate c ∨ isFinal c then .plain
  else .escape

def next (mode : Mode) (c : Char) : Mode :=
  if c = '\x1b' then .escape
  else if c = '\x18' ∨ c = '\x1a' then .plain
  else match mode with
    | .plain => .plain
    | .escape => afterEscape c
    | .escapeIntermediate =>
      if isParameter c ∨ isPrivate c ∨ isFinal c then .plain else .escapeIntermediate
    | .sequence =>
      if isFinal c then .plain
      else if isIntermediate c then .sequenceIntermediate
      else if isParameter c ∨ isPrivate c then .sequenceParameters
      else .sequence
    | .sequenceParameters =>
      if isFinal c then .plain
      else if isIntermediate c then .sequenceIntermediate
      else if isPrivate c then .sequenceRefused
      else .sequenceParameters
    | .sequenceIntermediate =>
      if isFinal c then .plain
      else if isParameter c ∨ isPrivate c then .sequenceRefused
      else .sequenceIntermediate
    | .sequenceRefused => if isFinal c then .plain else .sequenceRefused
    | .device =>
      if isFinal c then .message
      else if isIntermediate c then .deviceIntermediate
      else if isParameter c ∨ isPrivate c then .deviceParameters
      else .device
    | .deviceParameters =>
      if isFinal c ∨ isPrivate c then .message
      else if isIntermediate c then .deviceIntermediate
      else .deviceParameters
    | .deviceIntermediate =>
      if isFinal c ∨ isParameter c ∨ isPrivate c then .message else .deviceIntermediate
    | .command => if c = '\x07' then .plain else .command
    | .message => if (String.utf8EncodeChar c).contains terminator then .plain else .message

def shows (mode : Mode) (c : Char) : Bool :=
  match mode with
  | .plain => (' ' ≤ c && c ≠ '\x7f') || isWhite c
  | .escape => isWhite c
  | .escapeIntermediate => isWhite c
  | .sequence => isWhite c
  | .sequenceParameters => isWhite c
  | .sequenceIntermediate => isWhite c
  | .sequenceRefused => isWhite c
  | _ => false

end Mode

/-- The mode behind a character that is shown.  In a stream one of a single octet leaves a sequence
open. -/
def Medium.keep (medium : Medium) (mode : Mode) (c : Char) : Mode :=
  if medium = .stream ∧ c ≤ '\x7f' then mode else .plain

def visibleFrom (medium : Medium) : (mode : Mode) → (shown : Bool) → List Char → List Char
  | _, _, [] => []
  | mode, shown, c :: text =>
    if (if shown then Mode.plain else mode).shows c then
      c :: visibleFrom medium (medium.keep mode c) true text
    else visibleFrom medium (mode.next c) false text

def visible (medium : Medium) (text : String) : String :=
  String.ofList (visibleFrom medium .plain false text.toList)

end Reftest.Terminal
