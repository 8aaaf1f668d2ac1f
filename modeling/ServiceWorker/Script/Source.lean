import ServiceWorker.Script.Event

/-!
# Scripts

A script is a text of lines. Lines that are no events are passed over, and the script ends where it
is no text.

## Main definitions

* `Script.lines`: the lines of a script
* `Script.events`: its events
-/

namespace ServiceWorker.Script

/-- The bytes between line ends. -/
def byteLines : Bytes → List Bytes
  | [] => [[]]
  | b :: rest =>
    match byteLines rest with
    | [] => [[b]]
    | line :: lines => if b = 10 then [] :: line :: lines else (b :: line) :: lines

/-- Texts up to the first line that is none. -/
def textsOf : List Bytes → List String
  | [] => []
  | line :: lines =>
    match Text.utf8? line with
    | some text => text :: textsOf lines
    | none => []

/-- The lines of a script, up to the first one that is no text. -/
def lines (bytes : Bytes) : List String :=
  textsOf (byteLines bytes)

/-- The event of a line, if it is one. -/
def eventOf (line : String) : Option Event :=
  (parseLine line.toList).bind Except.toOption

/-- The events of a script in order. -/
def events (bytes : Bytes) : List Event :=
  (lines bytes).filterMap eventOf

end ServiceWorker.Script
