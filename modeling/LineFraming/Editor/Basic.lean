import LineFraming.Editor.Reading

/-!
# The line editor

A line editor on a terminal reads one line after the other. What has been deleted and which lines
were read outlasts a read. Keys take effect one command at a time; those that are not yet a command
wait for more, and those that come behind the key that ends a read are lost with it.

## Main definitions

* `Editor`: the state of the editor.
* `Editor.Ending`: how a read ends.
* `Editor.start`: a read begins.
* `Editor.press`: keys are typed into the read.
-/

namespace LineFraming

/-- The state of a line editor. -/
structure Editor where
  /-- The lines that were read, oldest first. -/
  lines : List Text := []
  kills : Editor.KillRing := {}
  /-- The read in progress. -/
  reading : Option Editor.Reading := none
  /-- Keys that are not yet a command. -/
  pending : Text := []
  /-- The keys that were typed while no read was in progress. -/
  ahead : Text := []

namespace Editor

/-- How a read ends. -/
inductive Ending where
  | line (text : Text)
  | interrupted
  | endOfInput
  deriving DecidableEq

/-- How many lines are kept. -/
def maxLines : Nat := 100

/-- The lines that were read, with one more, unless it is empty or repeats the last one. -/
def remember (lines : List Text) (line : Text) : List Text :=
  if line = [] ∨ lines.getLast? = some line then lines
  else (lines ++ [line]).drop (lines.length + 1 - maxLines)

/-- A read begins, with a text that is there already. -/
def start (e : Editor) (prefilled : Text) : Editor :=
  { e with
    kills := e.kills.rest
    reading := some (.start prefilled e.lines.length)
    pending := [] }

/-- Carries out a command. -/
def perform (e : Editor) (r : Reading) (c : Command) : Editor × Option Ending :=
  match r.search.bind fun s => r.searchStep? e.lines s c with
  | some r => ({ e with reading := some r }, none)
  | none =>
    let r := r.endSearch
    let e := { e with kills := if c.keepsKills then e.kills else e.kills.rest, reading := none }
    match c with
    | .accept =>
      ({ e with lines := remember e.lines r.line.text }, some (.line r.line.text))
    | .interrupt => (e, some .interrupted)
    | .endInput => (e, some .endOfInput)
    | c =>
      let (r, kills) := r.apply e.lines e.kills c
      ({ e with kills := kills, reading := some r }, none)

/-- Carries out commands until the read ends or more keys are needed. -/
def run : (fuel : Nat) → Editor → Editor × Option Ending
  | 0, e => (e, none)
  | fuel + 1, e =>
    match e.reading with
    | none => (e, none)
    | some r =>
      match Command.read? r.search.isNone r.line.text.isEmpty e.pending with
      | none => (e, none)
      | some (c, rest) =>
        match { e with pending := rest }.perform r c with
        | (e, none) => run fuel e
        | (e, some ending) => ({ e with pending := [] }, some ending)

/-- Keys are typed into the read. Every command takes at least one. -/
def press (e : Editor) (keys : Text) : Editor × Option Ending :=
  let keys := e.pending ++ keys
  run (keys.length + 1) { e with pending := keys }

/-- Keys are typed while no read is in progress. -/
def typeAhead (e : Editor) (keys : Text) : Editor := { e with ahead := e.ahead ++ keys }

end Editor

end LineFraming
