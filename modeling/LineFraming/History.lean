import LineFraming.Text.Blank

/-!
# History

The commands that were entered, oldest first. Blank input is not worth recalling, nor is a command
that repeats the one before it; when the history is full, the oldest command makes room.

## Main definitions

* `History`: the commands and how many there may be.
* `History.add`: one more command.
-/

namespace LineFraming

/-- The commands that were entered, oldest first, at most `capacity` of them. -/
structure History where
  capacity : Nat
  entries : List Text := []

namespace History

/-- Records a command without the blanks at its end, unless it is blank or repeats the last one. -/
def add (h : History) (command : Text) : History :=
  let entry := Text.trimEnd command
  if Text.isBlank entry || h.capacity == 0 then h
  else if h.entries.getLast? = some entry then h
  else if h.entries.length = h.capacity then { h with entries := h.entries.drop 1 ++ [entry] }
  else { h with entries := h.entries ++ [entry] }

end History

end LineFraming
