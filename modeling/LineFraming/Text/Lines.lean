import LineFraming.Text.Blank

/-!
# Lines of a text and lines of a byte stream

A pasted text is cut into lines at every line feed; a carriage return just before the line feed
belongs to the line end, and a text that ends with a line end has no further, empty line. Bytes
that arrive piece by piece are cut the same way, with one difference: a line is decoded only when
it is complete, and a line that is not UTF-8 ends the stream.

## Main definitions

* `Text.lines`: the lines of a text.
* `ByteLines`: the bytes of a stream that are not yet part of a complete line.
* `ByteLines.feed`, `ByteLines.finish`: more bytes arrive, the stream ends.
-/

namespace LineFraming

namespace Text

/-- The lines of a text, without their line ends. -/
def lines : Text → List Text
  | [] => []
  | '\n' :: rest => [] :: lines rest
  | '\r' :: '\n' :: rest => [] :: lines rest
  | c :: rest =>
    match lines rest with
    | [] => [[c]]
    | line :: more => (c :: line) :: more

/-- The text of some bytes, if they are UTF-8. -/
def ofUtf8? (bytes : List UInt8) : Option Text :=
  (String.fromUTF8? ⟨bytes.toArray⟩).map String.toList

end Text

/-- The bytes of a stream since its last line end, and whether the stream is over. A stream is
over at its end or at the first line that is not UTF-8. -/
structure ByteLines where
  pending : List UInt8 := []
  ended : Bool := false

namespace ByteLines

/-- The bytes of a line whose line feed has been removed: one carriage return goes with it. -/
def withoutReturn (line : List UInt8) : List UInt8 :=
  if line.getLast? = some 13 then line.dropLast else line

/-- Cuts bytes at line feeds: the complete lines, and what follows the last line feed. -/
def cut (pending : List UInt8) : List UInt8 → List (List UInt8) × List UInt8
  | [] => ([], pending.reverse)
  | b :: rest =>
    if b = 10 then
      let (lines, last) := cut [] rest
      (withoutReturn pending.reverse :: lines, last)
    else cut (b :: pending) rest

/-- Decodes lines up to the first one that is not UTF-8; tells whether all of them were. -/
def decode : List (List UInt8) → List Text × Bool
  | [] => ([], true)
  | line :: rest =>
    match Text.ofUtf8? line with
    | none => ([], false)
    | some text =>
      let (texts, sound) := decode rest
      (text :: texts, sound)

/-- More bytes arrive: the lines they complete. -/
def feed (s : ByteLines) (bytes : List UInt8) : List Text × ByteLines :=
  if s.ended then ([], s)
  else
    let (lines, last) := cut s.pending.reverse bytes
    let (texts, sound) := decode lines
    (texts, { pending := last, ended := !sound })

/-- The stream ends: what is left over is one more line, which keeps its carriage return. -/
def finish (s : ByteLines) : List Text × ByteLines :=
  if s.ended || s.pending.isEmpty then ([], { s with ended := true })
  else ((Text.ofUtf8? s.pending).toList, { pending := [], ended := true })

end ByteLines

end LineFraming
