import LineFraming.Text.Lines
import LineFraming.Worker.Link

/-!
# The run of a worker

A worker prints bytes and ends at last. What it prints is cut into lines, which are heard one after
the other; when it has ended, the link is down and the console gets a last notice with the exit
code. If nobody takes notices, the reading stops at the first one, and the worker is ended.

## Main definitions

* `Worker.Run`: the link, the output that is not yet a line, and how the worker will end.
* `Worker.Run.print`, `Worker.Run.exit`: the worker prints, the worker ends.
* `Worker.Run.request`: a request of the console, and what becomes of it.
-/

namespace LineFraming.Worker

/-- The run of a worker, with the console's side of the connection. -/
structure Run where
  link : Link := {}
  output : ByteLines := {}
  /-- The code it ends with, `none` if a signal will end it. -/
  exitCode : Option Int := some 0
  running : Bool := true
  /-- Whether somebody takes the notices. -/
  attended : Bool := true

namespace Run

/-- Lines of the worker are heard. -/
def hear (p : Run) (lines : List Text) : List Interpreter.Notice × Run :=
  if p.attended then
    let (notices, link) := p.link.hearAll lines
    (notices, { p with link := link })
  else
    match p.link.hearOne lines with
    | (false, link) => ([], { p with link := link })
    | (true, link) => ([], { p with link := { link with pipe := .hungUp }, running := false })

/-- The worker prints some bytes. -/
def print (p : Run) (bytes : List UInt8) : List Interpreter.Notice × Run :=
  if p.running then
    let (lines, output) := p.output.feed bytes
    { p with output := output }.hear lines
  else ([], p)

/-- The worker prints some last bytes and ends. -/
def exit (p : Run) (bytes : List UInt8) : List Interpreter.Notice × Run :=
  if p.running then
    let (lines, output) := p.output.feed bytes
    let (last, output) := output.finish
    let (notices, p) := { p with output := output }.hear (lines ++ last)
    if p.running then
      (notices ++ if p.attended then [.exited p.exitCode] else [],
        { p with link := p.link.hangUp, running := false })
    else (notices, p)
  else ([], p)

/-- What becomes of a request. -/
inductive Fate where
  /-- The worker reads it. -/
  | received (request : Request)
  /-- It is sent, but nobody reads it. -/
  | lost
  | refused (fault : Interpreter.Fault)

/-- The console makes a request, and the worker reads it. -/
def request (p : Run) (ask : Link → Except Interpreter.Fault Unit × Link) : Fate × Run :=
  match ask p.link with
  | (.error fault, link) => (.refused fault, { p with link := link })
  | (.ok (), link) =>
    match link.requests with
    | [] => (.lost, { p with link := link })
    | r :: rest => (.received r, { p with link := { link with requests := rest } })

/-- The console hands over a command. -/
def execute (p : Run) (command : Text) : Fate × Run :=
  p.request (Interpreter.execute command)

/-- The console asks to abort. -/
def interrupt (p : Run) : Fate × Run := p.request Interpreter.interrupt

/-- The exit code of a worker that is told how to end: by a signal for the word `kill`, else with
a number, of which eight bits are kept. -/
def exitCodeOf (how : Text) : Option Int :=
  if how = "kill".toList then none
  else some (((String.ofList how).toInt?.getD 1) % 256)

end Run

end LineFraming.Worker
