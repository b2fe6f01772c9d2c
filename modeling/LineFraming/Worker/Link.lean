import LineFraming.Worker.Message

/-!
# The link to a worker

Each command gets the next number, and the result with that number is the response to it; results
with other numbers are stale. The flags change as soon as a report is read, while the console
learns of it later, when it gets to the notice.

## Main definitions

* `Worker.Status`, `Worker.Status.apply`: the flags, and what a report does to them.
* `Worker.Link`: the console's side of the connection, with an `Interpreter` instance.
* `Worker.Link.hear`: a line of the worker.
* `Worker.Link.hangUp`: the worker is gone.
-/

namespace LineFraming.Worker

/-- What the console's side knows about the commands it sent. -/
structure Status where
  executing : Bool := false
  waiting : Bool := false
  /-- The number of the command whose result is outstanding. -/
  pendingId : Option Nat := none
  deriving DecidableEq

/-- What a report does to the flags, and the notice that is passed on. A result for another
command than the pending one is dropped. -/
def Status.apply (s : Status) (r : Report) : Option Interpreter.Notice × Status :=
  match r with
  | .result id _ =>
    if s.pendingId = some id then
      (some r.notice, { s with executing := false, waiting := false, pendingId := none })
    else (none, s)
  | .inputRequested => (some r.notice, { s with waiting := true })
  | _ => (some r.notice, s)

/-- The way of requests to the worker. -/
inductive Pipe where
  /-- The worker reads them. -/
  | connected
  /-- The worker is gone, which the next request will show; that request is lost. -/
  | hungUp
  /-- Requests are refused. -/
  | closed
  deriving DecidableEq

/-- The console's side of the connection. -/
structure Link where
  status : Status := {}
  /-- The number of the last command. -/
  lastId : Nat := 0
  /-- The requests that the worker has not read yet, the oldest first. -/
  requests : List Request := []
  pipe : Pipe := .connected

namespace Link

/-- Sends a request. -/
def send (l : Link) (r : Request) : Except Interpreter.Fault Unit × Link :=
  match l.pipe with
  | .connected => (.ok (), { l with requests := l.requests ++ [r] })
  | .hungUp => (.ok (), { l with pipe := .closed })
  | .closed => (.error .disconnected, l)

/-- Sends a line to the program that waits for one, else a command with the next number. The flags
change before the request is sent. -/
def execute (l : Link) (text : Text) : Except Interpreter.Fault Unit × Link :=
  if l.status.waiting then
    { l with status := { l.status with waiting := false } }.send (.stdin text)
  else
    let id := l.lastId + 1
    { l with
      lastId := id
      status := { l.status with executing := true, pendingId := some id } }.send (.execute id text)

instance : Interpreter Link where
  execute text l := l.execute text
  interrupt l := l.send .interrupt
  isExecuting l := l.status.executing
  isWaiting l := l.status.waiting

/-- A line of the worker: the notice that is passed on, if there is one. Blank lines and lines
that are no report are skipped. -/
def hear (l : Link) (line : Text) : Option Interpreter.Notice × Link :=
  if Text.isBlank line then (none, l)
  else
    match Report.read line with
    | none => (none, l)
    | some report =>
      let (notice, status) := l.status.apply report
      (notice, { l with status := status })

/-- Some lines of the worker: the notices that are passed on. -/
def hearAll (l : Link) : List Text → List Interpreter.Notice × Link
  | [] => ([], l)
  | line :: rest =>
    let (notice, l) := l.hear line
    let (notices, l) := l.hearAll rest
    (notice.toList ++ notices, l)

/-- The lines up to the first one that is passed on, when nobody takes notices any more; tells
whether there was one. -/
def hearOne (l : Link) : List Text → Bool × Link
  | [] => (false, l)
  | line :: rest =>
    match l.hear line with
    | (some _, l) => (true, l)
    | (none, l) => l.hearOne rest

/-- The worker is gone. -/
def hangUp (l : Link) : Link := { l with status := {}, pipe := .hungUp }

end Link

end LineFraming.Worker
