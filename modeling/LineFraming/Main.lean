import LineFraming.Program

/-!
# The command line program

Reads the settings, connects the worker and runs the dialogue. Whoever starts the program starts
the worker, too, and hands over its two streams, as descriptors or as named pipes: descriptor 3,
or the pipe that `LINE_FRAMING_WORKER_OUTPUT` names, is what the worker prints; descriptor 4, or the
pipe that `LINE_FRAMING_WORKER_INPUT` names, is where it reads its requests. A worker ends when its
input ends, and the program waits for that.

What is typed and what the worker prints is read by two tasks, a line at a time. Everything else
happens in `CommandLine.serve`, one arrival after the other.
-/

namespace LineFraming.CommandLine

/-- What arrives: a piece of a stream, which is empty at the end of the stream. -/
inductive Arrival where
  | typed (bytes : ByteArray)
  | printed (bytes : ByteArray)

/-- The bytes up to the next line feed, or up to the end of the stream. -/
partial def readLine (read : IO ByteArray) (line : ByteArray := .empty) : IO ByteArray := do
  let byte ← read
  if byte.isEmpty || byte[0]? == some 10 then return line ++ byte
  readLine read (line ++ byte)

/-- Reads a line in the background. A stream that cannot be read has ended. -/
def await (read : IO ByteArray) (kind : ByteArray → Arrival) : BaseIO (Task Arrival) :=
  BaseIO.asTask (do
    match ← (readLine read).toBaseIO with
    | .ok line => return kind line
    | .error _ => return kind .empty) .dedicated

/-- The two streams of the worker. -/
structure Connection where
  output : IO.FS.Handle
  input : IO.FS.Handle

/-- Opens the streams of the worker. -/
def Connection.open : IO Connection := do
  let output := (← IO.getEnv "LINE_FRAMING_WORKER_OUTPUT").getD "/dev/fd/3"
  let input := (← IO.getEnv "LINE_FRAMING_WORKER_INPUT").getD "/dev/fd/4"
  return {
    output := ← IO.FS.Handle.mk output .read
    input := ← IO.FS.Handle.mk input .write }

/-- Applies an arrival. How the worker ended is not known. -/
def receive (p : Program) : Arrival → Program
  | .typed bytes => if bytes.isEmpty then p.endInput else p.typed bytes.toList
  | .printed bytes =>
    let p := if bytes.isEmpty then p.endWorker none else p.printed bytes.toList
    if p.output.ended && !p.dialogue.exited then p.endWorker none else p

/-- Writes what the program did: its output, and the requests to the worker. -/
def deliver (c : Connection) (p : Program) : IO Program := do
  let (deeds, p) := p.takeJournal
  let stdout ← IO.getStdout
  for deed in deeds do
    stdout.putStr (String.ofList deed.written)
  stdout.flush
  let (requests, p) := p.takeRequests p.dialogue.console.framer.interpreter.requests.length
  try
    for request in requests do
      c.input.putStr (String.ofList request.line)
    c.input.flush
  catch _ => pure ()
  return p

/-- Runs the dialogue until it ends, while the given streams are being read. -/
partial def serve (c : Connection) (p : Program) (typed printed : Option (Task Arrival)) :
    IO Program := do
  let p ← deliver c p
  if p.outcome?.isSome then return p
  match typed.toList ++ printed.toList with
  | [] => return p
  | task :: others =>
    let arrival ← IO.waitAny (task :: others) (Nat.zero_lt_succ _)
    let p := receive p arrival
    match arrival with
    | .typed bytes =>
      let next ← if bytes.isEmpty then pure none
        else some <$> await ((← IO.getStdin).read 1) .typed
      serve c p next printed
    | .printed bytes =>
      let next ← if bytes.isEmpty then pure none
        else some <$> await (c.output.read 1) .printed
      serve c p typed next

/-- What is found at a path. -/
def findFile (path : Text) : IO Settings.FileState := do
  try
    return .bytes (← IO.FS.readBinFile (String.ofList path)).toList
  catch
    | .noFileOrDirectory .. => return .absent
    | _ => return .directory

/-- The settings to run with. -/
def settings (arguments : List Text) : IO (Except Program.Stop Settings) := do
  let home := ((← IO.getEnv "HOME").getD "").toList
  let configHome := (← IO.getEnv "XDG_CONFIG_HOME").map (·.toList)
  let path := Settings.defaultPath home configHome
  match Arguments.parse arguments with
  | .error refusal => return .error (.usage refusal)
  | .ok a =>
    let file ← findFile (a.settingsPath path)
    return Program.prepare arguments path fun _ => file

/-- Ends the program before the dialogue. -/
def halt (stop : Program.Stop) : IO UInt32 := do
  match stop with
  | .usage .help => IO.println (String.ofList Arguments.help)
  | .usage .version => IO.println (String.ofList Arguments.version)
  | .usage refusal => IO.eprintln ("error: " ++ String.ofList refusal.message)
  | _ =>
    for line in stop.errorLine? do
      IO.eprintln (String.ofList line)
  return stop.exitCode.toUInt32

end LineFraming.CommandLine

open LineFraming CommandLine

/-- Runs the program. -/
def main (arguments : List String) : IO UInt32 := do
  match ← settings (arguments.map (·.toList)) with
  | .error stop => halt stop
  | .ok s =>
    match ← Connection.open.toBaseIO with
    | .error _ => halt (.launch (.spawn s.worker.command Files.Failure.notFound.message))
    | .ok c =>
      let typed ← await ((← IO.getStdin).read 1) .typed
      let printed ← await (c.output.read 1) .printed
      let p ← serve c (.start s false) (some typed) (some printed)
      if let some (some cause) := p.outcome? then
        IO.eprintln ("Error: " ++ String.ofList cause)
      return p.exitCode.toUInt32
