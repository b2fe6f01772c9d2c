import LineFraming.Interpreter
import LineFraming.Json.Reader

/-!
# Messages between console and worker

The worker is a process that runs commands. Both sides write one JSON object per line. Its member
`type` names the message, the other members are the message's fields. A report is also read from
an array that holds the name first and then the fields in order.

## Main definitions

* `Worker.Request`, `Worker.Request.line`: what the console asks, and its line.
* `Worker.Report`, `Worker.Report.line`, `Worker.Report.read`: what the worker reports, its line,
  and reading it.
* `Worker.Report.notice`: what a report means for the console.
-/

namespace LineFraming.Worker

/-- What the console asks of the worker. -/
inductive Request where
  /-- Run a command, and answer with its number. -/
  | execute (id : Nat) (code : Text)
  /-- Pass a line to the running program. -/
  | stdin (text : Text)
  /-- Abort the running command. -/
  | interrupt
  deriving DecidableEq

/-- The prompts a worker may ask for. -/
inductive Mode where
  | ordinary
  | help
  | paging
  deriving DecidableEq

/-- What the worker reports. -/
inductive Report where
  | ready
  /-- The command with number `id` is done, or needs more lines. -/
  | result (id : Nat) (more : Bool)
  | commandExecuted
  | inputRequested
  | prompt (mode : Mode)
  | output (stream : OutputStream) (text : Text)
  deriving DecidableEq

/-- A message as an object: its name, then its fields. -/
def message (type : Text) (fields : List (Text × Json.Value)) : Json.Value :=
  .object (("type".toList, .string type) :: fields)

namespace Request

/-- The object of a request. -/
def toJson : Request → Json.Value
  | execute id code =>
    message "execute".toList [("id".toList, .natural id), ("code".toList, .string code)]
  | stdin text => message "stdin".toList [("text".toList, .string text)]
  | interrupt => message "interrupt".toList []

/-- The line of a request, with its line feed. -/
def line (r : Request) : Text := r.toJson.render ++ ['\n']

end Request

namespace Mode

/-- The name of a mode in messages. -/
def name : Mode → Text
  | ordinary => "ordinary".toList
  | help => "help".toList
  | paging => "paging".toList

/-- The prompt for a mode. -/
def toPrompt : Mode → Prompt
  | ordinary => .ordinary
  | help => .help
  | paging => .paging

end Mode

/-- The name of a stream in messages. -/
def streamName : OutputStream → Text
  | .stdout => "stdout".toList
  | .stderr => "stderr".toList

/-! ### Reading -/

/-- The fields of a message, by name or in order. -/
inductive Fields where
  | named (members : List (Text × Json.Value))
  | ordered (values : List Json.Value)

/-- The values of the fields with the given names. Each is there exactly once; of a message
without fields nothing else is asked than that an array holds none. -/
def Fields.take? (names : List Text) : Fields → Option (List Json.Value)
  | named members => names.mapM fun name => Json.Value.member? name members
  | ordered values => if values.length = names.length then some values else none

/-- The name in a field that takes one of several names: a string, or an object whose only member
has that name and no value. -/
def choice? : Json.Value → Option Text
  | .string name => some name
  | .object [(name, .null)] => some name
  | .object [(name, .object [])] => some name
  | _ => none

/-- The mode with a name. -/
def mode? (name : Text) : Option Mode :=
  [Mode.ordinary, .help, .paging].find? fun m => m.name == name

/-- The stream with a name. -/
def stream? (name : Text) : Option OutputStream :=
  [OutputStream.stdout, .stderr].find? fun s => streamName s == name

/-- The message of a value: an object, or an array that holds the name first and then the fields. From
the name and the fields, `ofFields?` tells the message. -/
def message? {α : Type} (ofFields? : Text → Fields → Option α) : Json.Value → Option α
  | .object members =>
    match Json.Value.member? "type".toList members with
    | some (.string type) => ofFields? type (.named members)
    | _ => none
  | .array (.string type :: values) => ofFields? type (.ordered values)
  | _ => none

namespace Report

/-- The object of a report. -/
def toJson : Report → Json.Value
  | ready => message "ready".toList []
  | result id more =>
    message "result".toList [("id".toList, .natural id), ("more".toList, .bool more)]
  | commandExecuted => message "command_executed".toList []
  | inputRequested => message "input_requested".toList []
  | prompt mode => message "prompt".toList [("state".toList, .string mode.name)]
  | output stream text =>
    message "output".toList
      [("stream".toList, .string (streamName stream)), ("text".toList, .string text)]

/-- The line of a report, without a line feed. -/
def line (r : Report) : Text := r.toJson.render

/-- The report with a name and fields. -/
def ofFields? (type : Text) (fields : Fields) : Option Report :=
  if type = "ready".toList then (fields.take? []).map fun _ => ready
  else if type = "command_executed".toList then (fields.take? []).map fun _ => commandExecuted
  else if type = "input_requested".toList then (fields.take? []).map fun _ => inputRequested
  else if type = "result".toList then
    match fields.take? ["id".toList, "more".toList] with
    | some [.natural id, .bool more] => some (result id more)
    | _ => none
  else if type = "prompt".toList then
    match fields.take? ["state".toList] with
    | some [state] => ((choice? state).bind mode?).map prompt
    | _ => none
  else if type = "output".toList then
    match fields.take? ["stream".toList, "text".toList] with
    | some [stream, .string text] => ((choice? stream).bind stream?).map fun s => output s text
    | _ => none
  else none

/-- The report of a value. -/
def ofJson? : Json.Value → Option Report := message? ofFields?

/-- The report on a line, which may have blanks of any kind behind it. -/
def read (line : Text) : Option Report := (Json.read (Text.trimEnd line)).bind ofJson?

/-- What a report means for the console. -/
def notice : Report → Interpreter.Notice
  | ready => .ready
  | result _ more => .response more
  | commandExecuted => .executed
  | inputRequested => .inputRequested
  | prompt mode => .promptRequested mode.toPrompt
  | output stream text => .output stream text

/-- The number of the command that a result belongs to. -/
def id? : Report → Option Nat
  | result id _ => some id
  | _ => none

end Report

end LineFraming.Worker
