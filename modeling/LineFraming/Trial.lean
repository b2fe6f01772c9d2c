import LineFraming.Program
import LineFraming.Worker.Run

/-!
# Trials

A run of the whole program with a worker that prints what it is told. The working directory holds
the worker and perhaps a settings file; apart from that there is what every system has.

## Main definitions

* `Trial`: the program and how its worker will end.
* `Trial.files`: the files that it finds.
* `Trial.start`: the command line.
* `Trial.Step`, `Trial.step`: what happens to the program.
-/

namespace LineFraming

/-- A run of the program. -/
structure Trial where
  program : Program
  /-- The code that the worker ends with. -/
  workerCode : Option Int := some 0

namespace Trial

/-- The places that every system has, besides the root. -/
def systemEntries : List (Text × Files.Entry) :=
  ["/bin", "/boot", "/dev", "/etc", "/home", "/lib", "/media", "/mnt", "/opt", "/proc", "/root",
    "/run", "/sbin", "/srv", "/sys", "/tmp", "/usr", "/usr/bin", "/usr/lib", "/usr/local",
    "/usr/local/bin", "/usr/sbin", "/usr/share", "/var", "/var/lib", "/var/log", "/var/tmp"].map
      (fun path => (path.toList, .directory)) ++
  [("/dev/null".toList, .file [] false)] ++
  ["/etc/group", "/etc/hostname", "/etc/hosts", "/etc/os-release", "/etc/passwd"].map
    fun path => (path.toList, .file "a system file".toUTF8.toList false)

/-- The place of the working directory. -/
def working : List Text := ["tmp".toList, "trial".toList]

/-- The worker of the trials. As a settings file it is malformed. -/
def worker : Files.Entry := .file "a worker".toUTF8.toList true

/-- The settings file, if there is one. -/
def settingsFile : Settings.FileState → List Files.Entry
  | .absent => []
  | .directory => [.directory]
  | .bytes content => [.file content false]

/-- The files of a trial. -/
def files (settings : Settings.FileState) : Files where
  entries :=
    [([], .directory), (working, .directory), (working ++ ["worker".toList], worker)] ++
    (settingsFile settings).map (working ++ ["config.toml".toList], ·) ++
    systemEntries.map fun e => ((Path.names e.1).tail, e.2)
  working := working

/-- What is found at a path. -/
def fileAt (files : Files) (path : Text) : Settings.FileState :=
  match files.entry path with
  | .ok .directory => .directory
  | .ok (.file content _) => .bytes content
  | .error _ => .absent

/-- Starts the program. -/
def start (arguments : List Text) (home : Text) (settings : Settings.FileState)
    (terminal : Bool) : Except Program.Stop Trial := do
  let files := files settings
  let s ← Program.prepare arguments (Settings.defaultPath home none) (fileAt files)
  match Worker.Launch.failure? files s.worker.command s.worker.arguments with
  | some failure => .error (.launch (.spawn s.worker.command failure.message))
  | none => return {
      program := .start s terminal
      workerCode := match s.worker.arguments with
        | [] => some 0
        | how :: _ => Worker.Run.exitCodeOf how }

/-- What happens to the program. -/
inductive Step where
  /-- The worker prints a line. -/
  | print (line : Text)
  /-- A line is typed, without an editor. -/
  | line (text : Text)
  /-- Keys are typed into the editor. -/
  | keys (keys : Text)
  /-- The user interrupts. -/
  | signal
  /-- The input ends. -/
  | endOfInput
  /-- The worker ends; then keys are typed, or the input ends without an editor. -/
  | exit (keys : Text)

/-- The bytes of a line with its line feed. -/
def lineBytes (line : Text) : List UInt8 := (String.ofList line).toUTF8.toList ++ [10]

/-- What a step does to the program. -/
def advance (t : Trial) : Step → Program
  | .print line => t.program.printed (lineBytes line)
  | .line text => t.program.typed (lineBytes text)
  | .keys keys => t.program.map (·.type keys)
  | .signal => t.program.map (·.feed .interruptSignal)
  | .endOfInput => t.program.endInput
  | .exit keys =>
    let p := t.program.endWorker t.workerCode
    if p.dialogue.editor.isSome then p.map (·.type keys) else p.endInput

/-- Applies a step. -/
def step (t : Trial) (s : Step) : Trial := { t with program := t.advance s }

end Trial

end LineFraming
