import LineFraming.Files

/-!
# Starting a worker

A command that names a path leads to a file, which must be a program. Any other command is looked
up among the installed programs, of which none is known; the dots are found there, too, but they
are directories. What a worker is started with must not hold a NUL character, which would cut it
short.

## Main definitions

* `Worker.Launch.Failure`: why a command cannot be started, and the words for it.
* `Worker.Launch.failure?`: whether a command cannot be started.
-/

namespace LineFraming.Worker.Launch

/-- Why a command cannot be started. -/
inductive Failure where
  | unreachable (cause : Files.Failure)
  | permissionDenied
  | nulByte
  deriving DecidableEq

/-- The words for a failure. -/
def Failure.message : Failure → Text
  | unreachable cause => cause.message
  | permissionDenied => "Permission denied (os error 13)".toList
  | nulByte => "nul byte found in provided data".toList

/-- Why a command that names a path cannot be started. -/
def fileFailure? (files : Files) (path : Text) : Option Failure :=
  match files.entry path with
  | .error cause => some (.unreachable cause)
  | .ok (.file _ true) => none
  | .ok _ => some .permissionDenied

/-- Why a command that names no path cannot be started. -/
def nameFailure (name : Text) : Failure :=
  if name = Files.dot ∨ name = Files.dotDot then .permissionDenied
  else if Files.maxName < Files.byteSize name then .unreachable .nameTooLong
  else .unreachable .notFound

/-- Why a command cannot be started with some arguments; `none` if it can. -/
def failure? (files : Files) (command : Text) (arguments : List Text) : Option Failure :=
  if (command :: arguments).any (·.contains '\x00') then some .nulByte
  else if command.contains '/' then fileFailure? files command
  else some (nameFailure command)

end LineFraming.Worker.Launch
