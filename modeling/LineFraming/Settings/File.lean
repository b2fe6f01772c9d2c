import LineFraming.Files
import LineFraming.Settings.Decode
import LineFraming.Text.Lines

/-!
# The settings file

Where the settings file is, and what reading it gives. A file that is not there stands for the
defaults; all others must be readable, well formed and without flaws, in this order.

## Main definitions

* `Settings.FileState`: what is found at a path.
* `Settings.Fault`, `Settings.Fault.message`: why settings are not taken.
* `Settings.load`: the settings in a file.
* `Settings.defaultPath`: where the settings file is unless another one is named.
* `Settings.Store`, `Settings.Store.reload`: settings that can be read again.
-/

namespace LineFraming.Settings

/-- What is found at a path. -/
inductive FileState where
  | absent
  | directory
  | bytes (content : List UInt8)

/-- Why a file cannot be read. -/
inductive ReadFault where
  | isDirectory
  | notUtf8
  deriving DecidableEq

/-- The words for a read fault. -/
def ReadFault.message : ReadFault → Text
  | isDirectory => "Is a directory (os error 21)".toList
  | notUtf8 => "stream did not contain valid UTF-8".toList

/-- Why settings are not taken. -/
inductive Fault where
  | unreadable (cause : ReadFault)
  | malformed
  | invalid (flaw : Flaw)
  deriving DecidableEq

/-- The words for a fault of the file at a path. What a malformed file should look like instead is
left to others to say. -/
def Fault.message (path : Text) : Fault → Text
  | unreadable cause =>
    "Failed to read config file '".toList ++ path ++ "': ".toList ++ cause.message
  | malformed => "Failed to parse config file '".toList ++ path ++ "'".toList
  | invalid flaw => "Config validation failed: ".toList ++ flaw.message

/-- The text of a file; `none` if there is no file. -/
def FileState.text? : FileState → Except ReadFault (Option Text)
  | absent => .ok none
  | directory => .error .isDirectory
  | bytes content =>
    match Text.ofUtf8? content with
    | some t => .ok (some t)
    | none => .error .notUtf8

/-- The settings in a file, where `parse` reads the text. -/
def loadWith (parse : Text → Option Settings) (file : FileState) : Except Fault Settings :=
  match file.text? with
  | .error cause => .error (.unreadable cause)
  | .ok none => .ok {}
  | .ok (some t) =>
    match parse t with
    | none => .error .malformed
    | some s =>
      match s.check with
      | .error flaw => .error (.invalid flaw)
      | .ok () => .ok s

/-- The settings in a file. -/
def load (file : FileState) : Except Fault Settings := loadWith ofToml? file

/-- The home directory: the one that is set, or that of the superuser. -/
def homeDirectory (home : Text) : Text := if home.isEmpty then "/root".toList else home

/-- The directory for settings: the one that is set for it, if its path is absolute, else a hidden
one in the home directory. -/
def directory (home : Text) (configHome : Option Text) : Text :=
  match configHome.filter Path.isAbsolute with
  | some path => path
  | none => Path.join (homeDirectory home) ".config".toList

/-- Where the settings file is unless another one is named. -/
def defaultPath (home : Text) (configHome : Option Text) : Text :=
  Path.join (Path.join (directory home configHome) "replframe".toList) "config.toml".toList

/-- Settings with the path that they are read from. All who use them see the same settings. -/
structure Store where
  settings : Settings := {}
  path : Text

namespace Store

/-- Reads the settings again. If that fails, they stay as they are. -/
def reloadWith (parse : Text → Option Settings) (s : Store) (file : FileState) :
    Except Fault Unit × Store :=
  match loadWith parse file with
  | .ok settings => (.ok (), { s with settings := settings })
  | .error fault => (.error fault, s)

/-- Reads the settings again from TOML. -/
def reload (s : Store) (file : FileState) : Except Fault Unit × Store :=
  s.reloadWith ofToml? file

end Store

end LineFraming.Settings
