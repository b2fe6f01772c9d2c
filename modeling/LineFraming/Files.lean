import LineFraming.Text.Blank

/-!
# Files

Paths are texts whose names are separated by slashes. A path is followed name by name, from the root
if it starts with a slash and from the working directory if not. Each name is looked up in a
directory; so a path that ends with a slash or with a dot leads to a directory or nowhere.

A place is given by the names that lead there from the root, without dots and empty names.

## Main definitions

* `Path.join`: a name below a path.
* `Path.names`: the names on a path.
* `Path.isAbsolute`: whether a path starts at the root.
* `Files`: the entries that are known, and the working directory.
* `Files.Failure`: why a path leads nowhere, and the words for it.
* `Files.entry`: what a path leads to.
-/

namespace LineFraming

namespace Path

/-- A name below a path. The slash between them is there only once. -/
def join (path name : Text) : Text :=
  if path.isEmpty || path.getLast? == some '/' then path ++ name else path ++ '/' :: name

/-- The names between the slashes of a path. -/
def names (path : Text) : List Text := path.splitOnP (· == '/')

/-- Whether a path starts at the root. -/
def isAbsolute (path : Text) : Bool := path.head? == some '/'

end Path

/-- Something that has a place among the files. -/
inductive Files.Entry where
  | directory
  /-- A file, which may be a program that can be started. -/
  | file (content : List UInt8) (runs : Bool)

/-- The entries that are known, by their places, and the working directory. -/
structure Files where
  entries : List (List Text × Files.Entry)
  working : List Text

namespace Files

/-- Why a path leads nowhere. -/
inductive Failure where
  | notFound
  | notDirectory
  | nameTooLong
  deriving DecidableEq

/-- The words for a failure. -/
def Failure.message : Failure → Text
  | notFound => "No such file or directory (os error 2)".toList
  | notDirectory => "Not a directory (os error 20)".toList
  | nameTooLong => "File name too long (os error 36)".toList

/-- How many bytes a path may have, and how many one name on it. -/
def maxPath : Nat := 4095

@[inherit_doc maxPath] def maxName : Nat := 255

/-- How many bytes a text takes. -/
def byteSize (t : Text) : Nat := (String.ofList t).utf8ByteSize

/-- The name that stands for the directory itself. -/
def dot : Text := ['.']

/-- The name that stands for the directory above. The root is above itself. -/
def dotDot : Text := ['.', '.']

/-- The place that a name leads to, from another place. -/
def enter (f : Files) (place : List Text) (name : Text) : Except Failure (List Text) :=
  match f.entries.lookup place with
  | some .directory =>
    if name = [] ∨ name = dot then .ok place
    else if name = dotDot then .ok place.dropLast
    else if maxName < byteSize name then .error .nameTooLong
    else if (f.entries.lookup (place ++ [name])).isSome then .ok (place ++ [name])
    else .error .notFound
  | _ => .error .notDirectory

/-- The place that a path leads to. -/
def place (f : Files) (path : Text) : Except Failure (List Text) :=
  if path = [] then .error .notFound
  else if maxPath < byteSize path then .error .nameTooLong
  else (Path.names path).foldlM f.enter (if Path.isAbsolute path then [] else f.working)

/-- What a path leads to. -/
def entry (f : Files) (path : Text) : Except Failure Entry := do
  match f.entries.lookup (← f.place path) with
  | some e => return e
  | none => throw .notFound

end Files

end LineFraming
