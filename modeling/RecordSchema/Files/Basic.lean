namespace RecordSchema

/-!
# Files

What a program sees of a file system: what a path leads to, the bytes that are read
from it and the entries of a directory, each as an answer or as the reason why there
is none.
-/

/-- Why a path gives no answer. -/
inductive FileError where
  | notFound
  | notADirectory
  | isADirectory
  | nameTooLong
  | nulInName
  | notUtf8
  | other (reason : String)
  deriving Repr, DecidableEq

namespace FileError

/-- The wording of a reason. -/
def message : FileError → String
  | .notFound => "No such file or directory (os error 2)"
  | .notADirectory => "Not a directory (os error 20)"
  | .isADirectory => "Is a directory (os error 21)"
  | .nameTooLong => "File name too long (os error 36)"
  | .nulInName => "file name contained an unexpected NUL byte"
  | .notUtf8 => "stream did not contain valid UTF-8"
  | .other reason => reason

end FileError

/-- What a path leads to: a regular file, a directory, or a socket, a pipe or a device. -/
inductive FileKind where
  | file
  | directory
  | special
  deriving Repr, DecidableEq

/--
The answers of a file system at one time.  A directory that can be listed may still have
entries whose names cannot be read.
-/
structure Files where
  kind : String → Except FileError FileKind
  bytes : String → Except FileError ByteArray
  entries : String → Except FileError (List (Except FileError String))

namespace Files

/-- The text of bytes in UTF-8. -/
def decode (bytes : ByteArray) : Except FileError String :=
  match String.fromUTF8? bytes with
  | some text => .ok text
  | none => .error .notUtf8

/-- The text that is read from a path. -/
def text (files : Files) (path : String) : Except FileError String :=
  match files.bytes path with
  | .error error => .error error
  | .ok bytes => decode bytes

/-- The names of entries, or why the first unreadable one has none. -/
def namesOf : List (Except FileError String) → Except FileError (List String)
  | [] => .ok []
  | .error error :: _ => .error error
  | .ok name :: rest =>
      match namesOf rest with
      | .error error => .error error
      | .ok names => .ok (name :: names)

/-- Whether a path leads to a regular file. -/
def isFile (files : Files) (path : String) : Bool :=
  match files.kind path with
  | .ok .file => true
  | _ => false

end Files

namespace Path

/-- Whether a path does not depend on the working directory. -/
def isAbsolute (path : String) : Bool :=
  path.toList.head? == some '/'

/-- A path continued by a further one. -/
def join (directory path : String) : String :=
  if isAbsolute path || directory.isEmpty then
    path
  else if directory.toList.getLast? == some '/' then
    directory ++ path
  else
    directory ++ "/" ++ path

/-- The characters of a reversed path without the separators and `.` parts at its end. -/
def trimEnd : List Char → List Char
  | '/' :: rest => if rest.isEmpty then ['/'] else trimEnd rest
  | '.' :: '/' :: rest => if rest.isEmpty then ['/'] else trimEnd rest
  | rest => rest

/-- The path of the directory that the last part of a path lies in. -/
def parent (path : String) : String :=
  let directory := (trimEnd path.toList.reverse).dropWhile (· != '/')
  String.ofList (trimEnd directory).reverse

/-- Whether the name of a file has the extension `json` behind something else. -/
def isJson (name : String) : Bool :=
  ".json".toList.isSuffixOf name.toList && 5 < name.length

end Path

end RecordSchema
