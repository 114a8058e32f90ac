import RecordSchema.Files.Basic

namespace RecordSchema

/-!
# File trees

A file system that holds nothing but the files and directories below its working
directory.  A path leads from there, part by part.  What lies above is a directory
without any names.
-/

/-- Files by the parts of their paths, and directories that may be empty. -/
structure FileTree where
  files : List (List String × ByteArray) := []
  directories : List (List String) := []

namespace FileTree

/-- The greatest number of bytes in one part of a path. -/
def greatestPart : Nat :=
  255

/-- The greatest number of bytes in a path. -/
def greatestPath : Nat :=
  4095

/-- The bytes of the file at a place. -/
def fileAt? (tree : FileTree) (place : List String) : Option ByteArray :=
  tree.files.lookup place

/-- The paths of everything in the tree. -/
def paths (tree : FileTree) : List (List String) :=
  tree.files.map Prod.fst ++ tree.directories

/-- Whether a directory is at a place. -/
def isDirectoryAt (tree : FileTree) (place : List String) : Bool :=
  place.isEmpty || tree.directories.contains place ||
    tree.paths.any fun path => place.isPrefixOf path && place.length < path.length

/-- Where a path leads to: a place below the working directory, or above it. -/
inductive Place where
  | inside (parts : List String)
  | above
  deriving Repr, DecidableEq

/-- One part of a path followed from a place. -/
def follow (tree : FileTree) (place : Place) (part : String) : Except FileError Place :=
  match place with
  | .above => if part = "." || part = ".." || part = "" then .ok .above else .error .notFound
  | .inside parts =>
      if (tree.fileAt? parts).isSome then
        .error .notADirectory
      else if part = "." || part = "" then
        .ok place
      else if part = ".." then
        .ok (if parts.isEmpty then .above else .inside parts.dropLast)
      else if greatestPart < part.utf8ByteSize then
        .error .nameTooLong
      else if (tree.fileAt? (parts ++ [part])).isSome || tree.isDirectoryAt (parts ++ [part]) then
        .ok (.inside (parts ++ [part]))
      else
        .error .notFound

/-- The place that a path leads to. -/
def resolve (tree : FileTree) (path : String) : Except FileError Place :=
  if path.toList.contains '\x00' then
    .error .nulInName
  else if path.isEmpty then
    .error .notFound
  else if greatestPath < path.utf8ByteSize then
    .error .nameTooLong
  else
    (path.splitOn "/").foldlM tree.follow (if Path.isAbsolute path then .above else .inside [])

/-- What a path leads to. -/
def kind (tree : FileTree) (path : String) : Except FileError FileKind :=
  (tree.resolve path).map fun place =>
    match place with
    | .above => .directory
    | .inside parts => if (tree.fileAt? parts).isSome then .file else .directory

/-- The bytes of the file that a path leads to. -/
def bytes (tree : FileTree) (path : String) : Except FileError ByteArray :=
  match tree.resolve path with
  | .error error => .error error
  | .ok .above => .error .isADirectory
  | .ok (.inside parts) =>
      match tree.fileAt? parts with
      | some content => .ok content
      | none => .error .isADirectory

/-- The names in the directory that a path leads to. -/
def names (tree : FileTree) (path : String) : Except FileError (List String) :=
  match tree.resolve path with
  | .error error => .error error
  | .ok .above => .ok []
  | .ok (.inside parts) =>
      if (tree.fileAt? parts).isSome then
        .error .notADirectory
      else
        .ok ((tree.paths.filterMap fun candidate =>
          if parts.isPrefixOf candidate then candidate[parts.length]? else none).eraseDups)

/-- The answers of a file system with this tree, in which every name can be read. -/
def toFiles (tree : FileTree) : Files where
  kind := tree.kind
  bytes := tree.bytes
  entries := fun path => (tree.names path).map fun names => names.map .ok

end FileTree

end RecordSchema
