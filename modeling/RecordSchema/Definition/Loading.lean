import RecordSchema.Definition.Reader
import RecordSchema.Files.Basic
import RecordSchema.Log.Event

namespace RecordSchema

/-!
# Loading definitions

A file holds one set of definitions.  A directory contributes one set for each of
its regular files with the extension `json`, in the order of their names.  The first
file that cannot be read or understood ends the loading; what was loaded before stays.
-/

/-- What was loaded and logged, and how many sets were added or why loading ended. -/
structure Loading where
  sets : List DefinitionSet
  events : List Event
  result : Except DefinitionError Nat

namespace Loading

/-- The set of definitions in a file. -/
def readFile (files : Files) (path : String) : Except DefinitionError DefinitionSet :=
  match files.text path with
  | .error error => .error (.malformed path ("Failed to read file: " ++ error.message))
  | .ok text =>
      match DefinitionSet.read? text with
      | none =>
          .error (.malformed path "Invalid definitions: the text does not write definitions")
      | some set => .ok set

/-- The sets of definitions in files, added to those already loaded. -/
def loadFiles (files : Files) (sets : List DefinitionSet) (events : List Event) (added : Nat) :
    List String → Loading
  | [] => ⟨sets, events, .ok added⟩
  | path :: rest =>
      match readFile files path with
      | .error error => ⟨sets, events, .error error⟩
      | .ok set =>
          loadFiles files (sets ++ [set]) (events ++ [.definitionsLoaded set.size path])
            (added + 1) rest

/-- The files of a directory that hold definitions, in the order of their names. -/
def definitionFiles (files : Files) (directory : String) (names : List String) : List String :=
  let chosen := names.filter fun name =>
    Path.isJson name && files.isFile (Path.join directory name)
  (chosen.mergeSort fun left right => !(right < left)).map (Path.join directory)

/-- The definitions at a path, added to those already loaded. -/
def loadPath (files : Files) (sets : List DefinitionSet) (path : String) : Loading :=
  match files.kind path with
  | .error error =>
      ⟨sets, [], .error (.malformed path ("Failed to stat path: " ++ error.message))⟩
  | .ok .file | .ok .special => loadFiles files sets [] 0 [path]
  | .ok .directory =>
      match files.entries path with
      | .error error =>
          ⟨sets, [],
            .error (.malformed path ("Failed to read definition directory: " ++ error.message))⟩
      | .ok entries =>
          match Files.namesOf entries with
          | .error error =>
              ⟨sets, [],
                .error (.malformed path ("Failed to read directory entry: " ++ error.message))⟩
          | .ok names => loadFiles files sets [] 0 (definitionFiles files path names)

/-- The definitions at several paths; the first that cannot be loaded ends the loading. -/
def loadPaths (files : Files) (sets : List DefinitionSet) (events : List Event) (added : Nat) :
    List String → Loading
  | [] => ⟨sets, events, .ok added⟩
  | path :: rest =>
      let loading := loadPath files sets path
      match loading.result with
      | .error error => ⟨loading.sets, events ++ loading.events, .error error⟩
      | .ok count =>
          loadPaths files loading.sets (events ++ loading.events) (added + count) rest

end Loading

end RecordSchema
