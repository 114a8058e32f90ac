import RecordSchema.Definition.Loading
import RecordSchema.Files.Snapshot
import RecordSchema.Proofs.Text.Order

namespace RecordSchema

/-!
# What loading adds

A path that is no directory stands for itself.  A directory stands for the regular files in it
that hold definitions, in the order of the bytes of their names.  Loading adds one set for each
of these files.  A file that cannot be understood ends the loading, and the sets of the files in
front of it stay.
-/

theorem Path.isJson_iff
    {name : String} :
    isJson name = true ↔ ∃ stem, stem ≠ "" ∧ name = stem ++ ".json" := by
  rw [isJson, Bool.and_eq_true, decide_eq_true_eq, List.isSuffixOf_iff_suffix]
  constructor
  · rintro ⟨⟨stem, shape⟩, long⟩
    have isAppend : name = String.ofList stem ++ ".json" := by
      rw [← String.toList_inj, String.toList_append, String.toList_ofList, shape]
    refine ⟨String.ofList stem, ?_, isAppend⟩
    intro empty
    rw [isAppend, empty] at long
    exact absurd long (by decide)
  · rintro ⟨stem, present, rfl⟩
    refine ⟨⟨stem.toList, String.toList_append.symm⟩, ?_⟩
    have positive : 0 < stem.length :=
      Nat.pos_of_ne_zero fun zero => present (String.length_eq_zero_iff.mp zero)
    have suffixLength : ".json".length = 5 := rfl
    rw [String.length_append, suffixLength]
    omega

namespace Files

theorem isFile_iff
    {files : Files}
    {path : String} :
    files.isFile path = true ↔ files.kind path = .ok .file := by
  rw [isFile]
  split <;> simp_all

/-- Entries that all can be read are their names. -/
theorem namesOf_ok
    {entries : List (Except FileError String)}
    {names : List String}
    (readable : namesOf entries = .ok names) :
    entries = names.map .ok := by
  induction entries generalizing names with
  | nil =>
      cases readable
      rfl
  | cons first rest inductionHypothesis =>
      cases first with
      | error reason =>
          cases readable
      | ok name =>
          rw [namesOf] at readable
          split at readable
          · cases readable
          · rename_i restNames restReadable
            cases readable
            rw [List.map_cons, ← inductionHypothesis restReadable]

/-- The first entry that cannot be read has only names in front of it. -/
theorem namesOf_error
    {entries : List (Except FileError String)}
    {reason : FileError}
    (unreadable : namesOf entries = .error reason) :
    ∃ (names : List String) (later : List (Except FileError String)),
      entries = names.map .ok ++ .error reason :: later := by
  induction entries with
  | nil =>
      cases unreadable
  | cons first rest inductionHypothesis =>
      cases first with
      | error firstReason =>
          cases unreadable
          exact ⟨[], rest, rfl⟩
      | ok name =>
          rw [namesOf] at unreadable
          split at unreadable
          · rename_i restUnreadable
            cases unreadable
            obtain ⟨names, later, shape⟩ := inductionHypothesis restUnreadable
            exact ⟨name :: names, later, congrArg (.ok name :: ·) shape⟩
          · cases unreadable

end Files

namespace Loading

/-- A name in a directory that ends in `.json` behind something else and leads to a regular file. -/
def IsDefinitionFile (files : Files) (directory name : String) : Prop :=
  (∃ stem, stem ≠ "" ∧ name = stem ++ ".json") ∧
    files.kind (Path.join directory name) = .ok .file

theorem isDefinitionFile_iff
    {files : Files}
    {directory name : String} :
    IsDefinitionFile files directory name ↔
      (Path.isJson name && files.isFile (Path.join directory name)) = true := by
  rw [Bool.and_eq_true, Path.isJson_iff, Files.isFile_iff]
  rfl

instance (files : Files) (directory name : String) :
    Decidable (IsDefinitionFile files directory name) :=
  decidable_of_iff _ isDefinitionFile_iff.symm

/--
The files that a path stands for: itself, unless it is a directory, and else the regular files
with definitions in this directory, in the order of the bytes of their names.
-/
inductive StandsFor (files : Files) (path : String) : List String → Prop where
  | itself
      {kind : FileKind}
      (found : files.kind path = .ok kind)
      (notDirectory : kind ≠ .directory) :
      StandsFor files path [path]
  | directory
      {names chosen : List String}
      (isDirectory : files.kind path = .ok .directory)
      (listed : files.entries path = .ok (names.map .ok))
      (complete : chosen.Perm (names.filter fun name => IsDefinitionFile files path name))
      (ordered : chosen.Pairwise fun first second =>
        Text.utf8Bytes first ≤ Text.utf8Bytes second) :
      StandsFor files path (chosen.map (Path.join path))

/-- What is no directory stands for itself alone. -/
theorem StandsFor.eq_singleton
    {files : Files}
    {path : String}
    {paths : List String}
    (standsFor : StandsFor files path paths)
    (notDirectory : files.kind path ≠ .ok .directory) :
    paths = [path] := by
  cases standsFor with
  | itself => rfl
  | directory isDirectory => exact absurd isDirectory notDirectory

/--
A path whose files are not known, with the error that says so: it leads nowhere, or to a directory
that cannot be listed, or to one with an entry that cannot be read.
-/
inductive IsUnreachable (files : Files) (path : String) : DefinitionError → Prop where
  | nowhere
      {reason : FileError}
      (unknown : files.kind path = .error reason) :
      IsUnreachable files path (.malformed path ("Failed to stat path: " ++ reason.message))
  | unlisted
      {reason : FileError}
      (isDirectory : files.kind path = .ok .directory)
      (unknown : files.entries path = .error reason) :
      IsUnreachable files path
        (.malformed path ("Failed to read definition directory: " ++ reason.message))
  | unnamed
      {names : List String}
      {reason : FileError}
      {later : List (Except FileError String)}
      (isDirectory : files.kind path = .ok .directory)
      (listed : files.entries path = .ok (names.map .ok ++ .error reason :: later)) :
      IsUnreachable files path
        (.malformed path ("Failed to read directory entry: " ++ reason.message))

/-- What an unreachable path stands for is not known. -/
theorem IsUnreachable.not_standsFor
    {files : Files}
    {path : String}
    {error : DefinitionError}
    {paths : List String}
    (unreachable : IsUnreachable files path error) :
    ¬StandsFor files path paths := by
  intro standsFor
  cases standsFor with
  | itself found notDirectory =>
      have isDirectory : files.kind path = .ok .directory := by
        cases unreachable with
        | nowhere unknown => cases unknown.symm.trans found
        | unlisted isDirectory => exact isDirectory
        | unnamed isDirectory => exact isDirectory
      exact notDirectory (Except.ok.inj (found.symm.trans isDirectory))
  | directory isDirectory listed =>
      cases unreachable with
      | nowhere unknown => cases unknown.symm.trans isDirectory
      | unlisted _ unknown => cases unknown.symm.trans listed
      | unnamed _ partlyListed =>
          have isName :=
            (Except.ok.inj (partlyListed.symm.trans listed)) ▸
              List.mem_append_right _ List.mem_cons_self
          obtain ⟨name, _, isError⟩ := List.mem_map.mp isName
          cases isError

theorem standsFor_definitionFiles
    {files : Files}
    {path : String}
    {names : List String}
    (isDirectory : files.kind path = .ok .directory)
    (listed : files.entries path = .ok (names.map .ok)) :
    StandsFor files path (definitionFiles files path names) := by
  refine .directory isDirectory listed ?_ ?_
  · refine (List.mergeSort_perm _ _).trans (List.Perm.of_eq ?_)
    refine List.filter_congr fun name _ => ?_
    rw [Bool.eq_iff_iff, decide_eq_true_eq, isDefinitionFile_iff]
  · exact (Text.pairwise_mergeSort id _).imp Text.utf8Bytes_le_of_le

/-- Files that are all understood give a set each, in their order. -/
theorem sets_of_loadFiles_ok
    {files : Files}
    {sets : List DefinitionSet}
    {events : List Event}
    {added total : Nat}
    {paths : List String}
    (accepted : (loadFiles files sets events added paths).result = .ok total) :
    ∃ loaded,
      paths.map (readFile files) = loaded.map .ok ∧
        (loadFiles files sets events added paths).sets = sets ++ loaded ∧
          added + loaded.length = total := by
  induction paths generalizing sets events added with
  | nil =>
      cases accepted
      exact ⟨[], rfl, (List.append_nil sets).symm, rfl⟩
  | cons first rest inductionHypothesis =>
      rw [loadFiles] at accepted ⊢
      cases read : readFile files first with
      | error error =>
          rw [read] at accepted
          cases accepted
      | ok set =>
          rw [read] at accepted
          obtain ⟨loaded, areRead, areAdded, count⟩ := inductionHypothesis accepted
          refine ⟨set :: loaded, ?_, ?_, ?_⟩
          · rw [List.map_cons, List.map_cons, read, areRead]
          · exact areAdded.trans (List.append_assoc sets [set] loaded)
          · rw [List.length_cons]
            omega

/-- The first file that is not understood ends the loading behind the sets of those before. -/
theorem sets_of_loadFiles_error
    {files : Files}
    {sets : List DefinitionSet}
    {events : List Event}
    {added : Nat}
    {paths : List String}
    {error : DefinitionError}
    (refused : (loadFiles files sets events added paths).result = .error error) :
    ∃ earlier failing later loaded,
      paths = earlier ++ failing :: later ∧
        earlier.map (readFile files) = loaded.map .ok ∧
          readFile files failing = .error error ∧
            (loadFiles files sets events added paths).sets = sets ++ loaded := by
  induction paths generalizing sets events added with
  | nil =>
      cases refused
  | cons first rest inductionHypothesis =>
      rw [loadFiles] at refused ⊢
      cases read : readFile files first with
      | error firstError =>
          rw [read] at refused
          cases refused
          exact ⟨[], first, rest, [], rfl, rfl, read, (List.append_nil sets).symm⟩
      | ok set =>
          rw [read] at refused
          obtain ⟨earlier, failing, later, loaded, rfl, areRead, fails, areAdded⟩ :=
            inductionHypothesis refused
          refine ⟨first :: earlier, failing, later, set :: loaded, rfl, ?_, fails, ?_⟩
          · rw [List.map_cons, List.map_cons, read, areRead]
          · exact areAdded.trans (List.append_assoc sets [set] loaded)

/-- A path ends the loading before any file, or its files are loaded. -/
theorem loadPath_cases
    (files : Files)
    (sets : List DefinitionSet)
    (path : String) :
    (∃ error,
      IsUnreachable files path error ∧ loadPath files sets path = ⟨sets, [], .error error⟩) ∨
      ∃ paths,
        StandsFor files path paths ∧
          loadPath files sets path = loadFiles files sets [] 0 paths := by
  rw [loadPath]
  split
  · rename_i unknown
    exact .inl ⟨_, .nowhere unknown, rfl⟩
  · rename_i isFile
    exact .inr ⟨[path], .itself isFile (by decide), rfl⟩
  · rename_i isSpecial
    exact .inr ⟨[path], .itself isSpecial (by decide), rfl⟩
  · rename_i isDirectory
    split
    · rename_i unknown
      exact .inl ⟨_, .unlisted isDirectory unknown, rfl⟩
    · rename_i entries listed
      split
      · rename_i unreadable
        obtain ⟨names, later, rfl⟩ := Files.namesOf_error unreadable
        exact .inl ⟨_, .unnamed isDirectory listed, rfl⟩
      · rename_i names readable
        obtain rfl := Files.namesOf_ok readable
        exact .inr ⟨_, standsFor_definitionFiles isDirectory listed, rfl⟩

/-- A path that is loaded adds one set for each file that it stands for. -/
theorem sets_of_loadPath_ok
    {files : Files}
    {sets : List DefinitionSet}
    {path : String}
    {added : Nat}
    (accepted : (loadPath files sets path).result = .ok added) :
    ∃ paths loaded,
      StandsFor files path paths ∧
        paths.map (readFile files) = loaded.map .ok ∧
          (loadPath files sets path).sets = sets ++ loaded ∧ loaded.length = added := by
  rcases loadPath_cases files sets path with ⟨error, _, ended⟩ | ⟨paths, standsFor, areLoaded⟩
  · rw [ended] at accepted
    cases accepted
  · rw [areLoaded] at accepted ⊢
    obtain ⟨loaded, areRead, areAdded, count⟩ := sets_of_loadFiles_ok accepted
    exact ⟨paths, loaded, standsFor, areRead, areAdded, by omega⟩

/-- A path that is not loaded is unreachable, or one of its files is not understood. -/
theorem sets_of_loadPath_error
    {files : Files}
    {sets : List DefinitionSet}
    {path : String}
    {error : DefinitionError}
    (refused : (loadPath files sets path).result = .error error) :
    (IsUnreachable files path error ∧ (loadPath files sets path).sets = sets) ∨
      ∃ earlier failing later loaded,
        StandsFor files path (earlier ++ failing :: later) ∧
          earlier.map (readFile files) = loaded.map .ok ∧
            readFile files failing = .error error ∧
              (loadPath files sets path).sets = sets ++ loaded := by
  rcases loadPath_cases files sets path with
    ⟨reason, unreachable, ended⟩ | ⟨paths, standsFor, areLoaded⟩
  · rw [ended] at refused ⊢
    cases refused
    exact .inl ⟨unreachable, rfl⟩
  · rw [areLoaded] at refused ⊢
    obtain ⟨earlier, failing, later, loaded, rfl, areRead, fails, areAdded⟩ :=
      sets_of_loadFiles_error refused
    exact .inr ⟨earlier, failing, later, loaded, standsFor, areRead, fails, areAdded⟩

/--
A path that is loaded adds one set for each file that it stands for, behind the sets that were
there.  If it is not loaded, the sets of the files in front of the first one that is not
understood stay behind those that were there.  Nothing stays of a path that is unreachable or no
directory.
-/
theorem loads_until_failure
    (files : Files)
    (sets : List DefinitionSet)
    (path : String) :
    (∀ error,
      (loadPath files sets path).result = .error error →
        ((IsUnreachable files path error ∧ (loadPath files sets path).sets = sets) ∨
          ∃ earlier failing later loaded,
            StandsFor files path (earlier ++ failing :: later) ∧
              earlier.map (readFile files) = loaded.map .ok ∧
                readFile files failing = .error error ∧
                  (loadPath files sets path).sets = sets ++ loaded) ∧
          (files.kind path ≠ .ok .directory ∨ (∃ reason, IsUnreachable files path reason) →
            (loadPath files sets path).sets = sets)) ∧
      ∀ added,
        (loadPath files sets path).result = .ok added →
          ∃ paths loaded,
            StandsFor files path paths ∧
              paths.map (readFile files) = loaded.map .ok ∧
                (loadPath files sets path).sets = sets ++ loaded ∧ loaded.length = added := by
  refine ⟨fun error refused => ?_, fun added accepted => sets_of_loadPath_ok accepted⟩
  have outcome := sets_of_loadPath_error refused
  refine ⟨outcome, fun nothingStays => ?_⟩
  rcases outcome with
    ⟨_, unchanged⟩ | ⟨earlier, failing, later, loaded, standsFor, areRead, _, areAdded⟩
  · exact unchanged
  · have alone : earlier ++ failing :: later = [path] := by
      rcases nothingStays with notDirectory | ⟨reason, unreachable⟩
      · exact standsFor.eq_singleton notDirectory
      · exact absurd standsFor unreachable.not_standsFor
    obtain rfl : earlier = [] :=
      (List.append_eq_singleton_iff.mp alone).elim And.left fun shape => by cases shape.2
    obtain rfl : loaded = [] :=
      List.map_eq_nil_iff.mp areRead.symm
    rw [areAdded, List.append_nil]

/-- A directory whose second file breaks off. -/
def halfWritten : Snapshot where
  kinds := [("d", .ok .directory), ("d/a.json", .ok .file), ("d/b.json", .ok .file)]
  contents := [("d/a.json", .ok "\x7b\x7d".toUTF8), ("d/b.json", .ok "\x7b".toUTF8)]
  listings := [("d", .ok [.ok "a.json", .ok "b.json"])]

theorem definitionFiles_halfWritten :
    definitionFiles halfWritten.toFiles "d" ["a.json", "b.json"] = ["d/a.json", "d/b.json"] := by
  have chosen :
      (["a.json", "b.json"].filter fun name =>
        Path.isJson name && halfWritten.toFiles.isFile (Path.join "d" name)) =
          ["a.json", "b.json"] := by
    rfl
  have sorted :
      ["a.json", "b.json"].mergeSort (fun left right => !(right < left)) = ["a.json", "b.json"] :=
    List.mergeSort_of_pairwise (by decide)
  rw [definitionFiles, chosen, sorted]
  rfl

theorem loadPath_halfWritten :
    loadPath halfWritten.toFiles [] "d" =
      ⟨[.empty], [.definitionsLoaded 0 "d/a.json"],
        .error (.malformed "d/b.json"
          "Invalid definitions: the text does not write definitions")⟩ := by
  have isDirectory : halfWritten.toFiles.kind "d" = .ok .directory := rfl
  have listed : halfWritten.toFiles.entries "d" = .ok [.ok "a.json", .ok "b.json"] := rfl
  rw [loadPath, isDirectory, listed]
  change loadFiles halfWritten.toFiles [] [] 0 (definitionFiles halfWritten.toFiles "d" _) = _
  rw [definitionFiles_halfWritten]
  rfl

/-- The set of the first file stays although the path is not loaded. -/
theorem not_forall_sets_unchanged :
    ¬∀ files sets path error,
      (loadPath files sets path).result = .error error →
        (loadPath files sets path).sets = sets := by
  intro unchanged
  have noSets :=
    unchanged halfWritten.toFiles [] "d" _ (congrArg Loading.result loadPath_halfWritten)
  rw [loadPath_halfWritten] at noSets
  cases noSets

/-- A directory with a file and a pipe whose names both end in `.json`. -/
def besidePipe : Snapshot where
  kinds := [("d", .ok .directory), ("d/a.json", .ok .file), ("d/b.json", .ok .special)]
  contents := [("d/a.json", .ok "\x7b\x7d".toUTF8), ("d/b.json", .ok "\x7b\x7d".toUTF8)]
  listings := [("d", .ok [.ok "a.json", .ok "b.json"])]

theorem loadPath_besidePipe :
    loadPath besidePipe.toFiles [] "d" =
      ⟨[.empty], [.definitionsLoaded 0 "d/a.json"], .ok 1⟩ := by
  have isDirectory : besidePipe.toFiles.kind "d" = .ok .directory := rfl
  have listed : besidePipe.toFiles.entries "d" = .ok [.ok "a.json", .ok "b.json"] := rfl
  have chosen :
      (["a.json", "b.json"].filter fun name =>
        Path.isJson name && besidePipe.toFiles.isFile (Path.join "d" name)) = ["a.json"] := by
    rfl
  rw [loadPath, isDirectory, listed]
  change loadFiles besidePipe.toFiles [] [] 0 (definitionFiles besidePipe.toFiles "d" _) = _
  rw [definitionFiles, chosen, List.mergeSort_singleton]
  rfl

/--
A directory whose second file breaks off, and this file on its own; a directory with a pipe, in
which only the file is loaded, and the pipe on its own.
-/
theorem loads_until_failure_halfWritten :
    (∃ earlier failing later loaded,
      StandsFor halfWritten.toFiles "d" (earlier ++ failing :: later) ∧
        earlier.map (readFile halfWritten.toFiles) = loaded.map .ok ∧
          (loadPath halfWritten.toFiles [] "d").sets = [] ++ loaded) ∧
      (loadPath halfWritten.toFiles [.empty] "d/b.json").sets = [.empty] ∧
        (∃ paths loaded,
          StandsFor besidePipe.toFiles "d" paths ∧
            paths.map (readFile besidePipe.toFiles) = loaded.map .ok ∧
              (loadPath besidePipe.toFiles [] "d").sets = [] ++ loaded ∧
                loaded.length = 1) ∧
          ∃ paths loaded,
            StandsFor besidePipe.toFiles "d/b.json" paths ∧
              paths.map (readFile besidePipe.toFiles) = loaded.map .ok ∧
                (loadPath besidePipe.toFiles [] "d/b.json").sets = [] ++ loaded ∧
                  loaded.length = 1 := by
  refine ⟨?_, ?_, ?_, (loads_until_failure besidePipe.toFiles [] "d/b.json").2 1 rfl⟩
  · have refused := congrArg Loading.result loadPath_halfWritten
    rcases ((loads_until_failure halfWritten.toFiles [] "d").1 _ refused).1 with
      ⟨unreachable, _⟩ | ⟨earlier, failing, later, loaded, standsFor, areRead, _, areAdded⟩
    · have standsFor : StandsFor halfWritten.toFiles "d" _ :=
        @standsFor_definitionFiles _ _ ["a.json", "b.json"] rfl rfl
      exact absurd standsFor unreachable.not_standsFor
    · exact ⟨earlier, failing, later, loaded, standsFor, areRead, areAdded⟩
  · exact ((loads_until_failure halfWritten.toFiles [.empty] "d/b.json").1 _ rfl).2
      (.inl (by nofun))
  · have accepted := congrArg Loading.result loadPath_besidePipe
    exact (loads_until_failure besidePipe.toFiles [] "d").2 1 accepted

end Loading

end RecordSchema
