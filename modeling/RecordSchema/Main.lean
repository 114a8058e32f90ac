import RecordSchema.Command.Run
import RecordSchema.Files.Snapshot
import Std.Time.DateTime.Timestamp

namespace RecordSchema

/-!
# The program

The outer layer: it looks at the files that a request names, carries the request
out, and writes the answer and the log.
-/

namespace Program

/-- The reason that an error of the file system stands for; its code may come negated. -/
def fileError : IO.Error → FileError
  | .noFileOrDirectory .. => .notFound
  | .inappropriateType _ code _ =>
      if code = 20 || code = 0 - 20 then .notADirectory else .isADirectory
  | error => .other s!"{error}"

/-- An answer, or the reason why there is none. -/
def attempt (action : IO α) : IO (Except FileError α) := do
  match ← action.toBaseIO with
  | .ok value => return .ok value
  | .error error => return .error (fileError error)

/-- What a path leads to. -/
def lookKind (path : String) : IO (Except FileError FileKind) := do
  if path.isEmpty then
    return .error .notFound
  let directory ← IO.currentDir
  attempt do
    let metadata ← (directory / path).metadata
    return match metadata.type with
      | .dir => .directory
      | .file => .file
      | _ => .special

/-- The entries of a directory; one that is listed at all is listed with every name. -/
def lookEntries (path : String) : IO (Except FileError (List (Except FileError String))) := do
  let directory ← IO.currentDir
  attempt do
    let entries ← (directory / path).readDir
    return entries.toList.map fun entry => .ok entry.fileName

/-- The bytes of a file. -/
def lookBytes (path : String) : IO (Except FileError ByteArray) :=
  attempt (IO.FS.readBinFile path)

/-- A file as far as it is needed. -/
def snapFile (path : String) : IO Snapshot := do
  let kind ← lookKind path
  let content ← lookBytes path
  return { kinds := [(path, kind)], contents := [(path, content)] }

/-- An entry of a directory; of what is no regular file only the kind is looked at. -/
def snapEntry (path : String) : IO Snapshot := do
  match ← lookKind path with
  | .ok .file => snapFile path
  | kind => return { kinds := [(path, kind)] }

/-- A file, or a directory with the files of definitions in it. -/
def snapPath (path : String) : IO Snapshot := do
  match ← lookKind path with
  | .ok .directory =>
      let entries ← lookEntries path
      let start : Snapshot := { kinds := [(path, .ok .directory)], listings := [(path, entries)] }
      let names := ((entries.bind Files.namesOf).toOption.getD []).filter Path.isJson
      names.foldlM (fun snapshot name => do
        return snapshot.append (← snapEntry (Path.join path name))) start
  | _ => snapFile path

/-- All files that a request needs. -/
def snapRequest (request : Command.Request) : IO Snapshot := do
  let start ← snapFile request.config
  match Command.Config.load start.toFiles request.config with
  | .error _ => return start
  | .ok config =>
      config.definitionPaths.foldlM (fun snapshot path => do
        return snapshot.append (← snapPath path)) start

/-- Sixteen hexadecimal digits. -/
def hexDigits (bits : UInt64) : List Char :=
  (List.range 16).map fun position => Text.hexDigit ((bits.toNat >>> (4 * (15 - position))) % 16)

/-- The text of a random identifier of version 4. -/
def identifier (high low : UInt64) : String :=
  let first := hexDigits high
  let second := hexDigits low
  let variant := Text.hexDigit (8 + (low.toNat >>> 60) % 4)
  String.ofList (first.take 8 ++ ['-'] ++ (first.drop 8).take 4 ++ ['-', '4'] ++ first.drop 13 ++
    ['-', variant] ++ (second.drop 1).take 3 ++ ['-'] ++ second.drop 4)

/-- The number that eight bytes write. -/
def wordOfBytes (bytes : List UInt8) : UInt64 :=
  bytes.foldl (fun word byte => word * 256 + byte.toUInt64) 0

/-- Values drawn from a random seed and the time at hand. -/
def draws : IO Draws := do
  let seed := (← IO.getRandomBytes 16).toList
  let now ← Std.Time.Timestamp.now
  let high := wordOfBytes (seed.take 8)
  let low := wordOfBytes (seed.drop 8)
  let place := fun steps => hash (Location.pathOf steps)
  return {
    uuid := fun steps => identifier (mixHash high (place steps)) (mixHash low (place steps))
    timestamp := fun _ => Int64.ofInt now.toMillisecondsSinceUnixEpoch.toInt
  }

/-- What the program can do, in one line. -/
def usage : String :=
  "usage: check [--config PATH] | describe --class NAME [--config PATH] | " ++
    "validate --class NAME [--update] [--config PATH]"

/-- The name and the version of the program. -/
def version : String :=
  "record-schema 0.1.0"

/-- Log entries written to their streams. -/
def writeLog (milliseconds : Nat) (log : List Command.Logged) : IO Unit := do
  for logged in log do
    match (logged.event.report milliseconds).delivery? logged.settings with
    | some (.standardOutput, text) => IO.println text
    | some (.standardError, text) => IO.eprintln text
    | none => pure ()

/-- All that a client writes to standard input. -/
def readStandardInput : IO (Except FileError String) := do
  let content ← attempt (← IO.getStdin).readBinToEnd
  return content.bind Files.decode

/-- A request carried out. -/
def carryOut (request : Command.Request) : IO UInt32 := do
  let files := (← snapRequest request).toFiles
  let sources ← draws
  let input ←
    if Command.readsInput files request then readStandardInput else pure (.ok "")
  let before ← IO.monoMsNow
  let progress ← IO.lazyPure fun _ => Command.run files sources request input
  let elapsed := (← IO.monoMsNow) - before
  writeLog elapsed progress.log
  IO.println (Command.response progress.result).render
  match progress.result with
  | .ok _ => pure ()
  | .error error => IO.eprintln error.text
  return (Command.exitCode progress.result).toUInt32

end Program

end RecordSchema

/-- The program: the arguments make a request, which is carried out. -/
def main (arguments : List String) : IO UInt32 := do
  match RecordSchema.Command.Request.ofArguments arguments with
  | .ok request => RecordSchema.Program.carryOut request
  | .error .version =>
      IO.println RecordSchema.Program.version
      return 0
  | .error problem =>
      if problem.exitCode = 0 then
        IO.println RecordSchema.Program.usage
      else
        IO.eprintln RecordSchema.Program.usage
      return problem.exitCode.toUInt32
