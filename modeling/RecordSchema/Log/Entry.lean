import RecordSchema.Log.Severity
import RecordSchema.Text.Hex

namespace RecordSchema

/-!
# Log entries and their lines

An entry is written as one JSON object on one line: the event, the severity, then
the fields in the order of their keys.  Every control character is escaped, so no
field can break the line.
-/

namespace Log

/-- What is logged about one event. -/
structure Entry where
  severity : Severity
  event : String
  fields : List (String × String) := []
  deriving Repr, DecidableEq

/-- The control characters below the space and those from `0x7f` to `0x9f`. -/
def isControl (character : Char) : Bool :=
  character.toNat < 0x20 || (0x7f ≤ character.toNat && character.toNat ≤ 0x9f)

/-- A character as it stands inside a string of a log line. -/
def escapeCharacter (character : Char) : List Char :=
  if character = '"' then ['\\', '"']
  else if character = '\\' then ['\\', '\\']
  else if character = '\n' then ['\\', 'n']
  else if character = '\r' then ['\\', 'r']
  else if character = '\t' then ['\\', 't']
  else if isControl character then Text.unicodeEscape character
  else [character]

/-- A string between quotes. -/
def quote (text : String) : List Char :=
  '"' :: (text.toList.flatMap escapeCharacter ++ ['"'])

/-- A key with its value. -/
def member (field : String × String) : List Char :=
  quote field.1 ++ ':' :: quote field.2

namespace Entry

/-- The fields in the order of their keys; those of one key keep their order. -/
def sortedFields (entry : Entry) : List (String × String) :=
  entry.fields.mergeSort fun left right => !(right.1 < left.1)

/-- The members of an entry in the order in which they are written. -/
def members (entry : Entry) : List (String × String) :=
  ("event", entry.event) :: ("severity", entry.severity.name) :: entry.sortedFields

/-- The characters of an entry's object. -/
def chars (entry : Entry) : List Char :=
  '\x7b' :: (List.intercalate [','] (entry.members.map member) ++ ['\x7d'])

/-- The line of an entry, without its end. -/
def text (entry : Entry) : String :=
  String.ofList entry.chars

/-- The line of an entry. -/
def line (entry : Entry) : String :=
  String.ofList (entry.chars ++ ['\n'])

end Entry

/-- The stream that an entry is written to. -/
inductive Channel where
  | standardOutput
  | standardError
  deriving Repr, DecidableEq

/-- Which entries are written, and whether all go to standard error. -/
structure Settings where
  minimum : Severity := .info
  standardErrorOnly : Bool := false
  deriving Repr, DecidableEq

namespace Settings

/-- Entries below the minimum are dropped. -/
def accepts (settings : Settings) (severity : Severity) : Bool :=
  settings.minimum.rank ≤ severity.rank

/-- The stream of entries that do not insist on standard error. -/
def channel (settings : Settings) : Channel :=
  if settings.standardErrorOnly then .standardError else .standardOutput

end Settings

/-- An entry with the stream it insists on, if any. -/
structure Report where
  entry : Entry
  channel : Option Channel := none
  deriving Repr, DecidableEq

namespace Report

/-- A report at the severity `info`. -/
def info (event : String) (fields : List (String × String)) : Report :=
  ⟨⟨.info, event, fields⟩, none⟩

/-- A report at the severity `warn`. -/
def warn (event : String) (fields : List (String × String)) : Report :=
  ⟨⟨.warn, event, fields⟩, none⟩

/-- A report at the severity `fatal`, always on standard error. -/
def fatal (event : String) (fields : List (String × String)) : Report :=
  ⟨⟨.fatal, event, fields⟩, some .standardError⟩

/-- The stream and text of a report that is not dropped. -/
def delivery? (settings : Settings) (report : Report) : Option (Channel × String) :=
  if settings.accepts report.entry.severity then
    some (report.channel.getD settings.channel, report.entry.text)
  else
    none

/-- The reports that are not dropped, as texts on one stream. -/
def textsOn (settings : Settings) (channel : Channel) (reports : List Report) : List String :=
  (reports.filterMap (delivery? settings)).filterMap fun delivery =>
    if delivery.1 = channel then some delivery.2 else none

end Report

/-- A piece of work whose beginning and end are logged under one name. -/
structure Span where
  name : String
  deriving Repr, DecidableEq

namespace Span

/-- The report when the work begins. -/
def begun (span : Span) : Report :=
  .info (span.name ++ "_BEGIN") []

/-- The report when the work is complete, with its duration in milliseconds. -/
def completed (span : Span) (milliseconds : Nat) (fields : List (String × String)) : Report :=
  .info (span.name ++ "_COMPLETE") (fields ++ [("duration_ms", s!"{milliseconds}")])

/-- The report when the work has failed. -/
def failed (span : Span) (reason : String) : Report :=
  .fatal (span.name ++ "_FAILED") [("reason", reason)]

/-- The report when the work was given up without an end. -/
def abandoned (span : Span) : Report :=
  .warn (span.name ++ "_INCOMPLETE") [("reason", "scope dropped without completion")]

end Span

end Log

end RecordSchema
