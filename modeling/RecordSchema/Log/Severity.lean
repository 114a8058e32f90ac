import RecordSchema.Text.Blank

namespace RecordSchema

/-!
# Severities of log entries
-/

namespace Log

/-- How much an entry matters, from the least to the most. -/
inductive Severity where
  | trace
  | info
  | warn
  | error
  | fatal
  deriving Repr, DecidableEq

namespace Severity

/-- The position of a severity, counted from the least. -/
def rank : Severity → Nat
  | .trace => 0
  | .info => 1
  | .warn => 2
  | .error => 3
  | .fatal => 4

/-- Severities are ordered by their positions. -/
def compare (left right : Severity) : Ordering :=
  Ord.compare left.rank right.rank

/-- The name of a severity in log lines. -/
def name : Severity → String
  | .trace => "TRACE"
  | .info => "INFO"
  | .warn => "WARN"
  | .error => "ERROR"
  | .fatal => "FATAL"

/-- The severity of a name in any case of ASCII, with blanks around it left out. -/
def parse? (text : String) : Option Severity :=
  match String.ofList ((Text.trimChars text.toList).map Char.toLower) with
  | "trace" => some .trace
  | "info" => some .info
  | "warn" => some .warn
  | "warning" => some .warn
  | "error" => some .error
  | "fatal" => some .fatal
  | _ => none

end Severity

end Log

end RecordSchema
