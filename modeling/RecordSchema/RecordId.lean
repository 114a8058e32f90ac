import RecordSchema.Json.Printer
import RecordSchema.Text.Blank
import RecordSchema.Text.Integer

namespace RecordSchema

/-!
# Record ids

A stored record is located by the cluster it lies in and its position there,
written `#cluster:position`.  Either part may be negative, and a cluster lies
between -32767 and 32767.
-/

/-- A value that cannot be brought into the expected form, and why. -/
structure CastError where
  expected : String
  reason : String
  deriving Repr, DecidableEq

namespace CastError

/-- The wording of the error. -/
def message (error : CastError) : String :=
  "cannot cast to " ++ error.expected ++ ": " ++ error.reason

end CastError

/-- The place of a stored record. -/
structure RecordId where
  cluster : Int16
  position : Int64
  deriving Repr, DecidableEq

namespace RecordId

/-- The greatest size of a cluster number. -/
def greatestCluster : Nat :=
  32767

/-- Every error here is about record ids. -/
def error (reason : String) : CastError :=
  ⟨"record id", reason⟩

/-- The id of a cluster and a position, if the cluster is within bounds. -/
def ofParts (cluster position : Int64) : Except CastError RecordId :=
  if cluster.toInt.natAbs ≤ greatestCluster then
    .ok ⟨Int16.ofInt cluster.toInt, position⟩
  else
    .error (error ("cluster id " ++ (Number.integer cluster.toInt).toText ++ " exceeds " ++
      (Number.integer greatestCluster).toText))

/-- The characters of an integer: a minus sign if needed, then decimal digits. -/
def integerChars (value : Int) : List Char :=
  (Number.integer value).toChars

/-- The text of an id. -/
def toChars (id : RecordId) : List Char :=
  '#' :: (integerChars id.cluster.toInt ++ ':' :: integerChars id.position.toInt)

/-- The text of an id. -/
def toText (id : RecordId) : String :=
  String.ofList id.toChars

/-- Ids are ordered by cluster, then by position. -/
def lt (left right : RecordId) : Bool :=
  left.cluster < right.cluster ||
    (left.cluster == right.cluster && left.position < right.position)

/-- The parts before and after the first colon. -/
def splitColon? : List Char → Option (List Char × List Char)
  | [] => none
  | ':' :: rest => some ([], rest)
  | character :: rest => (splitColon? rest).map fun (before, after) => (character :: before, after)

/-- The parts of an id without its hash: a run of one to five digits, a colon, a run of digits. -/
def bodyParts? (body : List Char) : Option (List Char × List Char) :=
  match splitColon? body with
  | none => none
  | some (cluster, position) =>
      if Text.isIntegerShape cluster && (Text.dropMinus cluster).length ≤ 5 &&
          Text.isIntegerShape position then
        some (cluster, position)
      else
        none

/-- The parts of an id, with its hash where one is required. -/
def parts? (requireHash : Bool) : List Char → Option (List Char × List Char)
  | '#' :: body => bodyParts? body
  | body => if requireHash then none else bodyParts? body

/-- The id that a text writes, with its hash where one is required. -/
def parse (requireHash : Bool) (text : String) : Except CastError RecordId :=
  let trimmed := Text.trimChars text.toList
  let quoted := "'" ++ String.ofList trimmed ++ "'"
  match parts? requireHash trimmed with
  | none => .error (error (quoted ++ " is not a valid record id"))
  | some (clusterText, positionText) =>
      match Text.parseInt64? clusterText, Text.parseInt64? positionText with
      | none, _ => .error (error ("bad cluster in " ++ quoted))
      | some _, none => .error (error ("bad position in " ++ quoted))
      | some cluster, some position => ofParts cluster position

/-- The key under which an embedded record carries its id. -/
def idKey : String :=
  "@rid"

mutual

/--
The id that a value denotes: a text, an object with an id under `@rid`, or an
object with a cluster and a position.
-/
def ofJson (requireHash : Bool) : Json → Except CastError RecordId
  | .string text => parse requireHash text
  | .object members =>
      match ofEmbedded? requireHash members with
      | some result => result
      | none =>
          match (Json.memberOf? "cluster" members).bind Json.toInt64?,
              (Json.memberOf? "position" members).bind Json.toInt64? with
          | some cluster, some position => ofParts cluster position
          | _, _ => .error (error "object carries neither '@rid' nor cluster/position")
  | other => .error (error ("unsupported value " ++ other.render))

/-- The id under `@rid` among the members of an object. -/
def ofEmbedded? (requireHash : Bool) :
    List (String × Json) → Option (Except CastError RecordId)
  | [] => none
  | (key, value) :: members =>
      if key = idKey then some (ofJson requireHash value) else ofEmbedded? requireHash members

end

/-- The id that a string value writes; other values write none. -/
def ofText : Json → Except CastError RecordId
  | .string text => parse false text
  | other => .error (error ("unsupported value " ++ other.render))

end RecordId

end RecordSchema
