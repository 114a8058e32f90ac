import RecordSchema.Json.Token
import RecordSchema.SortedMap

namespace RecordSchema

/-!
# JSON text taken apart

A document has the parts of a text in the order in which they are written, with
keys that may be repeated.  A number or string may lack a value, and an array or
object that lies too deep has none either.  Such a part spoils only those readers
that ask for it: a reader that skips a field accepts whatever is well formed there.

Tokens are assembled into one document.  What is open around the current place is
kept as a stack of frames.
-/

namespace Json

/-- The parts of a JSON text as written; a scalar or a key may lack a value. -/
inductive Document where
  | scalar (value : Option Json)
  | array (items : List Document)
  | object (members : List (Option String × Document))
  deriving Inhabited

/-- An array or object whose next part is being read; earlier parts are in reverse order. -/
inductive Frame where
  | array (items : List Document)
  | object (members : List (Option String × Document)) (key : Option String)

/-- What the reader has seen and what may follow. -/
inductive Assembly where
  | value (frames : List Frame)
  | firstItem (frames : List Frame)
  | key (frames : List Frame) (members : List (Option String × Document))
  | colon (frames : List Frame) (members : List (Option String × Document)) (key : Option String)
  | complete (frames : List Frame) (whole : Document)

/-- How many arrays and objects may enclose each other. -/
def greatestNesting : Nat :=
  127

/-- A completed array or object, without a value if too many frames enclose it. -/
def close (frames : List Frame) (whole : Document) : Assembly :=
  .complete frames (if frames.length < greatestNesting then whole else .scalar none)

/-- A value begins with a literal, a string or an opening mark. -/
def beginValue? (frames : List Frame) : Token → Option Assembly
  | .null => some (.complete frames (.scalar (some .null)))
  | .bool value => some (.complete frames (.scalar (some (.bool value))))
  | .number value => some (.complete frames (.scalar (value.map .number)))
  | .string value => some (.complete frames (.scalar (value.map .string)))
  | .openArray => some (.firstItem frames)
  | .openObject => some (.key frames [])
  | _ => none

/-- What may follow a completed value depends on the innermost open frame. -/
def continueAfter? (frames : List Frame) (whole : Document) : Token → Option Assembly
  | .comma =>
      match frames with
      | .array items :: outer => some (.value (.array (whole :: items) :: outer))
      | .object members key :: outer => some (.key outer ((key, whole) :: members))
      | [] => none
  | .closeArray =>
      match frames with
      | .array items :: outer => some (close outer (.array (whole :: items).reverse))
      | _ => none
  | .closeObject =>
      match frames with
      | .object members key :: outer =>
          some (close outer (.object ((key, whole) :: members).reverse))
      | _ => none
  | _ => none

/-- One token taken in. -/
def Assembly.step? : Assembly → Token → Option Assembly
  | .value frames, token => beginValue? frames token
  | .firstItem frames, .closeArray => some (close frames (.array []))
  | .firstItem frames, token => beginValue? (.array [] :: frames) token
  | .key frames members, .string name => some (.colon frames members name)
  | .key frames [], .closeObject => some (close frames (.object []))
  | .key _ _, _ => none
  | .colon frames members name, .colon => some (.value (.object members name :: frames))
  | .colon _ _ _, _ => none
  | .complete frames whole, token => continueAfter? frames whole token

/-- The document of a list of tokens read on from a given place. -/
def Assembly.document? (assembly : Assembly) : List Token → Option Document
  | [] =>
      match assembly with
      | .complete [] whole => some whole
      | _ => none
  | token :: rest =>
      match assembly.step? token with
      | none => none
      | some next => next.document? rest

namespace Document

/-- The parts of a text, nothing if it is not well formed. -/
def ofChars? (text : List Char) : Option Document :=
  (Scan.between.tokens? text).bind (Assembly.value []).document?

/-- The parts of a text, nothing if it is not well formed. -/
def read? (text : String) : Option Document :=
  ofChars? text.toList

mutual

/--
The value of a document, nothing if some part has none.  The members of objects
are sorted, the last of a repeated key counting.
-/
def toJson? : Document → Option Json
  | .scalar value => value
  | .array items => (toItems? items).map .array
  | .object members =>
      (toMembers? members).map fun values => .object (SortedMap.ofList values).entries

/-- The values of items. -/
def toItems? : List Document → Option (List Json)
  | [] => some []
  | item :: items =>
      match toJson? item, toItems? items with
      | some value, some values => some (value :: values)
      | _, _ => none

/-- The keys and values of members. -/
def toMembers? : List (Option String × Document) → Option (List (String × Json))
  | [] => some []
  | (key, member) :: members =>
      match key, toJson? member, toMembers? members with
      | some name, some value, some values => some ((name, value) :: values)
      | _, _, _ => none

end

mutual

/-- A value taken apart. -/
def ofJson : Json → Document
  | .array items => .array (ofItems items)
  | .object members => .object (ofMembers members)
  | value => .scalar (some value)

/-- Items taken apart. -/
def ofItems : List Json → List Document
  | [] => []
  | item :: items => ofJson item :: ofItems items

/-- Members taken apart. -/
def ofMembers : List (String × Json) → List (Option String × Document)
  | [] => []
  | (key, value) :: members => (some key, ofJson value) :: ofMembers members

end

end Document

/-- The value of a text. -/
def read? (text : String) : Option Json :=
  (Document.read? text).bind Document.toJson?

end Json

end RecordSchema
