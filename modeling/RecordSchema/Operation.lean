namespace RecordSchema

/-!
# Operations

What a class may offer to its clients.  A definition may name further
operations; they are kept as one that nothing is known about.
-/

/-- An operation on the records of a class. -/
inductive Operation where
  | query
  | get
  | post
  | patch
  | delete
  | other
  deriving Repr, DecidableEq

namespace Operation

/-- The operations that are known by name. -/
def all : List Operation :=
  [.query, .get, .post, .patch, .delete]

/-- The name of an operation in definitions. -/
def name : Operation → String
  | .query => "QUERY"
  | .get => "GET"
  | .post => "POST"
  | .patch => "PATCH"
  | .delete => "DELETE"
  | .other => "OTHER"

/-- The operation of a name; an unknown name gives the operation nothing is known about. -/
def ofName (name : String) : Operation :=
  (all.find? fun operation => operation.name == name).getD .other

end Operation

end RecordSchema
