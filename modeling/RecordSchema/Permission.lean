import RecordSchema.DefinitionError
import RecordSchema.Operation
import RecordSchema.SortedMap

namespace RecordSchema

/-!
# Permissions

A class grants each role a set of the four permissions.  The role `default`
stands in for roles without an entry of their own, and `readonly` may read and
nothing else.
-/

/-- A set of the permissions to create, read, update and delete, one bit each. -/
structure Permission where
  bits : BitVec 4
  deriving Repr, DecidableEq

namespace Permission

/-- The set that holds the permission to create. -/
def create : Permission :=
  ⟨8⟩

/-- The set that holds the permission to read. -/
def read : Permission :=
  ⟨4⟩

/-- The set that holds the permission to update. -/
def update : Permission :=
  ⟨2⟩

/-- The set that holds the permission to delete. -/
def delete : Permission :=
  ⟨1⟩

/-- The empty set. -/
def empty : Permission :=
  ⟨0⟩

/-- The set of all four permissions. -/
def all : Permission :=
  ⟨15⟩

/-- The permissions of either set. -/
def union (left right : Permission) : Permission :=
  ⟨left.bits ||| right.bits⟩

/-- Whether all permissions of a second set belong to the first. -/
def contains (mask required : Permission) : Bool :=
  mask.bits &&& required.bits == required.bits

/-- The number that stands for a set. -/
def toNat (mask : Permission) : Nat :=
  mask.bits.toNat

/-- The set of a number up to 15. -/
def ofBits? (bits : UInt8) : Option Permission :=
  if bits ≤ 15 then some ⟨BitVec.ofNat 4 bits.toNat⟩ else none

/-- The permission that an operation needs; an unknown operation needs none. -/
def ofOperation : Operation → Permission
  | .query => read
  | .get => read
  | .post => create
  | .patch => update
  | .delete => delete
  | .other => empty

/-- The permissions that a list of operations needs. -/
def ofOperations (operations : List Operation) : Permission :=
  operations.foldl (fun mask operation => mask.union (ofOperation operation)) empty

/-- A set allows an operation that needs a permission and finds it there. -/
def allows (mask : Permission) (operation : Operation) : Bool :=
  ofOperation operation != empty && mask.contains (ofOperation operation)

end Permission

/-- The role that stands in for roles without an entry. -/
def defaultRole : String :=
  "default"

/-- The role that may read and nothing else. -/
def readonlyRole : String :=
  "readonly"

/-- The permissions of each role for one class. -/
structure PermissionTable where
  roles : SortedMap Permission
  deriving Repr

namespace PermissionTable

/-- The declared masks as sets, in the order of the roles, up to the first that is none. -/
def declared (className : String) :
    List (String × UInt8) → Except DefinitionError (List (String × Permission))
  | [] => .ok []
  | (role, bits) :: rest =>
      match Permission.ofBits? bits with
      | none => .error (.invalidPermission className role bits)
      | some mask =>
          match declared className rest with
          | .error error => .error error
          | .ok masks => .ok ((role, mask) :: masks)

/--
The table of a class.  Where no mask is declared for the default role, it may do
what the exposed operations need.
-/
def ofDefinition (className : String) (explicit : Option (SortedMap UInt8))
    (expose : List Operation) : Except DefinitionError PermissionTable :=
  match declared className (explicit.getD .empty).entries with
  | .error error => .error error
  | .ok masks =>
      let roles := SortedMap.ofList ((defaultRole, Permission.ofOperations expose) :: masks)
      .ok ⟨roles.insert readonlyRole Permission.read⟩

/-- The permissions of a role, those of the default role if it has no entry. -/
def get (table : PermissionTable) (role : String) : Permission :=
  ((table.roles.get? role).or (table.roles.get? defaultRole)).getD Permission.empty

/-- Whether a role may perform an operation. -/
def allows (table : PermissionTable) (role : String) (operation : Operation) : Bool :=
  (table.get role).allows operation

end PermissionTable

end RecordSchema
