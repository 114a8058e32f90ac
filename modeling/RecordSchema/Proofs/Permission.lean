import RecordSchema.Permission
import RecordSchema.Proofs.SortedMap

namespace RecordSchema

/-!
# What a table of permissions grants

A table is refused when a declared mask is no set of permissions.  Otherwise a role is granted
its own declared mask, else that of the default role, else what the exposed operations need,
and the read-only role the permission to read, whatever is declared for it.  A role may perform
the operations whose permission is in its mask.
-/

namespace Permission

/-- The set of the four lowest bits of a number. -/
def ofBits (bits : UInt8) : Permission :=
  ⟨BitVec.ofNat 4 bits.toNat⟩

theorem ofBits?_eq_none_iff
    {bits : UInt8} :
    ofBits? bits = none ↔ 15 < bits := by
  simp [ofBits?]

theorem ofBits?_eq_some_iff
    {bits : UInt8}
    {mask : Permission} :
    ofBits? bits = some mask ↔ bits ≤ 15 ∧ mask = ofBits bits := by
  rw [ofBits?]
  split
  · rename_i small
    rw [Option.some_inj, eq_comm (a := mask)]
    exact (and_iff_right small).symm
  · rename_i large
    exact iff_of_false (by simp) fun isSome => large isSome.1

/-- A set made of a number up to 15 stands for that number. -/
theorem toNat_ofBits
    {bits : UInt8}
    (small : bits ≤ 15) :
    (ofBits bits).toNat = bits.toNat := by
  have bound : bits.toNat ≤ 15 := UInt8.le_iff_toNat_le.mp small
  rw [toNat, ofBits, BitVec.toNat_ofNat, Nat.mod_eq_of_lt (by omega)]

/-- A set contains another one when its number has all the bits of the other. -/
theorem contains_iff_toNat
    {mask required : Permission} :
    mask.contains required = true ↔ mask.toNat &&& required.toNat = required.toNat := by
  rw [contains, beq_iff_eq, ← BitVec.toNat_inj, BitVec.toNat_and]
  rfl

/-- All four permissions contain every set. -/
theorem contains_all
    (mask : Permission) :
    all.contains mask = true := by
  have containsBits : ∀ bits : BitVec 4, (15 &&& bits == bits) = true := by
    decide
  exact containsBits mask.bits

theorem toNat_le
    (mask : Permission) :
    mask.toNat ≤ all.toNat :=
  Nat.le_of_lt_succ mask.bits.isLt

/-- What a union grants to an operation, one of its two parts grants. -/
theorem contains_union_ofOperation
    (left right : Permission)
    (operation : Operation) :
    (left.union right).contains (ofOperation operation) =
      (left.contains (ofOperation operation) || right.contains (ofOperation operation)) := by
  have bitOfEither :
      ∀ bit ∈ ([0, 1, 2, 4, 8] : List (BitVec 4)), ∀ left right : BitVec 4,
        ((left ||| right) &&& bit == bit) = ((left &&& bit == bit) || (right &&& bit == bit)) := by
    decide
  cases operation <;> exact bitOfEither _ (by decide) left.bits right.bits

/-- What one operation needs grants another one only the same. -/
theorem contains_ofOperation_iff
    {exposed operation : Operation}
    (needs : ofOperation operation ≠ empty) :
    (ofOperation exposed).contains (ofOperation operation) = true ↔
      ofOperation exposed = ofOperation operation := by
  revert needs
  cases operation <;> cases exposed <;> decide

/-- The empty set grants nothing that is needed. -/
theorem contains_empty_ofOperation
    {operation : Operation}
    (needs : ofOperation operation ≠ empty) :
    empty.contains (ofOperation operation) = false := by
  revert needs
  cases operation <;> decide

/-- Operations add to a set the permissions that they need, and no other. -/
theorem contains_foldl_union_iff
    {operation : Operation}
    (needs : ofOperation operation ≠ empty)
    (operations : List Operation)
    (mask : Permission) :
    (operations.foldl (fun mask exposed => mask.union (ofOperation exposed)) mask).contains
        (ofOperation operation) = true ↔
      mask.contains (ofOperation operation) = true ∨
        ∃ exposed ∈ operations, ofOperation exposed = ofOperation operation := by
  induction operations generalizing mask with
  | nil =>
      simp
  | cons first rest inductionHypothesis =>
      rw [List.foldl_cons, inductionHypothesis, contains_union_ofOperation, Bool.or_eq_true,
        contains_ofOperation_iff needs, or_assoc]
      simp only [List.mem_cons, exists_eq_or_imp]

/-- A set made of operations allows those that need a permission which one of them needs. -/
theorem allows_ofOperations_iff
    {operations : List Operation}
    {operation : Operation} :
    (ofOperations operations).allows operation = true ↔
      ofOperation operation ≠ empty ∧
        ∃ exposed ∈ operations, ofOperation exposed = ofOperation operation := by
  rw [allows, Bool.and_eq_true, bne_iff_ne]
  refine and_congr_right fun needs => ?_
  rw [ofOperations, contains_foldl_union_iff needs]
  exact or_iff_right (by simp [contains_empty_ofOperation needs])

/-- A set is known by the operations that it allows. -/
theorem ext_allows
    {left right : Permission}
    (same : ∀ operation, left.allows operation = right.allows operation) :
    left = right := by
  have known :
      ∀ left right : BitVec 4,
        ((left &&& 8 == 8) = (right &&& 8 == 8) ∧ (left &&& 4 == 4) = (right &&& 4 == 4) ∧
            (left &&& 2 == 2) = (right &&& 2 == 2) ∧ (left &&& 1 == 1) = (right &&& 1 == 1)) →
          left = right := by
    decide
  obtain ⟨leftBits⟩ := left
  obtain ⟨rightBits⟩ := right
  congr 1
  exact known leftBits rightBits ⟨same .post, same .get, same .patch, same .delete⟩

/-- Neither the order nor the repetition of operations matters. -/
theorem ofOperations_congr
    {operations others : List Operation}
    (same : ∀ operation, operation ∈ operations ↔ operation ∈ others) :
    ofOperations operations = ofOperations others := by
  refine ext_allows fun operation => Bool.eq_iff_iff.mpr ?_
  simp only [allows_ofOperations_iff, same]

end Permission

namespace PermissionTable

/-- Numbers are accepted exactly when none of them is too large, each as its set. -/
theorem declared_eq_ok_iff
    {className : String}
    {entries : List (String × UInt8)}
    {masks : List (String × Permission)} :
    declared className entries = .ok masks ↔
      (∀ entry ∈ entries, entry.2 ≤ 15) ∧
        masks = entries.map fun entry => (entry.1, Permission.ofBits entry.2) := by
  induction entries generalizing masks with
  | nil =>
      simp [declared, eq_comm]
  | cons first rest inductionHypothesis =>
      rw [declared, List.forall_mem_cons, List.map_cons]
      split
      · rename_i unread
        have large := UInt8.not_le.mpr (Permission.ofBits?_eq_none_iff.mp unread)
        exact iff_of_false (by simp) fun accepted => large accepted.1.1
      · rename_i mask read
        obtain ⟨small, rfl⟩ := Permission.ofBits?_eq_some_iff.mp read
        split
        · rename_i restRefused
          refine iff_of_false (by simp) fun accepted => ?_
          have restAccepted := inductionHypothesis.mpr ⟨accepted.1.2, rfl⟩
          cases restRefused.symm.trans restAccepted
        · rename_i restMasks restAccepted
          obtain ⟨restSmall, rfl⟩ := inductionHypothesis.mp restAccepted
          rw [Except.ok.injEq, eq_comm (a := masks)]
          exact (and_iff_right ⟨small, restSmall⟩).symm

theorem declared_error
    {className : String}
    {entries : List (String × UInt8)}
    {error : DefinitionError}
    (refused : declared className entries = .error error) :
    ∃ role bits,
      error = .invalidPermission className role bits ∧ (role, bits) ∈ entries ∧ 15 < bits := by
  induction entries with
  | nil =>
      cases refused
  | cons first rest inductionHypothesis =>
      rw [declared] at refused
      split at refused
      · rename_i unread
        cases refused
        exact ⟨first.1, first.2, rfl, List.mem_cons_self,
          Permission.ofBits?_eq_none_iff.mp unread⟩
      · split at refused
        · rename_i restRefused
          cases refused
          obtain ⟨role, bits, shape, member, tooLarge⟩ := inductionHypothesis restRefused
          exact ⟨role, bits, shape, List.mem_cons_of_mem _ member, tooLarge⟩
        · cases refused

/-- The number that is declared for a role. -/
def declaredBits? (explicit : Option (SortedMap UInt8)) (role : String) : Option UInt8 :=
  explicit.bind fun masks => masks.get? role

/-- Where no numbers are declared, none is found in the map without entries either. -/
theorem declaredBits?_eq
    (explicit : Option (SortedMap UInt8))
    (role : String) :
    declaredBits? explicit role = (explicit.getD .empty).get? role := by
  cases explicit <;> rfl

/-- A table is made when every declared number is a set, and of these sets. -/
theorem ofDefinition_eq_ok_iff
    {className : String}
    {explicit : Option (SortedMap UInt8)}
    {expose : List Operation}
    {table : PermissionTable} :
    ofDefinition className explicit expose = .ok table ↔
      (∀ role bits, declaredBits? explicit role = some bits → bits ≤ 15) ∧
        table.roles =
          ((SortedMap.empty.insert defaultRole (Permission.ofOperations expose)).union
            ((explicit.getD .empty).mapValues fun _ => Permission.ofBits)).insert
              readonlyRole Permission.read := by
  have small :
      (∀ role bits, declaredBits? explicit role = some bits → bits ≤ 15) ↔
        ∀ entry ∈ (explicit.getD .empty).entries, entry.2 ≤ 15 := by
    simp only [declaredBits?_eq, SortedMap.get?_eq_some_iff, Prod.forall]
  obtain ⟨roles⟩ := table
  rw [small, ofDefinition]
  split
  · rename_i error refused
    refine iff_of_false (by simp) fun accepted => ?_
    cases refused.symm.trans (declared_eq_ok_iff.mpr ⟨accepted.1, rfl⟩)
  · rename_i masks masksRead
    obtain ⟨allSmall, rfl⟩ := declared_eq_ok_iff.mp masksRead
    rw [Except.ok.injEq, PermissionTable.mk.injEq, eq_comm (b := roles)]
    exact (and_iff_right allSmall).symm

/-- The masks of an accepted table are sets. -/
theorem ofDefinition_ok
    {className : String}
    {explicit : Option (SortedMap UInt8)}
    {expose : List Operation}
    {table : PermissionTable}
    (accepted : ofDefinition className explicit expose = .ok table) :
    ∀ masks, explicit = some masks → ∀ role bits, masks.get? role = some bits → bits ≤ 15 := by
  rintro masks rfl
  exact (ofDefinition_eq_ok_iff.mp accepted).1

theorem ofDefinition_error
    {className : String}
    {explicit : Option (SortedMap UInt8)}
    {expose : List Operation}
    {error : DefinitionError}
    (refused : ofDefinition className explicit expose = .error error) :
    ∃ masks role bits,
      explicit = some masks ∧ masks.get? role = some bits ∧ 15 < bits ∧
        error = .invalidPermission className role bits := by
  rw [ofDefinition] at refused
  split at refused
  · rename_i setsRefused
    cases refused
    obtain ⟨role, bits, shape, member, tooLarge⟩ := declared_error setsRefused
    cases explicit with
    | none =>
        cases member
    | some masks =>
        exact ⟨masks, role, bits, rfl, SortedMap.get?_eq_some_iff.mpr member, tooLarge, shape⟩
  · cases refused

/-- A table is refused exactly when a declared number is too large to be a set. -/
theorem exists_ofDefinition_error_iff
    {className : String}
    {explicit : Option (SortedMap UInt8)}
    {expose : List Operation} :
    (∃ error, ofDefinition className explicit expose = .error error) ↔
      ∃ role bits, declaredBits? explicit role = some bits ∧ 15 < bits := by
  constructor
  · rintro ⟨error, refused⟩
    obtain ⟨masks, role, bits, rfl, found, tooLarge, _⟩ := ofDefinition_error refused
    exact ⟨role, bits, found, tooLarge⟩
  · rintro ⟨role, bits, found, tooLarge⟩
    cases result : ofDefinition className explicit expose with
    | error error =>
        exact ⟨error, rfl⟩
    | ok table =>
        have small := (ofDefinition_eq_ok_iff.mp result).1 role bits found
        exact absurd tooLarge (UInt8.not_lt.mpr small)

/--
What a role is granted, as a number.  The read-only role may read.  Any other role has its own
declared mask, else the one declared for the default role, else what the exposed operations need.
-/
def grantedBits (explicit : Option (SortedMap UInt8)) (expose : List Operation) (role : String) :
    Nat :=
  if role = readonlyRole then
    Permission.read.toNat
  else
    match declaredBits? explicit role, declaredBits? explicit defaultRole with
    | some bits, _ => bits.toNat
    | none, some bits => bits.toNat
    | none, none => (Permission.ofOperations expose).toNat

/-- The entries of a table: the declared ones, one for the default role, one for the read-only. -/
theorem get?_roles
    {className : String}
    {explicit : Option (SortedMap UInt8)}
    {expose : List Operation}
    {table : PermissionTable}
    (accepted : ofDefinition className explicit expose = .ok table)
    (role : String) :
    table.roles.get? role =
      if role = readonlyRole then
        some Permission.read
      else
        ((declaredBits? explicit role).map Permission.ofBits).or
          (if role = defaultRole then some (Permission.ofOperations expose) else none) := by
  rw [(ofDefinition_eq_ok_iff.mp accepted).2, SortedMap.get?_insert, SortedMap.get?_union,
    SortedMap.get?_insert, SortedMap.get?_empty, SortedMap.get?_mapValues, declaredBits?_eq]

/-- The mask of a role in a table stands for what the role is granted. -/
theorem toNat_get
    {className : String}
    {explicit : Option (SortedMap UInt8)}
    {expose : List Operation}
    {table : PermissionTable}
    (accepted : ofDefinition className explicit expose = .ok table)
    (role : String) :
    (table.get role).toNat = grantedBits explicit expose role := by
  have small := (ofDefinition_eq_ok_iff.mp accepted).1
  have notReadonly : defaultRole ≠ readonlyRole := by
    decide
  rw [get, get?_roles accepted, get?_roles accepted, if_neg notReadonly, if_pos rfl, grantedBits]
  by_cases readonly : role = readonlyRole
  · rw [if_pos readonly, if_pos readonly]
    rfl
  · rw [if_neg readonly, if_neg readonly]
    cases own : declaredBits? explicit role with
    | some bits =>
        exact Permission.toNat_ofBits (small role bits own)
    | none =>
        cases default : declaredBits? explicit defaultRole with
        | some bits =>
            have notDefault : role ≠ defaultRole := by
              rintro rfl
              cases own.symm.trans default
            rw [if_neg notDefault]
            exact Permission.toNat_ofBits (small defaultRole bits default)
        | none =>
            by_cases isDefault : role = defaultRole <;> simp [isDefault]

/-- A role may perform an operation when what it is granted has the bit that the operation needs. -/
theorem allows_iff
    {className : String}
    {explicit : Option (SortedMap UInt8)}
    {expose : List Operation}
    {table : PermissionTable}
    (accepted : ofDefinition className explicit expose = .ok table)
    (role : String)
    (operation : Operation) :
    table.allows role operation = true ↔
      Permission.ofOperation operation ≠ Permission.empty ∧
        grantedBits explicit expose role &&& (Permission.ofOperation operation).toNat =
          (Permission.ofOperation operation).toNat := by
  rw [allows, Permission.allows, Bool.and_eq_true, bne_iff_ne, Permission.contains_iff_toNat,
    toNat_get accepted]

/--
A table is refused exactly when some declared number is no set of permissions, be it the one of
the read-only role.  Otherwise each role has the mask that it is granted and may perform exactly
the operations that need a permission of this mask, and no mask exceeds the four permissions.
The mask of the exposed operations allows exactly the operations that need a
permission which an exposed one needs, so that it, and the table, do not depend on the order and
the repetition of these.
-/
theorem tables_grant_declared
    (className : String)
    (explicit : Option (SortedMap UInt8))
    (expose : List Operation) :
    ((∃ error, ofDefinition className explicit expose = .error error) ↔
        ∃ role bits, declaredBits? explicit role = some bits ∧ 15 < bits) ∧
      (∀ table,
        ofDefinition className explicit expose = .ok table →
          (∀ role, (table.get role).toNat = grantedBits explicit expose role) ∧
            (∀ role operation,
              table.allows role operation = true ↔
                Permission.ofOperation operation ≠ Permission.empty ∧
                  grantedBits explicit expose role &&&
                      (Permission.ofOperation operation).toNat =
                    (Permission.ofOperation operation).toNat) ∧
              ∀ role mask,
                table.roles.get? role = some mask →
                  Permission.all.contains mask = true ∧ mask.toNat ≤ Permission.all.toNat) ∧
        (∀ operation,
          (Permission.ofOperations expose).allows operation = true ↔
            Permission.ofOperation operation ≠ Permission.empty ∧
              ∃ exposed ∈ expose,
                Permission.ofOperation exposed = Permission.ofOperation operation) ∧
          ∀ others,
            (∀ operation, operation ∈ expose ↔ operation ∈ others) →
              Permission.ofOperations expose = Permission.ofOperations others ∧
                ofDefinition className explicit expose =
                  ofDefinition className explicit others := by
  refine ⟨exists_ofDefinition_error_iff,
    fun table accepted => ⟨toNat_get accepted, allows_iff accepted, ?_⟩,
    fun operation => Permission.allows_ofOperations_iff, fun others same => ?_⟩
  · intro role mask _
    exact ⟨Permission.contains_all mask, Permission.toNat_le mask⟩
  · have sameMask := Permission.ofOperations_congr same
    refine ⟨sameMask, ?_⟩
    rw [ofDefinition, ofDefinition, sameMask]

/--
The read-only role may query and not create although more is declared for it, and a role without
a mask may do what is exposed, in whatever order; a role with all permissions may delete, and yet
not do what is unknown.  A number that is too large is refused for any role.
-/
theorem tables_grant_declared_readonly :
    (∃ table,
      ofDefinition "Thing" (some (.ofList [("admin", 15), ("readonly", 15)]))
          [.get, .post, .get] = .ok table ∧
        (table.get "admin").toNat = 15 ∧ (table.get "readonly").toNat = 4 ∧
          (table.get "curator").toNat = 12 ∧
            (table.allows "readonly" .query = true ∧ ¬table.allows "readonly" .post = true) ∧
              (table.allows "curator" .post = true ∧ ¬table.allows "curator" .patch = true) ∧
                (table.allows "admin" .delete = true ∧ ¬table.allows "admin" .other = true) ∧
                  ofDefinition "Thing" (some (.ofList [("admin", 15), ("readonly", 15)]))
                    [.post, .get] = .ok table) ∧
      ∃ error,
        ofDefinition "Thing" (some (.ofList [("readonly", 16)])) [.get] = .error error := by
  obtain ⟨_, ofTable, _, unordered⟩ :=
    tables_grant_declared "Thing" (some (.ofList [("admin", 15), ("readonly", 15)]))
      [.get, .post, .get]
  have sameTable := (unordered [.post, .get] fun operation => by cases operation <;> decide).2
  obtain ⟨granted, allowed, _⟩ := ofTable _ rfl
  refine ⟨⟨_, rfl, ?_, ?_, ?_, ?_, ?_, ?_, sameTable.symm⟩, ?_⟩
  · rw [granted]
    decide
  · rw [granted]
    decide
  · rw [granted]
    decide
  · rw [allowed, allowed]
    decide
  · rw [allowed, allowed]
    decide
  · rw [allowed, allowed]
    decide
  · exact (tables_grant_declared "Thing" (some (.ofList [("readonly", 16)])) [.get]).1.mpr
      ⟨"readonly", 16, by decide, by decide⟩

end PermissionTable

end RecordSchema
