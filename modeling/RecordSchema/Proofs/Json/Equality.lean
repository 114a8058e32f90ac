import RecordSchema.Json.Basic

namespace RecordSchema

/-!
# Equality of values

Values are equal if they differ in the signs of zeros at most: arrays and objects are compared
part by part, and the two zeros are equal.  So equality is not identity, but it is identity of
the values without those signs, and thereby an equivalence.
-/

/-- The number without the sign of a zero. -/
def Number.unsignZero : Number → Number
  | .integer value => .integer value
  | .double value => .double (if value.isZero then .zero false else value)

theorem Number.same_iff
    {left right : Number} :
    left.same right = true ↔ left.unsignZero = right.unsignZero := by
  cases left with
  | integer left =>
      cases right <;> simp [same, unsignZero]
  | double left =>
      cases right with
      | integer right =>
          simp [same, unsignZero]
      | double right =>
          have zeroIsZero : (Binary64.zero false).isZero = true := rfl
          simp only [same, Binary64.same, unsignZero, Number.double.injEq, Bool.or_eq_true,
            Bool.and_eq_true, beq_iff_eq]
          grind

namespace Json

mutual

/-- The value without the signs of zeros. -/
def unsignZeros : Json → Json
  | .number value => .number value.unsignZero
  | .array items => .array (unsignItems items)
  | .object members => .object (unsignMembers members)
  | value => value

/-- The items without the signs of zeros. -/
def unsignItems : List Json → List Json
  | [] => []
  | item :: items => unsignZeros item :: unsignItems items

/-- The members without the signs of zeros. -/
def unsignMembers : List (String × Json) → List (String × Json)
  | [] => []
  | (key, value) :: members => (key, unsignZeros value) :: unsignMembers members

end

mutual

theorem same_iff :
    ∀ left right : Json, left.same right = true ↔ left.unsignZeros = right.unsignZeros
  | .array lefts, .array rights => by
      simpa only [same, unsignZeros, Json.array.injEq] using sameItems_iff lefts rights
  | .object lefts, .object rights => by
      simpa only [same, unsignZeros, Json.object.injEq] using sameMembers_iff lefts rights
  | .null, right => by cases right <;> simp [same, unsignZeros]
  | .bool left, right => by cases right <;> simp [same, unsignZeros]
  | .number left, right => by cases right <;> simp [same, unsignZeros, Number.same_iff]
  | .string left, right => by cases right <;> simp [same, unsignZeros]
  | .array lefts, .null | .array lefts, .bool _ | .array lefts, .number _
  | .array lefts, .string _ | .array lefts, .object _ => by simp [same, unsignZeros]
  | .object lefts, .null | .object lefts, .bool _ | .object lefts, .number _
  | .object lefts, .string _ | .object lefts, .array _ => by simp [same, unsignZeros]

theorem sameItems_iff :
    ∀ lefts rights : List Json,
      sameItems lefts rights = true ↔ unsignItems lefts = unsignItems rights
  | [], [] => by simp [sameItems]
  | [], _ :: _ => by simp [sameItems, unsignItems]
  | _ :: _, [] => by simp [sameItems, unsignItems]
  | left :: lefts, right :: rights => by
      simp only [sameItems, unsignItems, Bool.and_eq_true, List.cons.injEq, same_iff left right,
        sameItems_iff lefts rights]

theorem sameMembers_iff :
    ∀ lefts rights : List (String × Json),
      sameMembers lefts rights = true ↔ unsignMembers lefts = unsignMembers rights
  | [], [] => by simp [sameMembers]
  | [], _ :: _ => by simp [sameMembers, unsignMembers]
  | _ :: _, [] => by simp [sameMembers, unsignMembers]
  | (leftKey, left) :: lefts, (rightKey, right) :: rights => by
      simp only [sameMembers, unsignMembers, Bool.and_eq_true, beq_iff_eq, List.cons.injEq,
        Prod.mk.injEq, same_iff left right, sameMembers_iff lefts rights]

end

theorem same_comm
    (left right : Json) :
    left.same right = right.same left := by
  rw [Bool.eq_iff_iff, same_iff, same_iff, eq_comm]

instance : EquivBEq Json where
  rfl := (same_iff _ _).mpr rfl
  symm first := (same_iff _ _).mpr ((same_iff _ _).mp first).symm
  trans first second :=
    (same_iff _ _).mpr (((same_iff _ _).mp first).trans ((same_iff _ _).mp second))

/-- Items of which no two are equal. -/
def Distinct (items : List Json) : Prop :=
  items.Pairwise fun first second => first.same second = false

theorem distinct_iff
    {items : List Json} :
    Distinct items ↔
      ∀ first second (firstBound : first < items.length) (secondBound : second < items.length),
        first ≠ second → items[first].same items[second] = false := by
  rw [Distinct, List.pairwise_iff_getElem]
  constructor
  · intro distinct first second firstBound secondBound different
    rcases Nat.lt_or_gt_of_ne different with before | behind
    · exact distinct first second firstBound secondBound before
    · rw [same_comm]
      exact distinct second first secondBound firstBound behind
  · intro distinct first second firstBound secondBound before
    exact distinct first second firstBound secondBound (Nat.ne_of_lt before)

end Json

end RecordSchema
