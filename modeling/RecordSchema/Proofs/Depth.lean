import RecordSchema.Proofs.Cast
import RecordSchema.Proofs.SortedMap
import RecordSchema.Record

namespace RecordSchema

/-!
# How deep objects are nested

A part of a value is no deeper than the value, and a part of an object is less deep.  Casts
that keep to this bound let the check of a record end: each record embedded in another is
less deep than that.
-/

namespace Json

theorem objectDepthItems_le_iff
    {items : List Json}
    {bound : Nat} :
    objectDepthItems items ≤ bound ↔ ∀ item ∈ items, item.objectDepth ≤ bound := by
  induction items with
  | nil =>
      simp [objectDepthItems]
  | cons first rest inductionHypothesis =>
      rw [objectDepthItems, Nat.max_le, inductionHypothesis, List.forall_mem_cons]

theorem objectDepthMembers_le_iff
    {members : List (String × Json)}
    {bound : Nat} :
    objectDepthMembers members ≤ bound ↔ ∀ entry ∈ members, entry.2.objectDepth ≤ bound := by
  induction members with
  | nil =>
      simp [objectDepthMembers]
  | cons first rest inductionHypothesis =>
      rw [objectDepthMembers, Nat.max_le, inductionHypothesis, List.forall_mem_cons]

theorem objectDepth_le_of_mem_items
    {items : List Json}
    {item : Json}
    (member : item ∈ items) :
    item.objectDepth ≤ (Json.array items).objectDepth := by
  simp only [objectDepth]
  exact objectDepthItems_le_iff.mp (Nat.le_refl _) item member

theorem objectDepth_object
    (members : List (String × Json)) :
    (Json.object members).objectDepth = objectDepthMembers members + 1 := by
  simp only [objectDepth]

end Json

namespace Record

/-- The value of a record is less deep than the record. -/
theorem objectDepth_lt_of_get?
    {record : Record}
    {name : String}
    {value : Json}
    (found : record.get? name = some value) :
    value.objectDepth < record.toJson.objectDepth := by
  have member := SortedMap.get?_eq_some_iff.mp found
  have bounded := Json.objectDepthMembers_le_iff.mp (Nat.le_refl _) _ member
  rw [toJson, Json.objectDepth_object]
  exact Nat.lt_succ_of_le bounded

/-- To take an object as a record drops repeated members at most. -/
theorem objectDepth_ofMembers_le
    (members : List (String × Json)) :
    (ofMembers members).toJson.objectDepth ≤ (Json.object members).objectDepth := by
  rw [toJson, Json.objectDepth_object, Json.objectDepth_object]
  apply Nat.succ_le_succ
  apply Json.objectDepthMembers_le_iff.mpr
  intro entry member
  have given : entry ∈ members :=
    SortedMap.mem_of_get?_ofList (SortedMap.get?_eq_some_iff.mpr member)
  exact Json.objectDepthMembers_le_iff.mp (Nat.le_refl _) entry given

theorem toJson_inj
    {first second : Record}
    (same : first.toJson = second.toJson) :
    first = second := by
  cases first
  cases second
  cases same
  rfl

@[simp] theorem ofMembers_entries
    (record : Record) :
    ofMembers record.entries = record :=
  SortedMap.ofList_entries record

end Record

theorem CastKind.objectDepth_le_of_apply
    {kind : CastKind}
    {value result : Json}
    (accepted : kind.apply value = .ok result) :
    result.objectDepth ≤ value.objectDepth := by
  cases kind with
  | object =>
      cases value with
      | object members =>
          cases accepted
          exact Nat.le_refl _
      | _ => cases accepted
  | _ =>
      obtain ⟨_, _, rfl⟩ := exists_of_map_ok accepted
      simp [Json.objectDepth, Json.ofInt64, Json.ofInt]

namespace Property

variable
  {property : Property}

/-- A property whose values are nested no deeper than what they are cast from. -/
def KeepsDepth (property : Property) : Prop :=
  ∀ raw value, property.castValue raw = .ok value → value.objectDepth ≤ raw.objectDepth

/-- The items of a collection are cast one by one, so only the cast of items matters. -/
theorem keepsDepth_of_castItem
    (keeps :
      ∀ raw value, property.castItem raw = .ok value → value.objectDepth ≤ raw.objectDepth) :
    property.KeepsDepth := by
  intro raw value accepted
  cases isCollection : property.type.isCollection with
  | true =>
      obtain ⟨items, rfl⟩ := exists_array_of_castValue isCollection accepted
      rw [castValue_array isCollection] at accepted
      obtain ⟨values, castAccepted, rfl⟩ := exists_of_map_ok accepted
      simp only [Json.objectDepth]
      apply Json.objectDepthItems_le_iff.mpr
      intro item member
      have isCast : item ∈ values := by
        split at member
        · exact mem_of_mem_dropRepeated member
        · exact member
      obtain ⟨source, sourceMember, sourceAccepted⟩ := exists_of_castItems castAccepted isCast
      exact Nat.le_trans (keeps source item sourceAccepted)
        (Json.objectDepthItems_le_iff.mp (Nat.le_refl _) source sourceMember)
  | false =>
      exact keeps raw value (castItem_of_castValue isCollection accepted)

theorem HasBuiltinCast.keepsDepth
    (builtin : property.HasBuiltinCast) :
    property.KeepsDepth := by
  apply keepsDepth_of_castItem
  intro raw value accepted
  rcases builtin with ⟨kind, isKind⟩ | ⟨noCast, _⟩
  · rw [castItem, isKind] at accepted
    exact CastKind.objectDepth_le_of_apply accepted
  · rw [castItem, noCast] at accepted
    cases accepted
    exact Nat.le_refl _

end Property

end RecordSchema
