import RecordSchema.Proofs.Validation.Places

namespace RecordSchema

/-!
# Checks that settle

Where no cast nests its values deeper, a record needs no more levels than it is deep.  So
its check always has an outcome, and the levels leave no trace in it.
-/

namespace Validation

variable
  {check : ClassModel → List Step → Record → Outcome}
  {registry : Registry}
  {draws : Draws}
  {options : Options}
  {model : ClassModel}
  {steps : List Step}
  {input : Record}
  {property : Property}
  {levels : Nat}

/-- A check that settles all records up to some depth. -/
def Settles (depth : Nat) (check : List Step → Record → Outcome) : Prop :=
  ∀ steps members,
    (Json.object members).objectDepth ≤ depth →
    Settled (check steps (.ofMembers members)).failures

theorem Settles.le
    {check : List Step → Record → Outcome}
    {less more : Nat}
    (settles : Settles more check)
    (bounded : less ≤ more) :
    Settles less check :=
  fun steps members enough => settles steps members (Nat.le_trans enough bounded)

theorem settled_unexpected : Settled (unexpected options model steps input) := by
  rw [unexpected]
  split
  · exact settled_nil
  · intro failure member
    obtain ⟨entry, _, rfl⟩ := List.mem_map.mp member
    simp

theorem settled_checkItems
    {check : List Step → Record → Outcome}
    {items : List Json}
    {position : Nat}
    (settles : Settles (Json.objectDepthItems items) check) :
    Settled (checkItems check steps position items).2 := by
  induction items generalizing position with
  | nil =>
      exact settled_nil
  | cons first rest inductionHypothesis =>
      have bounds :=
        Json.objectDepthItems_le_iff.mp (Nat.le_refl (Json.objectDepthItems (first :: rest)))
      have restBound : Json.objectDepthItems rest ≤ Json.objectDepthItems (first :: rest) :=
        Json.objectDepthItems_le_iff.mpr fun item member =>
          bounds item (List.mem_cons_of_mem _ member)
      have restSettled : Settled (checkItems check steps (position + 1) rest).2 :=
        inductionHypothesis (settles.le restBound)
      cases first with
      | object members =>
          exact settled_append_iff.mpr
            ⟨settles _ members (bounds _ List.mem_cons_self), restSettled⟩
      | _ => exact settled_cons_iff.mpr ⟨by simp, restSettled⟩

theorem settled_checkNested
    {value : Json}
    (settles :
      ∀ linked,
        registry.linkedClass? property = some linked →
        Settles value.objectDepth (check linked)) :
    Settled (checkNested check registry property steps value).failures := by
  by_cases holds : HoldsRecords registry property value
  · obtain ⟨isEmbedded, isLinked, shape⟩ := holds
    obtain ⟨linked, found⟩ := Option.isSome_iff_exists.mp isLinked
    rcases shape with ⟨items, rfl⟩ | ⟨type, members, rfl⟩
    · rw [checkNested_array isEmbedded found]
      exact settled_checkItems ((settles linked found).le (by simp [Json.objectDepth]))
    · rw [checkNested_object type found]
      exact settles linked found _ members (Nat.le_refl _)
  · rw [checkNested_of_not_holdsRecords holds]
    exact settled_nil

theorem settled_checkPresent
    {raw : Json}
    (keepsDepth : property.KeepsDepth)
    (settles :
      ∀ linked,
        registry.linkedClass? property = some linked →
        Settles raw.objectDepth (check linked)) :
    Settled (checkPresent check registry options steps property raw).failures := by
  rw [checkPresent]
  split
  · simp [Verdict.refuse]
  · split
    · split <;> simp [Verdict.accept, Verdict.refuse]
    · split
      · simp [Verdict.refuse]
      · rename_i value accepted
        exact settled_checkNested fun linked found =>
          (settles linked found).le (keepsDepth raw value accepted)

theorem settled_checkAbsent
    {record : Record} :
    Settled (checkAbsent draws steps property record).failures := by
  have ofWithoutDefault : Settled (withoutDefault steps property).failures := by
    rw [withoutDefault]
    split
    · exact settled_nil
    · split <;> simp [Verdict.accept, Failure.missing]
  rw [checkAbsent]
  split
  · exact ofWithoutDefault
  · split
    · simp [Verdict.refuse]
    · split
      · exact ofWithoutDefault
      · split <;> simp [Verdict.accept, Verdict.refuse]

theorem settled_addDefaults
    {record : Record} :
    Settled (addDefaults draws options model steps input record).failures := by
  have ofFold :
      ∀ (entries : List (String × Property)) (outcome : Outcome),
        Settled outcome.failures →
        Settled (entries.foldl (addAbsent draws steps input) outcome).failures := by
    intro entries
    induction entries with
    | nil =>
        exact fun outcome => id
    | cons first rest inductionHypothesis =>
        intro outcome settled
        apply inductionHypothesis
        rw [addAbsent]
        split
        · exact settled
        · exact settled_append_iff.mpr ⟨settled, settled_checkAbsent⟩
  rw [addDefaults]
  split
  · exact settled_nil
  · exact ofFold _ _ settled_nil

theorem settled_violations
    {entry : String × Json} :
    Settled (violations model steps entry) := by
  intro failure member
  rw [violations] at member
  split at member
  · cases member
  · split at member
    · cases member
    · obtain ⟨kind, isViolation, rfl⟩ := List.mem_map.mp member
      rintro rfl
      cases Constraints.mem_violations_iff.mp isViolation

theorem settled_checkWith
    (keepsDepth :
      ∀ name property, model.effective.get? name = some property → property.KeepsDepth)
    (settles :
      ∀ linked ∈ registry.classes, ∀ depth,
        depth < input.toJson.objectDepth → Settles depth (check linked)) :
    Settled (checkWith check registry draws options model steps input).failures := by
  simp only [checkWith, settled_append_iff, settled_flatMap_iff]
  refine ⟨⟨⟨settled_unexpected, fun verdict member => ?_⟩, settled_addDefaults⟩,
    fun entry _ => settled_violations⟩
  obtain ⟨⟨name, property⟩, entryMember, brought⟩ := List.mem_filterMap.mp member
  obtain ⟨raw, found, rfl⟩ := Option.map_eq_some_iff.mp brought
  have has := SortedMap.get?_eq_some_iff.mpr entryMember
  exact settled_checkPresent (keepsDepth name property has) fun linked isLinked =>
    settles linked (Registry.mem_classes_of_linkedClass? isLinked) raw.objectDepth
      (Record.objectDepth_lt_of_get? found)

/-- As many levels as a record is deep are enough for it. -/
theorem settled_checkRecord
    (keepsDepth : registry.Every Property.KeepsDepth)
    (member : model ∈ registry.classes)
    (enough : input.toJson.objectDepth ≤ levels) :
    Settled (checkRecord registry draws options levels model steps input).failures := by
  induction levels generalizing model steps input with
  | zero =>
      rw [Record.toJson, Json.objectDepth_object] at enough
      omega
  | succ levels inductionHypothesis =>
      refine settled_checkWith (keepsDepth model member) ?_
      intro linked isClass depth less others members bounded
      have nested := Nat.le_trans (Record.objectDepth_ofMembers_le members) bounded
      exact inductionHypothesis isClass (by omega)

theorem settled_checkNested_of_keepsDepth
    {value : Json}
    (keepsDepth : registry.Every Property.KeepsDepth)
    (enough : value.objectDepth ≤ levels) :
    Settled (checkNested (checkRecord registry draws options levels) registry property steps
      value).failures := by
  refine settled_checkNested fun linked isLinked others members bounded => ?_
  have recordEnough := Nat.le_trans (Record.objectDepth_ofMembers_le members) bounded
  exact settled_checkRecord keepsDepth (Registry.mem_classes_of_linkedClass? isLinked)
    (Nat.le_trans recordEnough enough)

/-- A record is checked with as many levels as it is deep. -/
theorem check?_of_keepsDepth
    (keepsDepth : registry.Every Property.KeepsDepth)
    (member : model ∈ registry.classes)
    (enough : input.toJson.objectDepth ≤ levels) :
    check? registry draws options model steps input =
      some (checkRecord registry draws options levels model steps input) :=
  check?_eq_some_iff.mpr ⟨levels, rfl, settled_checkRecord keepsDepth member enough⟩

end Validation

end RecordSchema
