import RecordSchema.Proofs.Depth
import RecordSchema.Proofs.Registry.Linked
import RecordSchema.Proofs.Validation.Origins

namespace RecordSchema

/-!
# Where a record stands

A record is checked in the same way wherever it stands: below a base its failures are the
same ones with the base in front of their places, and each generator is asked for a place
below the base.  Nor do the levels matter, once there are as many as the record is deep.
-/

/-- The draws for places below a base. -/
def Draws.under (base : List Step) (draws : Draws) : Draws where
  uuid steps := draws.uuid (base ++ steps)
  timestamp steps := draws.timestamp (base ++ steps)

/-- The place that a path leads to from a base. -/
def Location.under (base : List Step) : Location → Location
  | .wholeRecord => .wholeRecord
  | .part steps => .part (base ++ steps)

/-- The failure with its place below a base. -/
def Failure.under (base : List Step) (failure : Failure) : Failure :=
  { failure with location := failure.location.under base }

namespace Validation

/-- The outcome with its failures below a base. -/
def Outcome.under (base : List Step) (outcome : Outcome) : Outcome :=
  { outcome with failures := outcome.failures.map (Failure.under base) }

/-- The verdict with its failures below a base. -/
def Verdict.under (base : List Step) (verdict : Verdict) : Verdict :=
  { verdict with failures := verdict.failures.map (Failure.under base) }

namespace Verdict

variable
  {base steps : List Step}
  {value : Json}

@[simp] theorem under_accept :
    (accept value).under base = accept value :=
  rfl

@[simp] theorem under_refuse
    {kind : FailureKind} :
    (refuse steps value kind).under base = refuse (base ++ steps) value kind :=
  rfl

@[simp] theorem under_unlessFailed
    {failures : List Failure} :
    (unlessFailed value failures).under base =
      unlessFailed value (failures.map (Failure.under base)) := by
  simp [under, unlessFailed]

end Verdict

/-- Without failures the base does not show. -/
theorem Outcome.eq_of_under_eq
    {base : List Step}
    {outcome : Outcome}
    {record : Record}
    (same : outcome.under base = ⟨record, []⟩) :
    outcome = ⟨record, []⟩ := by
  obtain ⟨other, failures⟩ := outcome
  simpa [under] using same

variable
  {check inner : ClassModel → List Step → Record → Outcome}
  {registry : Registry}
  {draws : Draws}
  {options : Options}
  {model : ClassModel}
  {base steps : List Step}
  {input : Record}
  {property : Property}

theorem unexpected_under :
    unexpected options model (base ++ steps) input =
      (unexpected options model steps input).map (Failure.under base) := by
  unfold unexpected
  split
  · rfl
  · simp [Failure.under, Location.under]

theorem violations_under :
    violations model (base ++ steps) =
      fun entry => (violations model steps entry).map (Failure.under base) := by
  funext entry
  unfold violations
  split
  · rfl
  · split
    · rfl
    · simp [Failure.under, Location.under]

theorem withoutDefault_under :
    withoutDefault (base ++ steps) property = (withoutDefault steps property).under base := by
  unfold withoutDefault
  split
  · rfl
  · split <;> rfl

theorem resolve_under
    {default : DefaultValue}
    {record : Record} :
    default.resolve draws (base ++ steps) record =
      default.resolve (draws.under base) steps record := by
  cases default with
  | generator source => cases source <;> rfl
  | _ => rfl

theorem checkAbsent_under
    {record : Record} :
    checkAbsent draws (base ++ steps) property record =
      (checkAbsent (draws.under base) steps property record).under base := by
  unfold checkAbsent
  split
  · exact withoutDefault_under
  · rw [resolve_under]
    split
    · rfl
    · split
      · exact withoutDefault_under
      · split <;> rfl

theorem addAbsent_under
    {outcome : Outcome}
    {entry : String × Property} :
    addAbsent draws (base ++ steps) input (outcome.under base) entry =
      (addAbsent (draws.under base) steps input outcome entry).under base := by
  unfold addAbsent
  split
  · rfl
  · simp [checkAbsent_under, Outcome.under, Verdict.under]

theorem addDefaults_under
    {record : Record} :
    addDefaults draws options model (base ++ steps) input record =
      (addDefaults (draws.under base) options model steps input record).under base := by
  unfold addDefaults
  split
  · rfl
  · have folded :
        ∀ (entries : List (String × Property)) (outcome : Outcome),
          entries.foldl (addAbsent draws (base ++ steps) input) (outcome.under base) =
            (entries.foldl (addAbsent (draws.under base) steps input) outcome).under base := by
      intro entries
      induction entries with
      | nil =>
          intro outcome
          rfl
      | cons first rest inductionHypothesis =>
          intro outcome
          rw [List.foldl_cons, List.foldl_cons, addAbsent_under, inductionHypothesis]
    exact folded model.effective.entries ⟨record, []⟩

/-- Two checks that differ by a base on records of a class up to some depth. -/
def Agrees
    (base : List Step)
    (depth : Nat)
    (check inner : List Step → Record → Outcome) : Prop :=
  ∀ steps members,
    (Json.object members).objectDepth ≤ depth →
    check (base ++ steps) (.ofMembers members) = (inner steps (.ofMembers members)).under base

theorem checkItems_under
    {check inner : List Step → Record → Outcome}
    {items : List Json}
    {position : Nat}
    (agrees : Agrees base (Json.objectDepthItems items) check inner) :
    checkItems check (base ++ steps) position items =
      ((checkItems inner steps position items).1,
        (checkItems inner steps position items).2.map (Failure.under base)) := by
  induction items generalizing position with
  | nil =>
      rfl
  | cons first rest inductionHypothesis =>
      have bounds := Json.objectDepthItems_le_iff.mp (Nat.le_refl (Json.objectDepthItems (first :: rest)))
      have restAgrees : Agrees base (Json.objectDepthItems rest) check inner := by
        intro others members bounded
        apply agrees
        apply Nat.le_trans bounded
        apply Json.objectDepthItems_le_iff.mpr
        intro item member
        exact bounds item (List.mem_cons_of_mem _ member)
      cases first with
      | object members =>
          have here := agrees (steps ++ [.index position]) members
            (bounds _ List.mem_cons_self)
          simp [checkItems, inductionHypothesis restAgrees, here, Outcome.under]
      | _ =>
          simp [checkItems, inductionHypothesis restAgrees, Failure.under, Location.under]

theorem checkNested_under
    {value : Json}
    (agrees :
      ∀ linked,
        registry.linkedClass? property = some linked →
        Agrees base value.objectDepth (check linked) (inner linked)) :
    checkNested check registry property (base ++ steps) value =
      (checkNested inner registry property steps value).under base := by
  unfold checkNested
  split
  · rfl
  · split
    · rfl
    · rename_i linked found
      split
      · rename_i members _
        have same := agrees linked found steps members (Nat.le_refl _)
        simp [same, Outcome.under]
      · rename_i items
        have itemsAgree : Agrees base (Json.objectDepthItems items) (check linked) (inner linked) := by
          intro others members bounded
          apply agrees linked found
          simpa [Json.objectDepth] using bounded
        simp [checkItems_under itemsAgree]
      · rfl

theorem checkPresent_under
    {raw : Json}
    (keepsDepth : property.KeepsDepth)
    (agrees :
      ∀ linked,
        registry.linkedClass? property = some linked →
        Agrees base raw.objectDepth (check linked) (inner linked)) :
    checkPresent check registry options (base ++ steps) property raw =
      (checkPresent inner registry options steps property raw).under base := by
  unfold checkPresent
  split
  · rfl
  · split
    · split <;> rfl
    · split
      · rfl
      · rename_i value accepted
        apply checkNested_under
        intro linked found others members bounded
        exact agrees linked found others members
          (Nat.le_trans bounded (keepsDepth raw value accepted))

/-- All passes give the same below a base if the checks of less deep records do. -/
theorem checkWith_under
    (keepsDepth :
      ∀ name property, model.effective.get? name = some property → property.KeepsDepth)
    (agrees :
      ∀ linked ∈ registry.classes, ∀ depth,
        depth < input.toJson.objectDepth →
        Agrees base depth (check linked) (inner linked)) :
    checkWith check registry draws options model (base ++ steps) input =
      (checkWith inner registry (draws.under base) options model steps input).under base := by
  have verdicts :
      present check registry options model (base ++ steps) input =
        (present inner registry options model steps input).map fun entry =>
          (entry.1, entry.2.under base) := by
    unfold present
    rw [List.map_filterMap]
    apply List.filterMap_congr
    rintro ⟨name, property⟩ member
    have has := SortedMap.get?_eq_some_iff.mpr member
    cases found : input.get? name with
    | none =>
        rfl
    | some raw =>
        have same :
            checkPresent check registry options (base ++ (steps ++ [.key name])) property raw =
              (checkPresent inner registry options (steps ++ [.key name]) property raw).under
                base := by
          apply checkPresent_under (keepsDepth name property has)
          intro linked isLinked
          exact agrees linked (Registry.mem_classes_of_linkedClass? isLinked) raw.objectDepth
            (Record.objectDepth_lt_of_get? found)
        simpa using same
  have sameRecord :
      acceptedRecord (present check registry options model (base ++ steps) input) =
        acceptedRecord (present inner registry options model steps input) := by
    unfold acceptedRecord
    rw [verdicts, List.filterMap_map]
    rfl
  simp only [checkWith, sameRecord]
  simp [verdicts, unexpected_under, addDefaults_under, violations_under, Outcome.under,
    Verdict.under, List.flatMap_map, List.map_flatMap]

/--
Where a record stands shows in the places of its failures only, and no more levels are
needed than the record is deep.
-/
theorem checkRecord_under
    (keepsDepth : registry.Every Property.KeepsDepth)
    {levels more : Nat}
    (member : model ∈ registry.classes)
    (enough : input.toJson.objectDepth ≤ levels)
    (alsoEnough : input.toJson.objectDepth ≤ more) :
    checkRecord registry draws options more model (base ++ steps) input =
      (checkRecord registry (draws.under base) options levels model steps input).under base := by
  -- The cast of a value may not nest it deeper, or a record in it could need more levels.
  induction levels generalizing more model steps input with
  | zero =>
      simp [Record.toJson, Json.objectDepth_object] at enough
  | succ levels inductionHypothesis =>
      cases more with
      | zero =>
          simp [Record.toJson, Json.objectDepth_object] at alsoEnough
      | succ more =>
          apply checkWith_under (keepsDepth model member)
          intro linked isClass depth less others members bounded
          have nested := Nat.le_trans (Record.objectDepth_ofMembers_le members) bounded
          exact inductionHypothesis isClass (by omega) (by omega)

/-- A record that is embedded somewhere is checked as it is where it stands alone. -/
theorem checkRecord_eq_under
    (keepsDepth : registry.Every Property.KeepsDepth)
    {levels alone : Nat}
    (member : model ∈ registry.classes)
    (enough : input.toJson.objectDepth ≤ levels)
    (enoughAlone : input.toJson.objectDepth ≤ alone) :
    checkRecord registry draws options levels model steps input =
      (checkRecord registry (draws.under steps) options alone model [] input).under steps := by
  have same :
      checkRecord registry draws options levels model (steps ++ []) input =
        (checkRecord registry (draws.under steps) options alone model [] input).under steps :=
    checkRecord_under keepsDepth member enoughAlone enough
  rwa [List.append_nil] at same

end Validation

end RecordSchema
