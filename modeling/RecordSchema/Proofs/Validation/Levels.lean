import Mathlib.Data.List.Basic
import RecordSchema.Validation.Checking

namespace RecordSchema

/-!
# Levels of a check

The check of a record is given a number of levels.  If no record in it stands deeper than
these reach, then more levels change nothing, whatever the casts of the registry do.  So
there is at most one outcome, and it is found if any number of levels is enough.
-/

namespace Validation

/-- Failures none of which says that the levels were not enough. -/
def Settled (failures : List Failure) : Prop :=
  ∀ failure ∈ failures, failure.kind ≠ .nestedTooDeep

@[simp] theorem settled_nil : Settled [] := by
  simp [Settled]

@[simp] theorem settled_cons_iff
    {first : Failure}
    {rest : List Failure} :
    Settled (first :: rest) ↔ first.kind ≠ .nestedTooDeep ∧ Settled rest := by
  simp [Settled]

@[simp] theorem settled_append_iff
    {first second : List Failure} :
    Settled (first ++ second) ↔ Settled first ∧ Settled second := by
  simp [Settled, or_imp, forall_and]

theorem settled_flatMap_iff
    {items : List α}
    {failuresOf : α → List Failure} :
    Settled (items.flatMap failuresOf) ↔ ∀ item ∈ items, Settled (failuresOf item) := by
  simp only [Settled, List.mem_flatMap]
  exact ⟨fun settled item member failure inItem => settled failure ⟨item, member, inItem⟩,
    fun settled failure ⟨item, member, inItem⟩ => settled item member failure inItem⟩

theorem settled?_eq_some_iff
    {outcome other : Outcome} :
    outcome.settled? = some other ↔ outcome = other ∧ Settled outcome.failures := by
  rw [Outcome.settled?]
  split
  · rename_i tooDeep
    obtain ⟨failure, member, isTooDeep⟩ := List.any_eq_true.mp tooDeep
    simp only [reduceCtorEq, false_iff, not_and]
    exact fun _ settled => settled failure member (by simpa using isTooDeep)
  · rename_i notTooDeep
    have settled : Settled outcome.failures := by
      simpa [Settled] using notTooDeep
    simp [settled]

variable
  {check more : ClassModel → List Step → Record → Outcome}
  {registry : Registry}
  {draws : Draws}
  {options : Options}
  {model : ClassModel}
  {steps : List Step}
  {input : Record}
  {property : Property}
  {levels : Nat}
  {outcome : Outcome}

/-- A check that gives the same wherever another one settles. -/
def Extends (check more : ClassModel → List Step → Record → Outcome) : Prop :=
  ∀ model steps input,
    Settled (check model steps input).failures → more model steps input = check model steps input

theorem checkItems_of_extends
    (grows : Extends check more)
    {items : List Json}
    {position : Nat}
    (settled : Settled (checkItems (check model) steps position items).2) :
    checkItems (more model) steps position items =
      checkItems (check model) steps position items := by
  induction items generalizing position with
  | nil =>
      rfl
  | cons first rest inductionHypothesis =>
      cases first with
      | object members =>
          obtain ⟨firstSettled, restSettled⟩ := settled_append_iff.mp settled
          simp only [checkItems, grows _ _ _ firstSettled, inductionHypothesis restSettled]
      | _ =>
          have restSettled := (settled_cons_iff.mp settled).2
          simp only [checkItems, inductionHypothesis restSettled]

theorem checkNested_of_extends
    (grows : Extends check more)
    {value : Json}
    (settled : Settled (checkNested check registry property steps value).failures) :
    checkNested more registry property steps value =
      checkNested check registry property steps value := by
  revert settled
  rw [checkNested, checkNested]
  split
  · exact fun _ => rfl
  · split
    · exact fun _ => rfl
    · split
      · intro settled
        dsimp only
        rw [grows _ _ _ settled]
      · intro settled
        dsimp only
        rw [checkItems_of_extends grows settled]
      · exact fun _ => rfl

theorem checkPresent_of_extends
    (grows : Extends check more)
    {raw : Json}
    (settled : Settled (checkPresent check registry options steps property raw).failures) :
    checkPresent more registry options steps property raw =
      checkPresent check registry options steps property raw := by
  revert settled
  rw [checkPresent, checkPresent]
  split
  · exact fun _ => rfl
  · split
    · exact fun _ => rfl
    · split
      · exact fun _ => rfl
      · exact checkNested_of_extends grows

theorem checkWith_of_extends
    (grows : Extends check more)
    (settled :
      Settled (checkWith check registry draws options model steps input).failures) :
    checkWith more registry draws options model steps input =
      checkWith check registry draws options model steps input := by
  simp only [checkWith, settled_append_iff, settled_flatMap_iff] at settled
  have presentSettled := settled.1.1.2
  have sameVerdicts :
      present more registry options model steps input =
        present check registry options model steps input := by
    rw [present, present]
    refine List.filterMap_congr fun entry member => ?_
    cases found : input.get? entry.1 with
    | none =>
        rfl
    | some raw =>
        have inVerdicts :
            (entry.1,
                checkPresent check registry options (steps ++ [.key entry.1]) entry.2 raw) ∈
              present check registry options model steps input :=
          List.mem_filterMap.mpr ⟨entry, member, by rw [found]; rfl⟩
        rw [Option.map_some, Option.map_some,
          checkPresent_of_extends grows (presentSettled _ inVerdicts)]
  rw [checkWith, checkWith, sameVerdicts]

/-- What is settled with some levels is the same with more of them. -/
theorem checkRecord_of_settled
    {enough : Nat}
    (settled : Settled (checkRecord registry draws options levels model steps input).failures)
    (atLeast : levels ≤ enough) :
    checkRecord registry draws options enough model steps input =
      checkRecord registry draws options levels model steps input := by
  induction levels generalizing enough model steps input with
  | zero =>
      simp [checkRecord] at settled
  | succ levels inductionHypothesis =>
      obtain ⟨more, rfl⟩ : ∃ more, enough = more + 1 := ⟨enough - 1, by omega⟩
      refine checkWith_of_extends (fun linked place record nestedSettled => ?_) settled
      exact inductionHypothesis nestedSettled (by omega)

/-- The search ends at enough levels. -/
theorem exists_levels_of_checkFrom?
    (found : options.checkFrom? registry draws model steps input levels = some outcome) :
    ∃ enough,
      levels ≤ enough ∧
        checkRecord registry draws options enough model steps input = outcome ∧
          Settled outcome.failures := by
  refine Options.checkFrom?.partial_correctness options registry draws model steps input
    (fun levels outcome =>
      ∃ enough,
        levels ≤ enough ∧
          checkRecord registry draws options enough model steps input = outcome ∧
            Settled outcome.failures)
    (fun search sound levels outcome found => ?_) levels outcome found
  split at found
  · rename_i settledOutcome isSettled
    cases found
    obtain ⟨rfl, settled⟩ := settled?_eq_some_iff.mp isSettled
    exact ⟨levels, Nat.le_refl _, rfl, settled⟩
  · obtain ⟨enough, atLeast, isOutcome⟩ := sound (levels + 1) outcome found
    exact ⟨enough, by omega, isOutcome⟩

/-- The search finds the outcome if some number of levels is enough. -/
theorem checkFrom?_of_settled
    (more : Nat)
    (settled :
      Settled (checkRecord registry draws options (levels + more) model steps input).failures) :
    options.checkFrom? registry draws model steps input levels =
      some (checkRecord registry draws options (levels + more) model steps input) := by
  induction more generalizing levels with
  | zero =>
      rw [Nat.add_zero] at settled ⊢
      rw [Options.checkFrom?, settled?_eq_some_iff.mpr ⟨rfl, settled⟩]
  | succ more inductionHypothesis =>
      rw [Options.checkFrom?]
      cases isSettled : (checkRecord registry draws options levels model steps input).settled? with
      | some outcome =>
          obtain ⟨rfl, alreadySettled⟩ := settled?_eq_some_iff.mp isSettled
          rw [checkRecord_of_settled alreadySettled (Nat.le_add_right _ _)]
      | none =>
          have shift : levels + (more + 1) = levels + 1 + more := by omega
          rw [shift] at settled ⊢
          exact inductionHypothesis settled

/--
The levels that the record itself needs are tried before any more.  Unlike the search, this
first attempt can be evaluated.
-/
theorem check?_eq_or :
    check? registry draws options model steps input =
      (checkRecord registry draws options input.toJson.objectDepth model steps input).settled?.or
        (options.checkFrom? registry draws model steps input (input.toJson.objectDepth + 1)) := by
  rw [check?, Options.checkFrom?]
  split
  · rename_i isSettled
    rw [isSettled, Option.some_or]
  · rename_i isUnsettled
    rw [isUnsettled, Option.none_or]

/-- The outcome of a check is the one that enough levels give. -/
theorem check?_eq_some_iff :
    check? registry draws options model steps input = some outcome ↔
      ∃ levels,
        checkRecord registry draws options levels model steps input = outcome ∧
          Settled outcome.failures := by
  constructor
  · intro found
    obtain ⟨enough, _, isOutcome⟩ := exists_levels_of_checkFrom? found
    exact ⟨enough, isOutcome⟩
  · rintro ⟨levels, rfl, settled⟩
    have same :=
      checkRecord_of_settled settled (Nat.le_add_left levels input.toJson.objectDepth)
    rw [check?, checkFrom?_of_settled levels (by rwa [same]), same]

/-- The outcome of a check is the one that any larger number of levels gives. -/
theorem exists_levels_of_check?
    (found : check? registry draws options model steps input = some outcome)
    (least : Nat) :
    ∃ levels,
      least ≤ levels ∧ checkRecord registry draws options levels model steps input = outcome ∧
        Settled outcome.failures := by
  obtain ⟨levels, rfl, settled⟩ := check?_eq_some_iff.mp found
  exact ⟨max least levels, Nat.le_max_left _ _,
    checkRecord_of_settled settled (Nat.le_max_right _ _), settled⟩

/-- The outcome of a check is the one of all passes, with any larger number of levels below. -/
theorem exists_passes_of_check?
    (found : check? registry draws options model steps input = some outcome)
    (least : Nat) :
    ∃ levels,
      least ≤ levels ∧
        checkRecord registry draws options (levels + 1) model steps input = outcome ∧
          Settled outcome.failures := by
  obtain ⟨enough, atLeast, isOutcome, settled⟩ := exists_levels_of_check? found (least + 1)
  obtain ⟨levels, rfl⟩ : ∃ levels, enough = levels + 1 := ⟨enough - 1, by omega⟩
  exact ⟨levels, by omega, isOutcome, settled⟩

theorem validateRecord_eq_ok_iff
    {output : Record} :
    validateRecord registry draws options model input = .ok output ↔
      check? registry draws options model [] input = some ⟨output, []⟩ := by
  rw [validateRecord]
  cases check? registry draws options model [] input with
  | none =>
      simp
  | some outcome =>
      obtain ⟨record, failures⟩ := outcome
      cases failures with
      | nil =>
          simp
      | cons first rest =>
          simp

theorem checkRecord_of_validateRecord
    {output : Record}
    (accepted : validateRecord registry draws options model input = .ok output) :
    ∃ levels,
      input.toJson.objectDepth ≤ levels ∧
        checkRecord registry draws options levels model [] input = ⟨output, []⟩ := by
  have found := validateRecord_eq_ok_iff.mp accepted
  obtain ⟨levels, atLeast, isOutcome, _⟩ := exists_levels_of_check? found input.toJson.objectDepth
  exact ⟨levels, atLeast, isOutcome⟩

/-- An accepted record is the outcome of all passes over it. -/
theorem validateRecord_ok
    {output : Record}
    (accepted : validateRecord registry draws options model input = .ok output) :
    ∃ levels,
      input.toJson.objectDepth ≤ levels + 1 ∧
        checkWith (checkRecord registry draws options levels) registry draws options model []
          input = ⟨output, []⟩ := by
  obtain ⟨levels, atLeast, clean⟩ := checkRecord_of_validateRecord accepted
  cases levels with
  | zero =>
      cases clean
  | succ levels =>
      exact ⟨levels, atLeast, clean⟩

/-- A record whose passes find no failure is accepted. -/
theorem validateRecord_of_clean
    {output : Record}
    (clean : checkRecord registry draws options levels model [] input = ⟨output, []⟩) :
    validateRecord registry draws options model input = .ok output :=
  validateRecord_eq_ok_iff.mpr (check?_eq_some_iff.mpr ⟨levels, clean, settled_nil⟩)

/-- A record with failures is rejected for all of them. -/
theorem validateRecord_of_failures
    (found : check? registry draws options model [] input = some outcome)
    (fails : outcome.failures ≠ []) :
    validateRecord registry draws options model input =
      .error ⟨model.name, outcome.failures⟩ := by
  rw [validateRecord, found]
  dsimp only
  rw [if_neg (by simpa using fails)]

end Validation

end RecordSchema
