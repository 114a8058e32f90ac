import Mathlib.Data.List.Perm.Basic
import RecordSchema.Proofs.Validation.Standalone

namespace RecordSchema

/-!
# Changes in parts

A change may be checked in parts.  A record that joins two records without a common key
has their failures, in some order, and the values of both, whatever functions cast the
values.  So what is found out about one property depends on its value alone.
-/

open Registry (compile)

namespace Validation

variable
  {check : ClassModel → List Step → Record → Outcome}
  {registry : Registry}
  {draws : Draws}
  {options : Options}
  {model : ClassModel}
  {steps : List Step}
  {first second : Record}
  {name : String}

/-- An outcome with the failures of two others, in some order, and the values of both. -/
structure Joins (first second outcome : Outcome) : Prop where
  failures : outcome.failures.Perm (first.failures ++ second.failures)
  disjoint : first.record.Disjoint second.record
  record : outcome.record = first.record.union second.record

section Update

variable
  {input : Record}
  (updates : options.mode = .update)

include updates

/-- A change takes no defaults. -/
theorem addDefaults_of_update
    {record : Record} :
    addDefaults draws options model steps input record = ⟨record, []⟩ := by
  simp only [addDefaults, updates]

theorem record_checkWith :
    (checkWith check registry draws options model steps input).record =
      acceptedRecord (present check registry options model steps input) := by
  rw [checkWith]
  dsimp only
  rw [addDefaults_of_update updates]

theorem failures_checkWith :
    (checkWith check registry draws options model steps input).failures =
      unexpected options model steps input ++
        ((present check registry options model steps input).flatMap fun entry =>
          entry.2.failures) ++
        (checkWith check registry draws options model steps input).record.entries.flatMap
          (violations model steps) := by
  simp only [checkWith, addDefaults_of_update updates, List.append_nil]

end Update

theorem perm_append_append
    (first second third fourth : List α) :
    ((first ++ second) ++ (third ++ fourth)).Perm ((first ++ third) ++ (second ++ fourth)) := by
  rw [List.append_assoc, List.append_assoc]
  exact (List.perm_append_comm_assoc second third fourth).append_left first

section Union

variable
  (disjoint : first.Disjoint second)

include disjoint

theorem perm_unexpected_union :
    (unexpected options model steps (first.union second)).Perm
      (unexpected options model steps first ++ unexpected options model steps second) := by
  rw [unexpected_eq_flatMap, unexpected_eq_flatMap, unexpected_eq_flatMap, ← List.flatMap_append]
  exact (SortedMap.perm_entries_union disjoint).flatMap_right _

theorem presentEntry_union :
    presentEntry check registry options steps (first.union second) = fun entry =>
      presentEntry check registry options steps first entry ++
        presentEntry check registry options steps second entry := by
  funext entry
  rw [presentEntry, presentEntry, presentEntry, SortedMap.get?_union]
  rcases disjoint entry.1 with absent | absent <;> simp [absent]

theorem perm_present_union :
    ((present check registry options model steps (first.union second)).flatMap fun entry =>
        entry.2.failures).Perm
      (((present check registry options model steps first).flatMap fun entry =>
          entry.2.failures) ++
        (present check registry options model steps second).flatMap fun entry =>
          entry.2.failures) := by
  rw [flatMap_present, flatMap_present, flatMap_present, presentEntry_union disjoint]
  exact (List.flatMap_append_perm _ _ _).symm

theorem disjoint_acceptedRecord :
    (acceptedRecord (present check registry options model steps first)).Disjoint
      (acceptedRecord (present check registry options model steps second)) := by
  intro key
  rw [get?_acceptedRecord_present, get?_acceptedRecord_present]
  refine (disjoint key).imp (fun absent => ?_) (fun absent => ?_)
  · simp [absent]
  · simp [absent]

theorem acceptedRecord_union :
    acceptedRecord (present check registry options model steps (first.union second)) =
      (acceptedRecord (present check registry options model steps first)).union
        (acceptedRecord (present check registry options model steps second)) := by
  refine SortedMap.ext_get? fun key => ?_
  rw [SortedMap.get?_union, get?_acceptedRecord_present, get?_acceptedRecord_present,
    get?_acceptedRecord_present, SortedMap.get?_union]
  cases model.effective.get? key with
  | none =>
      rfl
  | some property =>
      rcases disjoint key with absent | absent <;> simp [absent]

/-- The outcome of a change is put together from those of its parts. -/
theorem joins_checkWith
    (updates : options.mode = .update) :
    Joins (checkWith check registry draws options model steps first)
      (checkWith check registry draws options model steps second)
      (checkWith check registry draws options model steps (first.union second)) := by
  have disjointRecords :
      (checkWith check registry draws options model steps first).record.Disjoint
        (checkWith check registry draws options model steps second).record := by
    rw [record_checkWith updates, record_checkWith updates]
    exact disjoint_acceptedRecord disjoint
  have isUnion :
      (checkWith check registry draws options model steps (first.union second)).record =
        (checkWith check registry draws options model steps first).record.union
          (checkWith check registry draws options model steps second).record := by
    rw [record_checkWith updates, record_checkWith updates, record_checkWith updates]
    exact acceptedRecord_union disjoint
  have violationsUnion :=
    (SortedMap.perm_entries_union disjointRecords).flatMap_right (violations model steps)
  rw [← isUnion, List.flatMap_append] at violationsUnion
  refine ⟨?_, disjointRecords, isUnion⟩
  rw [failures_checkWith updates, failures_checkWith updates, failures_checkWith updates]
  refine (((perm_unexpected_union disjoint).append (perm_present_union disjoint)).append
    violationsUnion).trans ?_
  exact ((perm_append_append _ _ _ _).append_right _).trans (perm_append_append _ _ _ _)

end Union

theorem Joins.settled_iff
    {firstOutcome secondOutcome outcome : Outcome}
    (joins : Joins firstOutcome secondOutcome outcome) :
    Settled outcome.failures ↔
      Settled firstOutcome.failures ∧ Settled secondOutcome.failures := by
  rw [← settled_append_iff, Settled, Settled]
  simp only [joins.failures.mem_iff]

theorem Joins.clean_iff
    {firstOutcome secondOutcome outcome : Outcome}
    (joins : Joins firstOutcome secondOutcome outcome) :
    outcome.failures = [] ↔ firstOutcome.failures = [] ∧ secondOutcome.failures = [] := by
  have sameFailures := joins.failures
  constructor
  · intro clean
    rw [clean] at sameFailures
    exact List.append_eq_nil_iff.mp sameFailures.nil_eq.symm
  · rintro ⟨firstClean, secondClean⟩
    rw [firstClean, secondClean] at sameFailures
    exact sameFailures.eq_nil

/-- Two records are checked with the same number of levels. -/
theorem exists_levels_of_check?_check?
    {input other : Record}
    {outcome otherOutcome : Outcome}
    (found : check? registry draws options model steps input = some outcome)
    (otherFound : check? registry draws options model steps other = some otherOutcome) :
    ∃ levels,
      checkRecord registry draws options (levels + 1) model steps input = outcome ∧
        checkRecord registry draws options (levels + 1) model steps other = otherOutcome := by
  obtain ⟨least, _, isOutcome, settled⟩ := exists_levels_of_check? found 0
  obtain ⟨levels, atLeast, isOther, _⟩ := exists_passes_of_check? otherFound least
  refine ⟨levels, ?_, isOther⟩
  rw [← isOutcome] at settled
  rw [checkRecord_of_settled settled (by omega), isOutcome]

/-- The value of one property decides alone what becomes of it in a change. -/
theorem checkWith_of_same
    {input other : Record}
    (descends : Descends check)
    (updates : options.mode = .update)
    (same : input.get? name = other.get? name) :
    (checkWith check registry draws options model steps input).record.get? name =
        (checkWith check registry draws options model steps other).record.get? name ∧
      ((checkWith check registry draws options model steps input).failures.filter fun failure =>
          failure.location.Within (steps ++ [.key name])) =
        (checkWith check registry draws options model steps other).failures.filter fun failure =>
          failure.location.Within (steps ++ [.key name]) := by
  have sameValue :
      (checkWith check registry draws options model steps input).record.get? name =
        (checkWith check registry draws options model steps other).record.get? name := by
    rw [record_checkWith updates, record_checkWith updates, get?_acceptedRecord_present,
      get?_acceptedRecord_present, same]
  have sameBrought :
      ∀ property,
        presentEntry check registry options steps input (name, property) =
          presentEntry check registry options steps other (name, property) := by
    intro property
    rw [presentEntry, presentEntry, same]
  refine ⟨sameValue, ?_⟩
  rw [filter_checkWith descends confines_within, filter_checkWith descends confines_within,
    sameValue, same, addDefaults_of_update updates, addDefaults_of_update updates]
  simp only [sameBrought]

section Change

variable
  (updates : options.mode = .update)
  (disjoint : first.Disjoint second)

include updates disjoint

theorem joins_checkRecord
    (levels : Nat) :
    Joins (checkRecord registry draws options (levels + 1) model steps first)
      (checkRecord registry draws options (levels + 1) model steps second)
      (checkRecord registry draws options (levels + 1) model steps (first.union second)) :=
  joins_checkWith disjoint updates

/-- A record has an outcome if its parts have one. -/
theorem exists_joins_of_parts
    {firstOutcome secondOutcome : Outcome}
    (firstFound : check? registry draws options model steps first = some firstOutcome)
    (secondFound : check? registry draws options model steps second = some secondOutcome) :
    ∃ outcome,
      check? registry draws options model steps (first.union second) = some outcome ∧
        Joins firstOutcome secondOutcome outcome := by
  obtain ⟨_, _, firstSettled⟩ := check?_eq_some_iff.mp firstFound
  obtain ⟨_, _, secondSettled⟩ := check?_eq_some_iff.mp secondFound
  obtain ⟨levels, rfl, rfl⟩ := exists_levels_of_check?_check? firstFound secondFound
  refine ⟨_, check?_eq_some_iff.mpr ⟨levels + 1, rfl, ?_⟩,
    joins_checkRecord updates disjoint levels⟩
  exact (joins_checkRecord updates disjoint levels).settled_iff.mpr ⟨firstSettled, secondSettled⟩

/-- The parts of a record have outcomes if the record has one. -/
theorem exists_joins_of_union
    {outcome : Outcome}
    (found : check? registry draws options model steps (first.union second) = some outcome) :
    ∃ firstOutcome secondOutcome,
      check? registry draws options model steps first = some firstOutcome ∧
        check? registry draws options model steps second = some secondOutcome ∧
          Joins firstOutcome secondOutcome outcome := by
  obtain ⟨levels, _, rfl, settled⟩ := exists_passes_of_check? found 0
  obtain ⟨firstSettled, secondSettled⟩ :=
    (joins_checkRecord updates disjoint levels).settled_iff.mp settled
  exact ⟨_, _, check?_eq_some_iff.mpr ⟨levels + 1, rfl, firstSettled⟩,
    check?_eq_some_iff.mpr ⟨levels + 1, rfl, secondSettled⟩,
    joins_checkRecord updates disjoint levels⟩

/-- A record is accepted exactly if its parts are. -/
theorem validateRecord_union_iff
    {output : Record} :
    validateRecord registry draws options model (first.union second) = .ok output ↔
      ∃ firstOutput secondOutput,
        validateRecord registry draws options model first = .ok firstOutput ∧
          validateRecord registry draws options model second = .ok secondOutput ∧
            firstOutput.Disjoint secondOutput ∧ output = firstOutput.union secondOutput := by
  simp only [validateRecord_eq_ok_iff]
  constructor
  · intro accepted
    obtain ⟨firstOutcome, secondOutcome, firstFound, secondFound, joins⟩ :=
      exists_joins_of_union updates disjoint accepted
    obtain ⟨firstClean, secondClean⟩ := joins.clean_iff.mp rfl
    rw [outcome_eq_of_clean firstClean] at firstFound
    rw [outcome_eq_of_clean secondClean] at secondFound
    exact ⟨_, _, firstFound, secondFound, joins.disjoint, joins.record⟩
  · rintro ⟨firstOutput, secondOutput, firstFound, secondFound, _, rfl⟩
    obtain ⟨outcome, found, joins⟩ := exists_joins_of_parts updates disjoint firstFound secondFound
    rw [found, outcome_eq_of_clean (joins.clean_iff.mpr ⟨rfl, rfl⟩), joins.record]

end Change

/--
A change that joins two records without a common key has an outcome exactly if both have
one, with the failures of both and the values of both, and it is accepted exactly if both
are.  What becomes of a property depends on no other property.  If no cast nests its value
deeper, then there is an outcome.
-/
theorem update_decomposes
    (updates : options.mode = .update)
    (disjoint : first.Disjoint second) :
    (registry.Every Property.KeepsDepth →
      model ∈ registry.classes →
      ∃ outcome, check? registry draws options model steps (first.union second) = some outcome) ∧
      (∀ firstOutcome secondOutcome,
        check? registry draws options model steps first = some firstOutcome →
        check? registry draws options model steps second = some secondOutcome →
        ∃ outcome,
          check? registry draws options model steps (first.union second) = some outcome ∧
            Joins firstOutcome secondOutcome outcome) ∧
      (∀ outcome,
        check? registry draws options model steps (first.union second) = some outcome →
        ∃ firstOutcome secondOutcome,
          check? registry draws options model steps first = some firstOutcome ∧
            check? registry draws options model steps second = some secondOutcome ∧
              Joins firstOutcome secondOutcome outcome) ∧
      (∀ output,
        validateRecord registry draws options model (first.union second) = .ok output ↔
          ∃ firstOutput secondOutput,
            validateRecord registry draws options model first = .ok firstOutput ∧
              validateRecord registry draws options model second = .ok secondOutput ∧
                firstOutput.Disjoint secondOutput ∧ output = firstOutput.union secondOutput) ∧
      ∀ input other name outcome otherOutcome,
        input.get? name = other.get? name →
        check? registry draws options model steps input = some outcome →
        check? registry draws options model steps other = some otherOutcome →
        outcome.record.get? name = otherOutcome.record.get? name ∧
          (outcome.failures.filter fun failure =>
              failure.location.Within (steps ++ [.key name])) =
            otherOutcome.failures.filter fun failure =>
              failure.location.Within (steps ++ [.key name]) := by
  refine ⟨fun keepsDepth member => ⟨_, check?_of_keepsDepth keepsDepth member (Nat.le_refl _)⟩,
    fun _ _ => exists_joins_of_parts updates disjoint,
    fun _ => exists_joins_of_union updates disjoint,
    fun _ => validateRecord_union_iff updates disjoint, ?_⟩
  intro input other name outcome otherOutcome same found otherFound
  obtain ⟨levels, rfl, rfl⟩ := exists_levels_of_check?_check? found otherFound
  exact checkWith_of_same descends_checkRecord updates same

/-- A new address. -/
def newAddress : Record :=
  .ofList [("address", .object mainStreet)]

/-- A list of earlier addresses. -/
def earlierAddresses : Record :=
  .ofList [("earlier", .array [.object upstairs])]

theorem disjoint_addresses : newAddress.Disjoint earlierAddresses := by
  intro key
  by_cases isAddress : key = "address"
  · subst isAddress
    exact .inr rfl
  · left
    rw [newAddress, SortedMap.get?_ofList, List.reverse_singleton, SortedMap.lookup_cons_eq,
      if_neg isAddress]
    rfl

private theorem moving_observed :
    ((DefinitionSet.ofDocument? tenantDocument).bind fun set =>
      (compile [set]).result.toOption.bind fun registry =>
        (registry.get? "Tenant").bind fun model =>
          (check? registry ⟨fun _ => "", fun _ => 0⟩ { mode := .update } model []
              newAddress).bind fun first =>
            (check? registry ⟨fun _ => "", fun _ => 0⟩ { mode := .update } model []
                earlierAddresses).map fun second =>
              (first.failures.map Failure.report, second.failures.map Failure.report)) =
      some
        ([⟨"address", .object mainStreet, .readOnly⟩],
          [⟨"earlier.0.floor", .string "upstairs",
            .cast ⟨"integer", "'upstairs' is not an integer"⟩⟩]) := by
  simp only [check?_eq_or]
  with_unfolding_all rfl

/-- The tenant who moves and lists earlier addresses hears of what is wrong with both. -/
theorem update_decomposes_moving :
    ∃ set registry model outcome,
      DefinitionSet.ofDocument? tenantDocument = some set ∧
        (compile [set]).result = .ok registry ∧
          registry.get? "Tenant" = some model ∧
            newAddress.Disjoint earlierAddresses ∧
              check? registry ⟨fun _ => "", fun _ => 0⟩ { mode := .update } model []
                  (newAddress.union earlierAddresses) = some outcome ∧
                (outcome.failures.map Failure.report).Perm
                  [⟨"address", .object mainStreet, .readOnly⟩,
                    ⟨"earlier.0.floor", .string "upstairs",
                      .cast ⟨"integer", "'upstairs' is not an integer"⟩⟩] := by
  have observed := moving_observed
  simp only [Option.bind_eq_some_iff, Option.map_eq_some_iff, Prod.mk.injEq] at observed
  obtain ⟨set, isRead, registry, compiled, model, found, first, firstFound, second, secondFound,
    firstReports, secondReports⟩ := observed
  obtain ⟨outcome, isOutcome, joins⟩ :=
    (update_decomposes rfl disjoint_addresses).2.1 first second firstFound secondFound
  refine ⟨set, registry, model, outcome, isRead, Registry.ok_of_toOption compiled, found,
    disjoint_addresses, isOutcome, ?_⟩
  have reports := joins.failures.map Failure.report
  rwa [List.map_append, firstReports, secondReports] at reports

end Validation

end RecordSchema
