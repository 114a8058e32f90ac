import Mathlib.Data.List.Perm.Basic
import RecordSchema.Proofs.Validation.Standalone

namespace RecordSchema

/-!
# Values that are left out

Where no default looks at the record, each property of a new record is decided by itself:
by the value that the record brings, or else by the default.  A record that leaves out a
value is then checked as one that brings the default in its place.  Only the pass that
reports a failure may be another one, and with it the order of the failures.
-/

open Registry (compile)

namespace Validation

variable
  {check : ClassModel → List Step → Record → Outcome}
  {registry : Registry}
  {draws : Draws}
  {options : Options}
  {model : ClassModel}
  {steps : List Step}
  {input other : Record}
  {name : String}
  {property : Property}

/-- Outcomes with the same values and, in some order, the same failures. -/
structure SameOutcome (first second : Outcome) : Prop where
  failures : first.failures.Perm second.failures
  record : first.record = second.record

theorem SameOutcome.symm
    {first second : Outcome}
    (agrees : SameOutcome first second) :
    SameOutcome second first where
  failures := agrees.failures.symm
  record := agrees.record.symm

theorem SameOutcome.clean
    {first second : Outcome}
    (agrees : SameOutcome first second)
    (clean : first.failures = []) :
    second.failures = [] := by
  have same := agrees.failures
  rw [clean] at same
  exact same.nil_eq.symm

theorem SameOutcome.settled
    {first second : Outcome}
    (agrees : SameOutcome first second)
    (settled : Settled first.failures) :
    Settled second.failures :=
  fun failure member => settled failure (agrees.failures.mem_iff.mpr member)

/-- Records whose checks agree at all levels have outcomes that agree, if one has an outcome. -/
theorem exists_sameOutcome_of_check?
    (agrees :
      ∀ levels,
        SameOutcome (checkRecord registry draws options (levels + 1) model steps input)
          (checkRecord registry draws options (levels + 1) model steps other))
    {outcome : Outcome}
    (found : check? registry draws options model steps input = some outcome) :
    ∃ otherOutcome,
      check? registry draws options model steps other = some otherOutcome ∧
        SameOutcome outcome otherOutcome := by
  obtain ⟨levels, _, rfl, settled⟩ := exists_passes_of_check? found 0
  exact ⟨_, check?_eq_some_iff.mpr ⟨levels + 1, rfl, (agrees levels).settled settled⟩,
    agrees levels⟩

/-- The same record, or a rejection of the same class for the same failures in some order. -/
inductive SameAnswer : Except Rejection Record → Except Rejection Record → Prop where
  | accepted
      {output : Record} :
      SameAnswer (.ok output) (.ok output)
  | rejected
      {className : String}
      {failures others : List Failure} :
      failures.Perm others →
      SameAnswer (.error ⟨className, failures⟩) (.error ⟨className, others⟩)

/-- Outcomes that agree give the same answer. -/
theorem sameAnswer_of_sameOutcome
    {outcome otherOutcome : Outcome}
    (found : check? registry draws options model [] input = some outcome)
    (otherFound : check? registry draws options model [] other = some otherOutcome)
    (agrees : SameOutcome outcome otherOutcome) :
    SameAnswer (validateRecord registry draws options model input)
      (validateRecord registry draws options model other) := by
  by_cases clean : outcome.failures = []
  · rw [outcome_eq_of_clean clean] at found
    rw [outcome_eq_of_clean (agrees.clean clean), ← agrees.record] at otherFound
    rw [validateRecord_eq_ok_iff.mpr found, validateRecord_eq_ok_iff.mpr otherFound]
    exact .accepted
  · have otherFails : otherOutcome.failures ≠ [] :=
      fun otherClean => clean (agrees.symm.clean otherClean)
    rw [validateRecord_of_failures found clean, validateRecord_of_failures otherFound otherFails]
    exact .rejected agrees.failures

/-- A property whose default does not look at the record. -/
def IgnoresRecord (property : Property) : Prop :=
  ∀ source, property.default ≠ some (.function source)

theorem checkAbsent_of_ignoresRecord
    (ignores : IgnoresRecord property)
    (record : Record) :
    checkAbsent draws steps property record = checkAbsent draws steps property .empty := by
  rw [checkAbsent, checkAbsent]
  cases isDefault : property.default with
  | none =>
      rfl
  | some default =>
      cases default with
      | function source => exact absurd isDefault (ignores source)
      | _ => rfl

/-- What the second pass decides on a property. -/
def absentVerdict
    (draws : Draws)
    (steps : List Step)
    (input : Record)
    (entry : String × Property) : Verdict :=
  if input.contains entry.1 || entry.2.generated then
    ⟨none, []⟩
  else
    checkAbsent draws (steps ++ [.key entry.1]) entry.2 .empty

/-- What the passes together decide on a property of a new record. -/
def entryVerdict
    (check : ClassModel → List Step → Record → Outcome)
    (registry : Registry)
    (draws : Draws)
    (options : Options)
    (steps : List Step)
    (input : Record)
    (entry : String × Property) : Verdict :=
  match input.get? entry.1 with
  | some raw => checkPresent check registry options (steps ++ [.key entry.1]) entry.2 raw
  | none => absentVerdict draws steps input entry

/-- What is decided on a property depends on its own value alone. -/
theorem entryVerdict_of_same
    {entry : String × Property}
    (same : input.get? entry.1 = other.get? entry.1) :
    entryVerdict check registry draws options steps input entry =
      entryVerdict check registry draws options steps other entry := by
  rw [entryVerdict, entryVerdict, absentVerdict, absentVerdict, SortedMap.contains,
    SortedMap.contains, same]

/-- The second pass decides nothing on a property that the record brings. -/
theorem absentVerdict_of_brought
    {raw : Json}
    {entry : String × Property}
    (found : input.get? entry.1 = some raw) :
    absentVerdict draws steps input entry = ⟨none, []⟩ := by
  have contained : input.contains entry.1 = true :=
    SortedMap.contains_iff.mpr ⟨raw, found⟩
  rw [absentVerdict, contained]
  rfl

theorem failures_entryVerdict
    (entry : String × Property) :
    (entryVerdict check registry draws options steps input entry).failures =
      presentEntry check registry options steps input entry ++
        (absentVerdict draws steps input entry).failures := by
  rw [entryVerdict, presentEntry]
  cases found : input.get? entry.1 with
  | none => simp
  | some raw => simp [absentVerdict_of_brought found]

section Second

variable
  {outcome : Outcome}
  {entry : String × Property}
  {entries : List (String × Property)}

theorem failures_addAbsent
    (ignores : IgnoresRecord entry.2) :
    (addAbsent draws steps input outcome entry).failures =
      outcome.failures ++ (absentVerdict draws steps input entry).failures := by
  rw [addAbsent, absentVerdict]
  split
  · simp
  · rw [checkAbsent_of_ignoresRecord ignores]

theorem get?_addAbsent
    (ignores : IgnoresRecord entry.2)
    (key : String) :
    (addAbsent draws steps input outcome entry).record.get? key =
      if key = entry.1 then
        (absentVerdict draws steps input entry).value.or (outcome.record.get? key)
      else
        outcome.record.get? key := by
  rw [addAbsent, absentVerdict]
  split
  · simp
  · dsimp only
    rw [checkAbsent_of_ignoresRecord ignores]
    cases (checkAbsent draws (steps ++ [.key entry.1]) entry.2 .empty).value with
    | none => simp
    | some value => rw [SortedMap.get?_insert, Option.some_or]

/-- The failures of the second pass are those of each property, in order. -/
theorem failures_foldl_addAbsent
    (ignore : ∀ entry ∈ entries, IgnoresRecord entry.2) :
    (entries.foldl (addAbsent draws steps input) outcome).failures =
      outcome.failures ++
        entries.flatMap fun entry => (absentVerdict draws steps input entry).failures := by
  induction entries generalizing outcome with
  | nil =>
      simp
  | cons first rest inductionHypothesis =>
      obtain ⟨firstIgnores, restIgnore⟩ := List.forall_mem_cons.mp ignore
      rw [List.foldl_cons, inductionHypothesis restIgnore, failures_addAbsent firstIgnores,
        List.flatMap_cons, List.append_assoc]

/-- The values of the second pass are those of each property, and else the earlier ones. -/
theorem get?_foldl_addAbsent
    (ignore : ∀ entry ∈ entries, IgnoresRecord entry.2)
    (sorted : entries.Pairwise fun first second => first.1 < second.1)
    (key : String) :
    (entries.foldl (addAbsent draws steps input) outcome).record.get? key =
      ((entries.lookup key).bind fun property =>
        (absentVerdict draws steps input (key, property)).value).or
          (outcome.record.get? key) := by
  induction entries generalizing outcome with
  | nil =>
      rfl
  | cons first rest inductionHypothesis =>
      obtain ⟨firstIgnores, restIgnore⟩ := List.forall_mem_cons.mp ignore
      obtain ⟨before, restSorted⟩ := List.pairwise_cons.mp sorted
      rw [List.foldl_cons, inductionHypothesis restIgnore restSorted,
        get?_addAbsent firstIgnores, SortedMap.lookup_cons_eq]
      by_cases atFirst : key = first.1
      · subst atFirst
        have absent : rest.lookup first.1 = none := by
          rw [List.lookup_eq_none_iff]
          intro entry member
          simpa using String.ne_of_lt (before entry member)
        rw [if_pos rfl, if_pos rfl, absent]
        rfl
      · rw [if_neg atFirst, if_neg atFirst]

end Second

/-- A class whose defaults do not look at the record. -/
def DecidesAlone (model : ClassModel) : Prop :=
  ∀ name property, model.effective.get? name = some property → IgnoresRecord property

section Create

variable
  (creates : options.mode = .create)
  (decidesAlone : DecidesAlone model)

include creates decidesAlone

/-- The value of a property of a new record is the one that is decided on it. -/
theorem get?_checkWith_of_create
    (key : String) :
    (checkWith check registry draws options model steps input).record.get? key =
      (model.effective.get? key).bind fun property =>
        (entryVerdict check registry draws options steps input (key, property)).value := by
  have ignore : ∀ entry ∈ model.effective.entries, IgnoresRecord entry.2 :=
    fun entry member => decidesAlone entry.1 entry.2 (SortedMap.get?_eq_some_iff.mpr member)
  simp only [checkWith, addDefaults, creates]
  rw [get?_foldl_addAbsent ignore model.effective.sorted, get?_acceptedRecord_present]
  change ((model.effective.get? key).bind _).or _ = _
  cases model.effective.get? key with
  | none =>
      rfl
  | some property =>
      simp only [Option.bind_some, entryVerdict]
      cases found : input.get? key with
      | none => simp
      | some raw => rw [absentVerdict_of_brought found, Option.none_or, Option.bind_some]

/-- The failures of a new record are those of its keys, of each property, and of its values. -/
theorem perm_failures_checkWith_of_create :
    (checkWith check registry draws options model steps input).failures.Perm
      (unexpected options model steps input ++
        (model.effective.entries.flatMap fun entry =>
          (entryVerdict check registry draws options steps input entry).failures) ++
        (checkWith check registry draws options model steps input).record.entries.flatMap
          (violations model steps)) := by
  have ignore : ∀ entry ∈ model.effective.entries, IgnoresRecord entry.2 :=
    fun entry member => decidesAlone entry.1 entry.2 (SortedMap.get?_eq_some_iff.mpr member)
  simp only [failures_entryVerdict]
  simp only [checkWith, addDefaults, creates]
  rw [failures_foldl_addAbsent ignore, flatMap_present, List.nil_append, List.append_assoc
    (unexpected options model steps input)]
  exact ((List.flatMap_append_perm _ _ _).append_left _).append_right _

/-- New records agree if their keys fail alike and each property is decided alike. -/
theorem sameOutcome_checkWith
    (sameKeys : unexpected options model steps input = unexpected options model steps other)
    (sameVerdicts :
      ∀ name property,
        model.effective.get? name = some property →
        entryVerdict check registry draws options steps input (name, property) =
          entryVerdict check registry draws options steps other (name, property)) :
    SameOutcome (checkWith check registry draws options model steps input)
      (checkWith check registry draws options model steps other) := by
  have sameRecord :
      (checkWith check registry draws options model steps input).record =
        (checkWith check registry draws options model steps other).record := by
    refine SortedMap.ext_get? fun key => ?_
    rw [get?_checkWith_of_create creates decidesAlone,
      get?_checkWith_of_create creates decidesAlone]
    cases has : model.effective.get? key with
    | none => rfl
    | some property => rw [Option.bind_some, Option.bind_some, sameVerdicts key property has]
  have sameFailures :
      (model.effective.entries.flatMap fun entry =>
          (entryVerdict check registry draws options steps input entry).failures) =
        model.effective.entries.flatMap fun entry =>
          (entryVerdict check registry draws options steps other entry).failures := by
    apply List.flatMap_congr
    intro entry member
    rw [sameVerdicts entry.1 entry.2 (SortedMap.get?_eq_some_iff.mpr member)]
  refine ⟨?_, sameRecord⟩
  apply (perm_failures_checkWith_of_create creates decidesAlone).trans
  rw [sameKeys, sameFailures, sameRecord]
  exact (perm_failures_checkWith_of_create creates decidesAlone).symm

end Create

section WrittenOut

variable
  {value : Json}
  (has : model.effective.get? name = some property)
  (notGenerated : property.generated = false)
  (isDefault : property.default = some (.constant value))
  (isPresent : value.isNull = false)
  (holdsNone : property.type.isEmbedded = false ∨ registry.linkedClass? property = none)
  (absent : input.contains name = false)

include has in
/-- A key that the class declares adds no failure of a key. -/
theorem unexpected_insert
    (value : Json) :
    unexpected options model steps (input.insert name value) =
      unexpected options model steps input := by
  have declared : model.effective.contains name = true :=
    SortedMap.contains_iff.mpr ⟨property, has⟩
  have expected : ∀ value, unexpectedEntry options model steps (name, value) = [] := by
    intro value
    simp [unexpectedEntry, declared]
  rw [unexpected_eq_flatMap, unexpected_eq_flatMap]
  apply SortedMap.flatMap_insertEntry input.sorted
  simp [expected]

include notGenerated isDefault isPresent holdsNone absent in
/-- A default is decided on alike where it is put in and where it is brought. -/
theorem entryVerdict_insert_default
    (creates : options.mode = .create) :
    entryVerdict check registry draws options steps (input.insert name value) (name, property) =
      entryVerdict check registry draws options steps input (name, property) := by
  have notBrought : input.get? name = none :=
    SortedMap.contains_eq_false_iff.mp absent
  have noRecords : ∀ cast, ¬HoldsRecords registry property cast := by
    intro cast holds
    obtain ⟨isEmbedded, isLinked, _⟩ := holds
    rcases holdsNone with notEmbedded | notLinked
    · rw [notEmbedded] at isEmbedded
      cases isEmbedded
    · rw [notLinked] at isLinked
      cases isLinked
  have brought :
      entryVerdict check registry draws options steps (input.insert name value)
          (name, property) =
        checkPresent check registry options (steps ++ [.key name]) property value := by
    simp only [entryVerdict, SortedMap.get?_insert_self]
  have putIn :
      entryVerdict check registry draws options steps input (name, property) =
        checkAbsent draws (steps ++ [.key name]) property .empty := by
    simp only [entryVerdict, notBrought, absentVerdict, absent, notGenerated, Bool.or_self,
      Bool.false_eq_true, if_false]
  rw [brought, putIn, checkPresent, checkAbsent, isDefault, creates]
  simp only [DefaultValue.resolve, isPresent, reduceCtorEq, decide_false, Bool.false_and,
    Bool.false_eq_true, if_false]
  cases property.castValue value with
  | error error => rfl
  | ok cast => exact checkNested_of_not_holdsRecords (noRecords cast)

include has notGenerated isDefault isPresent holdsNone absent in
/-- A new record that leaves out a default agrees with one that brings it. -/
theorem sameOutcome_insert_default
    (creates : options.mode = .create)
    (decidesAlone : DecidesAlone model) :
    SameOutcome (checkWith check registry draws options model steps input)
      (checkWith check registry draws options model steps (input.insert name value)) := by
  apply sameOutcome_checkWith creates decidesAlone (unexpected_insert has value).symm
  intro key entry found
  by_cases isName : key = name
  · subst isName
    cases has.symm.trans found
    exact
      (entryVerdict_insert_default notGenerated isDefault isPresent holdsNone absent creates).symm
  · exact entryVerdict_of_same (SortedMap.get?_insert_of_ne input isName value).symm

include has notGenerated isDefault isPresent holdsNone absent in
/--
A new record without a value for a property is answered as the record with the default of the
property in its place: both have the same output, or the same failures in some order.  There
is an outcome for one of them just when there is one for the other, and always where no cast
nests its value deeper.
-/
theorem omitted_as_default
    (creates : options.mode = .create)
    (decidesAlone : DecidesAlone model) :
    (registry.Every Property.KeepsDepth →
      model ∈ registry.classes →
      (check? registry draws options model [] input).isSome = true) ∧
      ((check? registry draws options model [] input).isSome =
        (check? registry draws options model [] (input.insert name value)).isSome) ∧
        ((check? registry draws options model [] input).isSome = true →
          SameAnswer (validateRecord registry draws options model input)
            (validateRecord registry draws options model (input.insert name value))) := by
  have agrees :
      ∀ levels,
        SameOutcome (checkRecord registry draws options (levels + 1) model [] input)
          (checkRecord registry draws options (levels + 1) model [] (input.insert name value)) :=
    fun levels =>
      sameOutcome_insert_default has notGenerated isDefault isPresent holdsNone absent creates
        decidesAlone
  refine ⟨fun keepsDepth member => ?_, ?_, fun isSome => ?_⟩
  · rw [check?_of_keepsDepth keepsDepth member (Nat.le_refl _)]
    rfl
  · rw [Bool.eq_iff_iff, Option.isSome_iff_exists, Option.isSome_iff_exists]
    constructor
    · rintro ⟨outcome, found⟩
      obtain ⟨otherOutcome, otherFound, _⟩ := exists_sameOutcome_of_check? agrees found
      exact ⟨otherOutcome, otherFound⟩
    · rintro ⟨outcome, found⟩
      obtain ⟨otherOutcome, otherFound, _⟩ :=
        exists_sameOutcome_of_check? (fun levels => (agrees levels).symm) found
      exact ⟨otherOutcome, otherFound⟩
  · obtain ⟨outcome, found⟩ := Option.isSome_iff_exists.mp isSome
    obtain ⟨otherOutcome, otherFound, outcomesAgree⟩ := exists_sameOutcome_of_check? agrees found
    exact sameAnswer_of_sameOutcome found otherFound outcomesAgree

end WrittenOut

/-- A document of tasks, which need a code, with a default that is no integer. -/
def taskDocument : Json.Document :=
  .ofJson
    (.object
      [("Task",
        .object
          [("properties",
            .array
              [.object
                [("name", .string "code"), ("type", .string "string"),
                  ("mandatory", .bool true), ("nullable", .bool false)],
                .object
                  [("name", .string "priority"), ("type", .string "integer"),
                    ("default", .string "high")]])])])

private theorem task_observed :
    ((DefinitionSet.ofDocument? taskDocument).bind fun set =>
      (compile [set]).result.toOption.bind fun registry =>
        (registry.get? "Task").bind fun model =>
          (model.effective.get? "priority").bind fun priority =>
            priority.constantDefault?.map fun value =>
              (value, priority.generated, priority.type.isEmbedded,
                reportsOf (validateRecord registry ⟨fun _ => "", fun _ => 0⟩ {} model .empty),
                reportsOf
                  (validateRecord registry ⟨fun _ => "", fun _ => 0⟩ {} model
                    (SortedMap.empty.insert "priority" (.string "high"))))) =
      some (.string "high", false, false,
        [⟨"code", .null, .missingRequired⟩,
          ⟨"priority", .string "high", .cast ⟨"integer", "'high' is not an integer"⟩⟩],
        [⟨"priority", .string "high", .cast ⟨"integer", "'high' is not an integer"⟩⟩,
          ⟨"code", .null, .missingRequired⟩]) := by
  simp only [validateRecord, check?_eq_or]
  with_unfolding_all rfl

/-- A task without a priority is rejected as one with the default, in another order. -/
theorem omitted_as_default_priority :
    ∃ set registry model,
      DefinitionSet.ofDocument? taskDocument = some set ∧
        (compile [set]).result = .ok registry ∧
          registry.get? "Task" = some model ∧
            reportsOf (validateRecord registry ⟨fun _ => "", fun _ => 0⟩ {} model .empty) =
                [⟨"code", .null, .missingRequired⟩,
                  ⟨"priority", .string "high",
                    .cast ⟨"integer", "'high' is not an integer"⟩⟩] ∧
              reportsOf
                    (validateRecord registry ⟨fun _ => "", fun _ => 0⟩ {} model
                      (SortedMap.empty.insert "priority" (.string "high"))) =
                  [⟨"priority", .string "high",
                      .cast ⟨"integer", "'high' is not an integer"⟩⟩,
                    ⟨"code", .null, .missingRequired⟩] ∧
                SameAnswer (validateRecord registry ⟨fun _ => "", fun _ => 0⟩ {} model .empty)
                  (validateRecord registry ⟨fun _ => "", fun _ => 0⟩ {} model
                    (SortedMap.empty.insert "priority" (.string "high"))) := by
  have observed := task_observed
  simp only [Option.bind_eq_some_iff, Option.map_eq_some_iff, Prod.mk.injEq] at observed
  obtain ⟨set, isRead, registry, compiled, model, found, priority, has, value, isConstant, rfl,
    notGenerated, notEmbedded, leftOut, writtenOut⟩ := observed
  have isDefault : priority.default = some (.constant (.string "high")) := by
    rw [Property.constantDefault?] at isConstant
    split at isConstant
    · rename_i isDefault
      cases isConstant
      exact isDefault
    · cases isConstant
  have compiled := Registry.ok_of_toOption compiled
  have loaded := DefinitionSet.isLoaded_of_ofDocument? isRead
  have written := Registry.isWritten_of_compile (by simpa using loaded) compiled
  have member := Registry.mem_classes_of_get? found
  have decidesAlone : DecidesAlone model := fun name property has =>
    (written model member name property has).noFunction
  obtain ⟨ends, _, same⟩ :
      (_ → _ → (check? registry ⟨fun _ => "", fun _ => 0⟩ {} model [] .empty).isSome = true) ∧
        _ ∧ (_ → SameAnswer _ _) :=
    omitted_as_default has notGenerated isDefault rfl (.inl notEmbedded) rfl rfl decidesAlone
  have isSome := ends (Registry.keepsDepth_of_isWritten written) member
  exact ⟨set, registry, model, isRead, compiled, found, leftOut, writtenOut, same isSome⟩

end Validation

end RecordSchema
