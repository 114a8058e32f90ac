import Mathlib.Data.List.Basic
import RecordSchema.Proofs.Validation.Origins

namespace RecordSchema

/-!
# Where failures stand

Each failure of a record stands within the value of one of its keys, or of one that it
lacks.  So the failures that concern one property can be told from the others by their
places, and they are found in the parts of the passes that look at this property.
-/

namespace Location

/-- A place that is another one or stands below it. -/
def Within (base : List Step) : Location → Prop
  | .wholeRecord => False
  | .part steps => base <+: steps

/-- A place that stands below another one. -/
def Below (base : List Step) : Location → Prop
  | .wholeRecord => False
  | .part steps => base <+: steps ∧ steps ≠ base

instance
    (base : List Step) :
    DecidablePred (Within base)
  | .wholeRecord => inferInstanceAs (Decidable False)
  | .part steps => inferInstanceAs (Decidable (base <+: steps))

instance
    (base : List Step) :
    DecidablePred (Below base)
  | .wholeRecord => inferInstanceAs (Decidable False)
  | .part steps => inferInstanceAs (Decidable (base <+: steps ∧ steps ≠ base))

variable
  {base rest : List Step}
  {location : Location}

@[simp] theorem within_part_iff
    {steps : List Step} :
    Within base (.part steps) ↔ base <+: steps :=
  Iff.rfl

@[simp] theorem below_part_iff
    {steps : List Step} :
    Below base (.part steps) ↔ base <+: steps ∧ steps ≠ base :=
  Iff.rfl

theorem Below.within
    (below : location.Below base) :
    location.Within base := by
  cases location with
  | wholeRecord => exact below
  | part steps => exact below.1

theorem Within.exists_rest
    (within : location.Within base) :
    ∃ rest, location = .part (base ++ rest) := by
  cases location with
  | wholeRecord => exact within.elim
  | part steps =>
      obtain ⟨rest, rfl⟩ := within
      exact ⟨rest, rfl⟩

/-- What stands within a further step stands below. -/
theorem Within.below
    {step : Step}
    (within : location.Within (base ++ [step])) :
    location.Below base := by
  obtain ⟨rest, rfl⟩ := within.exists_rest
  simp

/-- What stands within the values of two keys stands within those of one. -/
theorem Within.key_unique
    {first second : String}
    (inFirst : location.Within (base ++ [.key first]))
    (inSecond : location.Within (base ++ [.key second])) :
    first = second := by
  obtain ⟨firstRest, rfl⟩ := inFirst.exists_rest
  obtain ⟨secondRest, same⟩ := inSecond.exists_rest
  simp only [part.injEq, List.append_assoc, List.append_cancel_left_eq, List.cons_append,
    List.nil_append, List.cons.injEq, Step.key.injEq] at same
  exact same.1

end Location

namespace Validation

variable
  {check : ClassModel → List Step → Record → Outcome}
  {registry : Registry}
  {draws : Draws}
  {options : Options}
  {model : ClassModel}
  {steps : List Step}
  {input : Record}
  {name : String}
  {property : Property}
  {levels : Nat}
  {failure : Failure}

/--
A place in a record: at the value of one of its keys, or below it if the class has a
property of that name.
-/
def StandsIn (model : ClassModel) (steps : List Step) (location : Location) : Prop :=
  ∃ name rest,
    location = .part (steps ++ .key name :: rest) ∧
      (rest = [] ∨ model.effective.contains name = true)

/-- A check whose failures stand in the record, unless the levels are not enough for it. -/
def Descends (check : ClassModel → List Step → Record → Outcome) : Prop :=
  ∀ model steps input, ∀ failure ∈ (check model steps input).failures,
    failure.kind = .nestedTooDeep ∧ failure.location = .part steps ∨
      StandsIn model steps failure.location

theorem StandsIn.within
    {location : Location}
    (standsIn : StandsIn model steps location) :
    location.Within steps := by
  obtain ⟨name, rest, rfl, _⟩ := standsIn
  simp

theorem StandsIn.below
    {location : Location}
    (standsIn : StandsIn model steps location) :
    location.Below steps := by
  obtain ⟨name, rest, rfl, _⟩ := standsIn
  simp

theorem standsIn_key
    (model : ClassModel)
    (steps : List Step)
    (name : String) :
    StandsIn model steps (.part (steps ++ [.key name])) :=
  ⟨name, [], rfl, .inl rfl⟩

theorem standsIn_of_within
    {location : Location}
    (has : model.effective.get? name = some property)
    (within : location.Within (steps ++ [.key name])) :
    StandsIn model steps location := by
  obtain ⟨rest, rfl⟩ := within.exists_rest
  refine ⟨name, rest, by simp, .inr ?_⟩
  exact SortedMap.contains_iff.mpr ⟨property, has⟩

theorem Descends.within
    (descends : Descends check)
    (member : failure ∈ (check model steps input).failures) :
    failure.location.Within steps := by
  rcases descends _ _ _ failure member with ⟨_, isHere⟩ | standsIn
  · simp [isHere]
  · exact standsIn.within

theorem below_of_mem_checkItems
    (descends : Descends check)
    {position : Nat}
    {items : List Json}
    (member : failure ∈ (checkItems (check model) steps position items).2) :
    failure.location.Below steps := by
  induction items generalizing position with
  | nil =>
      cases member
  | cons first rest inductionHypothesis =>
      cases first with
      | object members =>
          rcases List.mem_append.mp member with inFirst | inRest
          · exact (descends.within inFirst).below
          · exact inductionHypothesis inRest
      | _ =>
          rcases List.mem_cons.mp member with rfl | inRest
          · simp
          · exact inductionHypothesis inRest

/-- A failure in the records of a value stands below the value, unless the levels end there. -/
theorem place_of_mem_checkNested
    (descends : Descends check)
    {value : Json}
    (member : failure ∈ (checkNested check registry property steps value).failures) :
    failure.kind = .nestedTooDeep ∧ failure.location = .part steps ∨
      failure.location.Below steps := by
  by_cases holds : HoldsRecords registry property value
  · obtain ⟨isEmbedded, isLinked, shape⟩ := holds
    obtain ⟨linked, found⟩ := Option.isSome_iff_exists.mp isLinked
    rcases shape with ⟨items, rfl⟩ | ⟨type, members, rfl⟩
    · rw [checkNested_array isEmbedded found] at member
      exact .inr (below_of_mem_checkItems descends member)
    · rw [checkNested_object type found] at member
      exact (descends _ _ _ failure member).imp_right StandsIn.below
  · rw [checkNested_of_not_holdsRecords holds] at member
    cases member

theorem below_of_mem_checkNested
    (descends : Descends check)
    {value : Json}
    (settled : Settled (checkNested check registry property steps value).failures)
    (member : failure ∈ (checkNested check registry property steps value).failures) :
    failure.location.Below steps := by
  rcases place_of_mem_checkNested descends member with ⟨tooDeep, _⟩ | below
  · exact absurd tooDeep (settled failure member)
  · exact below

theorem within_of_mem_checkNested
    (descends : Descends check)
    {value : Json}
    (member : failure ∈ (checkNested check registry property steps value).failures) :
    failure.location.Within steps := by
  rcases place_of_mem_checkNested descends member with ⟨_, isHere⟩ | below
  · simp [isHere]
  · exact below.within

theorem exists_of_mem_unexpected
    (member : failure ∈ unexpected options model steps input) :
    ∃ name, failure.location = .part (steps ++ [.key name]) := by
  rw [unexpected] at member
  split at member
  · cases member
  · obtain ⟨entry, _, rfl⟩ := List.mem_map.mp member
    exact ⟨entry.1, rfl⟩

theorem within_of_mem_checkPresent
    (descends : Descends check)
    {raw : Json}
    (member : failure ∈ (checkPresent check registry options steps property raw).failures) :
    failure.location.Within steps := by
  revert member
  rw [checkPresent]
  split
  · simp +contextual [Verdict.refuse]
  · split
    · split
      · simp [Verdict.accept]
      · simp +contextual [Verdict.refuse]
    · split
      · simp +contextual [Verdict.refuse]
      · exact within_of_mem_checkNested descends

theorem location_of_mem_checkAbsent
    {record : Record}
    (member : failure ∈ (checkAbsent draws steps property record).failures) :
    failure.location = .part steps := by
  have ofWithoutDefault :
      failure ∈ (withoutDefault steps property).failures → failure.location = .part steps := by
    rw [withoutDefault]
    split
    · simp
    · split
      · simp [Verdict.accept]
      · simp +contextual [Failure.missing]
  revert member
  rw [checkAbsent]
  split
  · exact ofWithoutDefault
  · split
    · simp +contextual [Verdict.refuse]
    · split
      · exact ofWithoutDefault
      · split
        · simp +contextual [Verdict.refuse]
        · simp [Verdict.accept]

/-- A default fails at the key that the record lacks. -/
theorem exists_of_mem_addDefaults
    {record : Record}
    (member : failure ∈ (addDefaults draws options model steps input record).failures) :
    ∃ name,
      input.contains name = false ∧ failure.location = .part (steps ++ [.key name]) := by
  have ofFold :
      ∀ (entries : List (String × Property)) (outcome : Outcome),
        failure ∈ (entries.foldl (addAbsent draws steps input) outcome).failures →
        failure ∈ outcome.failures ∨
          ∃ name,
            input.contains name = false ∧ failure.location = .part (steps ++ [.key name]) := by
    intro entries
    induction entries with
    | nil =>
        exact fun outcome => .inl
    | cons first rest inductionHypothesis =>
        intro outcome inFold
        rcases inductionHypothesis _ inFold with inFirst | found
        · rw [addAbsent] at inFirst
          split at inFirst
          · exact .inl inFirst
          · rename_i notSkipped
            have absent : input.contains first.1 = false ∧ first.2.generated = false := by
              simpa using notSkipped
            rcases List.mem_append.mp inFirst with before | inVerdict
            · exact .inl before
            · exact .inr ⟨first.1, absent.1, location_of_mem_checkAbsent inVerdict⟩
        · exact .inr found
  rw [addDefaults] at member
  split at member
  · cases member
  · rcases ofFold _ _ member with inNothing | found
    · cases inNothing
    · exact found

theorem location_of_mem_violations
    {entry : String × Json}
    (member : failure ∈ violations model steps entry) :
    failure.location = .part (steps ++ [.key entry.1]) := by
  rw [violations] at member
  split at member
  · cases member
  · split at member
    · cases member
    · obtain ⟨kind, _, rfl⟩ := List.mem_map.mp member
      rfl

theorem mem_checkWith_failures_iff :
    failure ∈ (checkWith check registry draws options model steps input).failures ↔
      failure ∈ unexpected options model steps input ∨
        (∃ entry ∈ present check registry options model steps input,
          failure ∈ entry.2.failures) ∨
          failure ∈
            (addDefaults draws options model steps input
              (acceptedRecord (present check registry options model steps input))).failures ∨
            ∃ entry ∈ (checkWith check registry draws options model steps input).record.entries,
              failure ∈ violations model steps entry := by
  simp only [checkWith, List.mem_append, List.mem_flatMap, or_assoc]

/-- The failures of a record stand in it if those of the records in its values do. -/
theorem standsIn_of_mem_checkWith
    (descends : Descends check)
    (member :
      failure ∈ (checkWith check registry draws options model steps input).failures) :
    StandsIn model steps failure.location := by
  rcases mem_checkWith_failures_iff.mp member with
    inUnexpected | ⟨verdict, inPresent, inVerdict⟩ | inDefaults | ⟨entry, _, inViolations⟩
  · obtain ⟨name, isKey⟩ := exists_of_mem_unexpected inUnexpected
    exact isKey ▸ standsIn_key model steps name
  · obtain ⟨entry, entryMember, brought⟩ := List.mem_filterMap.mp inPresent
    obtain ⟨raw, _, rfl⟩ := Option.map_eq_some_iff.mp brought
    exact standsIn_of_within (SortedMap.get?_eq_some_iff.mpr entryMember)
      (within_of_mem_checkPresent descends inVerdict)
  · obtain ⟨name, _, isKey⟩ := exists_of_mem_addDefaults inDefaults
    exact isKey ▸ standsIn_key model steps name
  · exact location_of_mem_violations inViolations ▸ standsIn_key model steps entry.1

theorem descends_checkRecord : Descends (checkRecord registry draws options levels) := by
  induction levels with
  | zero =>
      intro model steps input failure member
      rw [checkRecord, List.mem_singleton] at member
      exact .inl (by simp [member])
  | succ levels inductionHypothesis =>
      intro model steps input failure member
      exact .inr (standsIn_of_mem_checkWith inductionHypothesis member)

/-- A test that only failures within the value of a key pass. -/
def Confines (steps : List Step) (name : String) (test : Failure → Bool) : Prop :=
  ∀ failure, test failure = true → failure.location.Within (steps ++ [.key name])

theorem confines_within :
    Confines steps name fun failure => failure.location.Within (steps ++ [.key name]) :=
  fun failure passes => by simpa using passes

/-- Of what the entries of a map give, one entry gives all that passes a test. -/
theorem filter_flatMap_entries
    {map : SortedMap α}
    {pieces : String × α → List Failure}
    {test : Failure → Bool}
    (elsewhere :
      ∀ entry ∈ map.entries, entry.1 ≠ name → ∀ failure ∈ pieces entry, test failure = false) :
    (map.entries.flatMap pieces).filter test =
      (map.get? name).toList.flatMap fun value => (pieces (name, value)).filter test := by
  have nothing :
      ∀ entries ⊆ map.entries,
        (∀ entry ∈ entries, entry.1 ≠ name) →
        entries.flatMap (fun entry => (pieces entry).filter test) = [] := by
    intro entries among others
    rw [List.flatMap_eq_nil_iff]
    intro entry member
    rw [List.filter_eq_nil_iff]
    intro failure inPieces
    simp [elsewhere entry (among member) (others entry member) failure inPieces]
  rw [List.filter_flatMap]
  cases found : map.get? name with
  | none =>
      refine nothing map.entries (List.Subset.refl _) fun entry member isName => ?_
      have absent := SortedMap.get?_eq_none_iff.mp found
      exact absent (isName ▸ List.mem_map_of_mem member)
  | some value =>
      obtain ⟨earlier, later, shape⟩ :=
        List.append_of_mem (SortedMap.get?_eq_some_iff.mp found)
      have sorted := map.sorted
      rw [shape] at sorted
      obtain ⟨_, laterSorted, before⟩ := List.pairwise_append.mp sorted
      obtain ⟨behind, _⟩ := List.pairwise_cons.mp laterSorted
      have inEarlier :=
        nothing earlier (by simp [shape]) fun entry member =>
          String.ne_of_lt (before entry member _ List.mem_cons_self)
      have inLater :=
        nothing later (by rw [shape]; intro entry member; simp [member]) fun entry member =>
          (String.ne_of_lt (behind entry member)).symm
      rw [shape, List.flatMap_append, List.flatMap_cons, inEarlier, inLater]
      simp

/-- The failure of a key that the class does not declare. -/
def unexpectedEntry (options : Options) (model : ClassModel) (steps : List Step)
    (entry : String × Json) : List Failure :=
  if options.ignoreExtra || (model.effective.contains entry.1) then
    []
  else
    [⟨.part (steps ++ [.key entry.1]), entry.2, .unexpectedAttribute⟩]

/-- The failures of the value that the record brings of a property. -/
def presentEntry (check : ClassModel → List Step → Record → Outcome) (registry : Registry)
    (options : Options) (steps : List Step) (input : Record) (entry : String × Property) :
    List Failure :=
  (input.get? entry.1).toList.flatMap fun raw =>
    (checkPresent check registry options (steps ++ [.key entry.1]) entry.2 raw).failures

theorem unexpected_eq_flatMap :
    unexpected options model steps input =
      input.entries.flatMap (unexpectedEntry options model steps) := by
  rw [unexpected]
  split
  · rename_i ignores
    exact (List.flatMap_eq_nil_iff.mpr fun entry _ => by simp [unexpectedEntry, ignores]).symm
  · rename_i reports
    induction input.entries with
    | nil =>
        rfl
    | cons first rest inductionHypothesis =>
        rw [List.flatMap_cons, ← inductionHypothesis, List.filter_cons, unexpectedEntry,
          ClassModel.property?, SortedMap.contains]
        cases model.effective.get? first.1 <;> simp [reports]

theorem flatMap_present :
    (present check registry options model steps input).flatMap (fun entry => entry.2.failures) =
      model.effective.entries.flatMap (presentEntry check registry options steps input) := by
  rw [present]
  induction model.effective.entries with
  | nil =>
      rfl
  | cons first rest inductionHypothesis =>
      rw [List.flatMap_cons, ← inductionHypothesis, List.filterMap_cons, presentEntry]
      cases input.get? first.1 <;> simp

/--
The failures of one property are those that the passes find for what the record has under
its name.
-/
theorem filter_checkWith
    (descends : Descends check)
    {test : Failure → Bool}
    (confines : Confines steps name test) :
    (checkWith check registry draws options model steps input).failures.filter test =
      ((input.get? name).toList.flatMap fun value =>
          (unexpectedEntry options model steps (name, value)).filter test) ++
        ((model.effective.get? name).toList.flatMap fun property =>
          (presentEntry check registry options steps input (name, property)).filter test) ++
        (addDefaults draws options model steps input
          (acceptedRecord (present check registry options model steps input))).failures.filter
            test ++
        (((checkWith check registry draws options model steps input).record.get?
            name).toList.flatMap fun value =>
          (violations model steps (name, value)).filter test) := by
  have elsewhere :
      ∀ {other : String} {failure : Failure},
        other ≠ name → failure.location.Within (steps ++ [.key other]) →
        test failure = false := by
    intro other failure different within
    by_contra passes
    exact different (within.key_unique (confines failure (by simpa using passes)))
  have atUnexpected :
      ∀ entry ∈ input.entries, entry.1 ≠ name →
        ∀ failure ∈ unexpectedEntry options model steps entry, test failure = false := by
    intro entry _ different failure member
    rw [unexpectedEntry] at member
    split at member
    · cases member
    · rw [List.mem_singleton.mp member]
      exact elsewhere different (by simp)
  have atPresent :
      ∀ entry ∈ model.effective.entries, entry.1 ≠ name →
        ∀ failure ∈ presentEntry check registry options steps input entry,
          test failure = false := by
    intro entry _ different failure member
    obtain ⟨raw, _, inVerdict⟩ := List.mem_flatMap.mp member
    exact elsewhere different (within_of_mem_checkPresent descends inVerdict)
  have atViolations :
      ∀ entry ∈ (checkWith check registry draws options model steps input).record.entries,
        entry.1 ≠ name →
        ∀ failure ∈ violations model steps entry, test failure = false := by
    intro entry _ different failure member
    exact elsewhere different (by simp [location_of_mem_violations member])
  rw [← filter_flatMap_entries atUnexpected, ← filter_flatMap_entries atPresent,
    ← filter_flatMap_entries atViolations, ← unexpected_eq_flatMap, ← flatMap_present]
  simp only [checkWith, List.filter_append]

/-- A value is checked with a form exactly when nothing in it fails. -/
theorem isSome_value_checkNested_iff
    {value : Json} :
    (checkNested check registry property steps value).value.isSome = true ↔
      (checkNested check registry property steps value).failures = [] := by
  rw [checkNested]
  split
  · simp [Verdict.accept]
  · split
    · simp [Verdict.accept]
    · have ofUnlessFailed :
          ∀ (form : Json) (failures : List Failure),
            (Verdict.unlessFailed form failures).value.isSome = true ↔
              (Verdict.unlessFailed form failures).failures = [] := by
        intro form failures
        cases failures <;> simp [Verdict.unlessFailed]
      split
      · exact ofUnlessFailed _ _
      · exact ofUnlessFailed _ _
      · simp [Verdict.accept]

/-- The outcome has the value that the first pass finds for what the record brings. -/
theorem get?_checkWith_of_present
    {raw : Json}
    (has : model.effective.get? name = some property)
    (found : input.get? name = some raw) :
    (checkWith check registry draws options model steps input).record.get? name =
      (checkPresent check registry options (steps ++ [.key name]) property raw).value := by
  have isBrought : input.contains name = true :=
    SortedMap.contains_iff.mpr ⟨raw, found⟩
  rw [checkWith]
  dsimp only
  rw [get?_addDefaults_of_kept (.inr (.inl isBrought)), get?_acceptedRecord_present, has, found]
  rfl

/--
The failures within a value that the record brings: those of the first pass, and the
violations of what that pass makes of the value.
-/
theorem filter_within_of_present
    {raw : Json}
    (descends : Descends check)
    (has : model.effective.get? name = some property)
    (found : input.get? name = some raw) :
    ((checkWith check registry draws options model steps input).failures.filter fun failure =>
        failure.location.Within (steps ++ [.key name])) =
      (checkPresent check registry options (steps ++ [.key name]) property raw).failures ++
        (checkPresent check registry options (steps ++ [.key name]) property
          raw).value.toList.flatMap fun form => violations model steps (name, form) := by
  have declared : unexpectedEntry options model steps (name, raw) = [] := by
    simp [unexpectedEntry, SortedMap.contains_iff.mpr ⟨property, has⟩]
  have brought :
      presentEntry check registry options steps input (name, property) =
        (checkPresent check registry options (steps ++ [.key name]) property raw).failures := by
    simp [presentEntry, found]
  have fromPresent :
      (checkPresent check registry options (steps ++ [.key name]) property
        raw).failures.filter (fun failure => failure.location.Within (steps ++ [.key name])) =
        (checkPresent check registry options (steps ++ [.key name]) property raw).failures :=
    List.filter_eq_self.mpr fun failure member => by
      simpa using within_of_mem_checkPresent descends member
  have fromDefaults :
      (addDefaults draws options model steps input
        (acceptedRecord (present check registry options model steps input))).failures.filter
          (fun failure => failure.location.Within (steps ++ [.key name])) = [] := by
    rw [List.filter_eq_nil_iff]
    intro failure member within
    obtain ⟨other, absent, isOther⟩ := exists_of_mem_addDefaults member
    have inOther : failure.location.Within (steps ++ [.key other]) := by
      simp [isOther]
    have same := Location.Within.key_unique (by simpa using within) inOther
    rw [← same, SortedMap.contains_eq_false_iff, found] at absent
    cases absent
  have fromViolations :
      ∀ form,
        (violations model steps (name, form)).filter
            (fun failure => failure.location.Within (steps ++ [.key name])) =
          violations model steps (name, form) :=
    fun form => List.filter_eq_self.mpr fun failure member => by
      simp [location_of_mem_violations member]
  rw [filter_checkWith descends confines_within, has, found, get?_checkWith_of_present has found,
    fromDefaults]
  simp only [Option.toList_some, List.flatMap_singleton, declared, brought, fromPresent,
    fromViolations, List.filter_nil, List.nil_append, List.append_nil]

section Cast

variable
  {raw value : Json}
  (has : model.effective.get? name = some property)
  (found : input.get? name = some raw)
  (writable : options.mode = .update → property.readOnly = false)
  (isPresent : raw.isNull = false)
  (accepted : property.castValue raw = .ok value)

include has found writable isPresent accepted

/-- The outcome has of a cast value what the check of the records in it makes of it. -/
theorem get?_checkWith_of_castValue :
    (checkWith check registry draws options model steps input).record.get? name =
      (checkNested check registry property (steps ++ [.key name]) value).value := by
  rw [get?_checkWith_of_present has found,
    checkPresent_of_castValue writable isPresent accepted]

/-- The failures within a cast value are those of the records in it and its violations. -/
theorem filter_within_of_castValue
    (descends : Descends check) :
    ((checkWith check registry draws options model steps input).failures.filter fun failure =>
        failure.location.Within (steps ++ [.key name])) =
      (checkNested check registry property (steps ++ [.key name]) value).failures ++
        (checkNested check registry property (steps ++ [.key name])
          value).value.toList.flatMap fun form => violations model steps (name, form) := by
  rw [filter_within_of_present descends has found,
    checkPresent_of_castValue writable isPresent accepted]

/-- A failure within a cast value is one of the records in it or a violation of their form. -/
theorem mem_failures_of_castValue_iff
    (descends : Descends check)
    (within : failure.location.Within (steps ++ [.key name])) :
    failure ∈ (checkWith check registry draws options model steps input).failures ↔
      failure ∈
          (checkNested check registry property (steps ++ [.key name]) value).failures ∨
        ∃ form,
          (checkNested check registry property (steps ++ [.key name]) value).value = some form ∧
            failure ∈ violations model steps (name, form) := by
  have passes :
      failure ∈ (checkWith check registry draws options model steps input).failures ↔
        failure ∈
          (checkWith check registry draws options model steps input).failures.filter fun failure =>
            failure.location.Within (steps ++ [.key name]) := by
    simp [within]
  rw [passes, filter_within_of_castValue has found writable isPresent accepted descends,
    List.mem_append, List.mem_flatMap]
  simp only [Option.mem_toList]

/-- The failures below a cast value are those of the records in it. -/
theorem filter_below_of_castValue
    (descends : Descends check)
    (settled :
      Settled (checkNested check registry property (steps ++ [.key name]) value).failures) :
    ((checkWith check registry draws options model steps input).failures.filter fun failure =>
        failure.location.Below (steps ++ [.key name])) =
      (checkNested check registry property (steps ++ [.key name]) value).failures := by
  have amongWithin :
      ((checkWith check registry draws options model steps input).failures.filter fun failure =>
          failure.location.Below (steps ++ [.key name])) =
        ((checkWith check registry draws options model steps input).failures.filter fun failure =>
            failure.location.Within (steps ++ [.key name])).filter fun failure =>
          failure.location.Below (steps ++ [.key name]) := by
    rw [List.filter_filter]
    refine List.filter_congr fun failure _ => ?_
    rw [Bool.eq_iff_iff]
    simpa using Location.Below.within
  have nested :
      (checkNested check registry property (steps ++ [.key name]) value).failures.filter
          (fun failure => failure.location.Below (steps ++ [.key name])) =
        (checkNested check registry property (steps ++ [.key name]) value).failures :=
    List.filter_eq_self.mpr fun failure member => by
      simpa using below_of_mem_checkNested descends settled member
  rw [amongWithin,
    filter_within_of_castValue has found writable isPresent accepted descends,
    List.filter_append, nested, List.append_right_eq_self, List.filter_eq_nil_iff]
  intro failure member
  obtain ⟨form, _, isViolation⟩ := List.mem_flatMap.mp member
  simp [location_of_mem_violations isViolation]

end Cast

end Validation

end RecordSchema
