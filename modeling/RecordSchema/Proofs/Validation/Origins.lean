import Mathlib.Data.List.Forall2
import RecordSchema.Proofs.Validation.Levels
import RecordSchema.Proofs.Validation.Passes

namespace RecordSchema

/-!
# Where the values of a checked record come from

Without failures every value of the outcome was brought by the record and cast, or it was
put in for an absent property.  What is said here holds of every registry, whatever
functions its properties carry, and it names the part of the record that each default sees.
-/

namespace Validation

variable
  {check : ClassModel → List Step → Record → Outcome}
  {registry : Registry}
  {draws : Draws}
  {options : Options}
  {model : ClassModel}
  {steps : List Step}
  {input : Record}
  {property : Property}

/-- A value that is checked further: a record, or an array, of a property that links a class. -/
def HoldsRecords (registry : Registry) (property : Property) (value : Json) : Prop :=
  property.type.isEmbedded = true ∧ (registry.linkedClass? property).isSome = true ∧
    ((∃ items, value = .array items) ∨
      property.type = .embedded ∧ ∃ members, value = .object members)

/-- A value that passes a check at some place as a record, and the form that it gets there. -/
def Passes (check : List Step → Record → Outcome) (value form : Json) : Prop :=
  ∃ members steps record,
    value = .object members ∧ check steps (.ofMembers members) = ⟨record, []⟩ ∧
      form = record.toJson

/-- What the check of the records in a cast value makes of it. -/
inductive NestedForm
    (check : ClassModel → List Step → Record → Outcome)
    (registry : Registry)
    (property : Property) : Json → Json → Prop where
  | plain {value : Json} :
      ¬HoldsRecords registry property value →
      NestedForm check registry property value value
  | record {linked : ClassModel} {value form : Json} :
      registry.linkedClass? property = some linked →
      property.type = .embedded →
      Passes (check linked) value form →
      NestedForm check registry property value form
  | records {linked : ClassModel} {items forms : List Json} :
      registry.linkedClass? property = some linked →
      property.type.isEmbedded = true →
      List.Forall₂ (Passes (check linked)) items forms →
      NestedForm check registry property (.array items) (.array forms)

theorem outcome_eq_of_clean
    {outcome : Outcome}
    (clean : outcome.failures = []) :
    outcome = ⟨outcome.record, []⟩ := by
  cases outcome
  cases clean
  rfl

/-- Items without failures are records that pass. -/
theorem passes_checkItems
    {check : List Step → Record → Outcome}
    {position : Nat}
    {items : List Json}
    (clean : (checkItems check steps position items).2 = []) :
    List.Forall₂ (Passes check) items (checkItems check steps position items).1 := by
  induction items generalizing position with
  | nil =>
      exact .nil
  | cons first rest inductionHypothesis =>
      cases first with
      | object members =>
          obtain ⟨firstClean, restClean⟩ := List.append_eq_nil_iff.mp clean
          refine .cons ?_ (inductionHypothesis restClean)
          exact ⟨members, _, _, rfl, outcome_eq_of_clean firstClean, rfl⟩
      | _ => cases clean

theorem unlessFailed_of_clean
    {value : Json}
    {failures : List Failure}
    (clean : failures = []) :
    Verdict.unlessFailed value failures = .accept value := by
  rw [clean]
  rfl

/-- A value that holds no records is accepted as it is. -/
theorem checkNested_of_not_holdsRecords
    {value : Json}
    (noRecords : ¬HoldsRecords registry property value) :
    checkNested check registry property steps value = .accept value := by
  rw [checkNested]
  split
  · rfl
  · rename_i embedded
    have isEmbedded : property.type.isEmbedded = true := by
      simpa using embedded
    split
    · rfl
    · rename_i linked found
      have isLinked : (registry.linkedClass? property).isSome = true := by
        rw [found]
        rfl
      split
      · rename_i members type
        exact absurd ⟨isEmbedded, isLinked, .inr ⟨type, members, rfl⟩⟩ noRecords
      · rename_i items
        exact absurd ⟨isEmbedded, isLinked, .inl ⟨items, rfl⟩⟩ noRecords
      · rfl

/-- The items of an array are checked against the linked class. -/
theorem checkNested_array
    {linked : ClassModel}
    (isEmbedded : property.type.isEmbedded = true)
    (found : registry.linkedClass? property = some linked)
    (items : List Json) :
    checkNested check registry property steps (.array items) =
      .unlessFailed (.array (checkItems (check linked) steps 0 items).1)
        (checkItems (check linked) steps 0 items).2 := by
  rw [checkNested, if_neg (by simp [isEmbedded]), found]
  cases property.type <;> rfl

/-- A single record is checked against the linked class. -/
theorem checkNested_object
    {linked : ClassModel}
    (type : property.type = .embedded)
    (found : registry.linkedClass? property = some linked)
    (members : List (String × Json)) :
    checkNested check registry property steps (.object members) =
      .unlessFailed (check linked steps (.ofMembers members)).record.toJson
        (check linked steps (.ofMembers members)).failures := by
  rw [checkNested, type, found]
  rfl

/-- The check of records without failures accepts a value in the form that it makes of it. -/
theorem nestedForm_of_clean
    {value : Json}
    (clean : (checkNested check registry property steps value).failures = []) :
    ∃ form,
      checkNested check registry property steps value = .accept form ∧
        NestedForm check registry property value form := by
  by_cases holds : HoldsRecords registry property value
  · obtain ⟨isEmbedded, isLinked, shape⟩ := holds
    obtain ⟨linked, found⟩ := Option.isSome_iff_exists.mp isLinked
    rcases shape with ⟨items, rfl⟩ | ⟨type, members, rfl⟩
    · rw [checkNested_array isEmbedded found] at clean ⊢
      exact ⟨_, unlessFailed_of_clean clean, .records found isEmbedded (passes_checkItems clean)⟩
    · rw [checkNested_object type found] at clean ⊢
      refine ⟨_, unlessFailed_of_clean clean, .record found type ?_⟩
      exact ⟨members, _, _, rfl, outcome_eq_of_clean clean, rfl⟩
  · exact ⟨value, checkNested_of_not_holdsRecords holds, .plain holds⟩

/-- What becomes of a value that the record brings, if nothing is wrong with it. -/
inductive Brought
    (check : ClassModel → List Step → Record → Outcome)
    (registry : Registry)
    (options : Options)
    (property : Property)
    (raw : Json) : Json → Prop where
  | null :
      (options.mode = .update → property.readOnly = false) →
      raw.isNull = true →
      property.nullable = true →
      Brought check registry options property raw .null
  | cast {value form : Json} :
      (options.mode = .update → property.readOnly = false) →
      raw.isNull = false →
      property.castValue raw = .ok value →
      NestedForm check registry property value form →
      Brought check registry options property raw form

theorem brought_of_clean
    {raw : Json}
    (clean : (checkPresent check registry options steps property raw).failures = []) :
    ∃ form,
      checkPresent check registry options steps property raw = .accept form ∧
        Brought check registry options property raw form := by
  revert clean
  rw [checkPresent]
  split
  · intro clean
    cases clean
  · rename_i notProtected
    have writable : options.mode = .update → property.readOnly = false := by
      intro updates
      simpa [updates] using notProtected
    split
    · rename_i isNull
      split
      · rename_i nullable
        exact fun _ => ⟨.null, rfl, .null writable isNull nullable⟩
      · intro clean
        cases clean
    · rename_i notNull
      have present : raw.isNull = false := by
        simpa using notNull
      split
      · intro clean
        cases clean
      · rename_i value accepted
        intro clean
        obtain ⟨form, isForm, nested⟩ := nestedForm_of_clean clean
        exact ⟨form, isForm, .cast writable present accepted nested⟩

/-- A value is accepted if its cast is, unless the property is protected. -/
theorem checkPresent_of_castValue
    {raw value : Json}
    (writable : options.mode = .update → property.readOnly = false)
    (present : raw.isNull = false)
    (accepted : property.castValue raw = .ok value) :
    checkPresent check registry options steps property raw =
      checkNested check registry property steps value := by
  have notProtected : ¬(decide (options.mode = .update) && property.readOnly) = true := by
    simpa using writable
  rw [checkPresent, if_neg notProtected, present, if_neg (by simp), accepted]

theorem checkPresent_null
    (writable : options.mode = .update → property.readOnly = false)
    (nullable : property.nullable = true) :
    checkPresent check registry options steps property .null = .accept .null := by
  have notProtected : ¬(decide (options.mode = .update) && property.readOnly) = true := by
    simpa using writable
  rw [checkPresent, if_neg notProtected]
  simp only [Json.isNull, nullable, if_true]

/-- The record of the values that the first pass accepts. -/
theorem get?_acceptedRecord_present
    (name : String) :
    (acceptedRecord (present check registry options model steps input)).get? name =
      (model.effective.get? name).bind fun property =>
        (input.get? name).bind fun raw =>
          (checkPresent check registry options (steps ++ [.key name]) property raw).value := by
  have sameEntries :
      (present check registry options model steps input).filterMap
          (fun entry => entry.2.value.map fun value => (entry.1, value)) =
        model.effective.entries.filterMap fun entry =>
          ((input.get? entry.1).bind fun raw =>
            (checkPresent check registry options (steps ++ [.key entry.1]) entry.2 raw).value).map
              fun value => (entry.1, value) := by
    rw [present, List.filterMap_filterMap]
    refine List.filterMap_congr fun entry _ => ?_
    cases input.get? entry.1 with
    | none => rfl
    | some raw => rfl
  have found := SortedMap.get?_ofList_filterMap model.effective
    (fun (name : String) (property : Property) =>
      (input.get? name).bind fun raw =>
        (checkPresent check registry options (steps ++ [.key name]) property raw).value) name
  rwa [acceptedRecord, sameEntries]

theorem mem_present
    {name : String}
    {raw : Json}
    (has : model.effective.get? name = some property)
    (found : input.get? name = some raw) :
    (name, checkPresent check registry options (steps ++ [.key name]) property raw) ∈
      present check registry options model steps input :=
  List.mem_filterMap.mpr ⟨(name, property), SortedMap.get?_eq_some_iff.mp has,
    by rw [found]; rfl⟩

/-- A property that is brought, or generated later, keeps what it has; so do the other ones. -/
theorem get?_addAbsent_of_kept
    {outcome : Outcome}
    {entry : String × Property}
    {name : String}
    (kept : name = entry.1 → input.contains name = true ∨ entry.2.generated = true) :
    (addAbsent draws steps input outcome entry).record.get? name = outcome.record.get? name := by
  rw [addAbsent]
  split
  · rfl
  · rename_i notSkipped
    dsimp only
    split
    · rw [SortedMap.get?_insert_of_ne]
      rintro rfl
      exact notSkipped (by simpa using kept rfl)
    · rfl

theorem get?_foldl_addAbsent_of_kept
    {outcome : Outcome}
    {entries : List (String × Property)}
    {name : String}
    (kept :
      ∀ entry ∈ entries,
        name = entry.1 → input.contains name = true ∨ entry.2.generated = true) :
    (entries.foldl (addAbsent draws steps input) outcome).record.get? name =
      outcome.record.get? name := by
  induction entries generalizing outcome with
  | nil =>
      rfl
  | cons first rest inductionHypothesis =>
      rw [List.foldl_cons,
        inductionHypothesis fun entry member => kept entry (List.mem_cons_of_mem _ member),
        get?_addAbsent_of_kept (kept first List.mem_cons_self)]

/-- No failure is lost on the way. -/
theorem clean_of_foldl_addAbsent
    {outcome : Outcome}
    {entries : List (String × Property)}
    (clean : (entries.foldl (addAbsent draws steps input) outcome).failures = []) :
    outcome.failures = [] := by
  induction entries generalizing outcome with
  | nil =>
      exact clean
  | cons first rest inductionHypothesis =>
      have firstClean := inductionHypothesis clean
      rw [addAbsent] at firstClean
      split at firstClean
      · exact firstClean
      · exact (List.append_eq_nil_iff.mp firstClean).1

/--
What a default sees of the record that is being completed: the values that were brought,
and those of properties with smaller names.
-/
def seenBy (name : String) (input output : Record) : Record where
  entries := output.entries.filter fun entry => input.contains entry.1 || entry.1 < name
  sorted := output.sorted.filter _

theorem get?_seenBy
    {name key : String}
    {output : Record} :
    (seenBy name input output).get? key =
      if input.contains key || key < name then output.get? key else none := by
  have memberIff : ∀ value,
      (seenBy name input output).get? key = some value ↔
        output.get? key = some value ∧ (input.contains key || key < name) = true := by
    intro value
    rw [SortedMap.get?_eq_some_iff, SortedMap.get?_eq_some_iff, seenBy, List.mem_filter]
  refine Option.ext fun value => ?_
  rw [memberIff]
  split
  · rename_i seen
    exact ⟨fun found => found.1, fun found => ⟨found, seen⟩⟩
  · rename_i unseen
    exact ⟨fun found => absurd found.2 unseen, fun found => by cases found⟩

/-- The second pass gives an absent property the value that its default has for what it sees. -/
theorem checkAbsent_of_addDefaults
    {record : Record}
    {name : String}
    (creates : options.mode = .create)
    (onlyBrought : ∀ key, input.contains key = false → record.get? key = none)
    (has : model.effective.get? name = some property)
    (absent : input.contains name = false)
    (notGenerated : property.generated = false)
    (clean : (addDefaults draws options model steps input record).failures = []) :
    checkAbsent draws (steps ++ [.key name]) property
        (seenBy name input (addDefaults draws options model steps input record).record) =
      ⟨(addDefaults draws options model steps input record).record.get? name, []⟩ := by
  simp only [addDefaults, creates] at clean ⊢
  obtain ⟨earlier, later, shape⟩ :=
    List.append_of_mem (SortedMap.get?_eq_some_iff.mp has)
  have sorted := model.effective.sorted
  rw [shape] at clean sorted ⊢
  obtain ⟨_, laterSorted, beforeName⟩ := List.pairwise_append.mp sorted
  obtain ⟨behindName, _⟩ := List.pairwise_cons.mp laterSorted
  rw [List.foldl_append, List.foldl_cons] at clean ⊢
  generalize isReached : earlier.foldl (addAbsent draws steps input) ⟨record, []⟩ = reached at clean ⊢
  generalize isFinal : later.foldl (addAbsent draws steps input)
    (addAbsent draws steps input reached (name, property)) = final at clean ⊢
  have laterKeeps :
      ∀ key, (key < name ∨ key = name ∨ input.contains key = true) →
        final.record.get? key =
          (addAbsent draws steps input reached (name, property)).record.get? key := by
    intro key settled
    rw [← isFinal]
    refine get?_foldl_addAbsent_of_kept fun entry member isKey => ?_
    have behind := behindName entry member
    rw [← isKey] at behind
    rcases settled with isBefore | rfl | isBrought
    · exact absurd behind (String.lt_asymm isBefore)
    · exact absurd behind (String.lt_irrefl _)
    · exact .inl isBrought
  have reachedElsewhere :
      ∀ key, ¬key < name → input.contains key = false → reached.record.get? key = none := by
    intro key notBefore notBrought
    rw [← isReached, get?_foldl_addAbsent_of_kept]
    · exact onlyBrought key notBrought
    · rintro entry member rfl
      exact absurd (beforeName entry member _ List.mem_cons_self) notBefore
  have isSeen : seenBy name input final.record = reached.record := by
    refine SortedMap.ext_get? fun key => ?_
    rw [get?_seenBy]
    by_cases seen : input.contains key = true ∨ key < name
    · rw [if_pos (by simpa using seen), laterKeeps key (by tauto), get?_addAbsent_of_kept]
      rintro rfl
      exact .inl (seen.resolve_right (String.lt_irrefl _))
    · obtain ⟨notBrought, notBefore⟩ := not_or.mp seen
      rw [if_neg (by simpa using seen), reachedElsewhere key notBefore (by simpa using notBrought)]
  have reachedClean : (addAbsent draws steps input reached (name, property)).failures = [] :=
    clean_of_foldl_addAbsent (isFinal ▸ clean)
  have notSkipped : ¬(input.contains name || property.generated) = true := by
    simp [absent, notGenerated]
  have laterSame := laterKeeps name (.inr (.inl rfl))
  have reachedNothing := reachedElsewhere name (String.lt_irrefl name) absent
  rw [isSeen, laterSame]
  rw [addAbsent, if_neg notSkipped] at reachedClean ⊢
  dsimp only at reachedClean ⊢
  have verdictClean := (List.append_eq_nil_iff.mp reachedClean).2
  generalize checkAbsent draws (steps ++ [.key name]) property reached.record = verdict at *
  obtain ⟨value?, failures⟩ := verdict
  cases verdictClean
  cases value? with
  | none =>
      rw [reachedNothing]
  | some value =>
      rw [SortedMap.get?_insert_self]

/-- A property that is brought, or generated later, gets no default; none does in a change. -/
theorem get?_addDefaults_of_kept
    {record : Record}
    {name : String}
    (kept :
      options.mode = .update ∨ input.contains name = true ∨
        ∀ property, model.effective.get? name = some property → property.generated = true) :
    (addDefaults draws options model steps input record).record.get? name = record.get? name := by
  cases mode : options.mode with
  | update =>
      rw [addDefaults, mode]
  | create =>
      rw [addDefaults, mode]
      refine get?_foldl_addAbsent_of_kept fun entry member isName => ?_
      rcases kept with updates | isBrought | isGenerated
      · rw [mode] at updates
        cases updates
      · exact .inl isBrought
      · refine .inr (isGenerated entry.2 ?_)
        rw [isName]
        exact SortedMap.get?_eq_some_iff.mpr member

/-- What the default of an absent property puts in is null, or what its cast makes of it. -/
theorem value_of_checkAbsent
    {record : Record}
    {value : Json}
    (isValue : checkAbsent draws steps property record = ⟨some value, []⟩) :
    value = .null ∧ property.nullable = true ∨
      ∃ default given,
        property.default = some default ∧ default.resolve draws steps record = .ok given ∧
          property.castValue given = .ok value := by
  have ofWithoutDefault :
      withoutDefault steps property = ⟨some value, []⟩ →
      value = .null ∧ property.nullable = true := by
    intro isNull
    rw [withoutDefault] at isNull
    split at isNull
    · cases isNull
    · split at isNull
      · rename_i nullable
        cases isNull
        exact ⟨rfl, nullable⟩
      · cases isNull
  rw [checkAbsent] at isValue
  split at isValue
  · exact .inl (ofWithoutDefault isValue)
  · rename_i default isDefault
    split at isValue
    · cases isValue
    · rename_i given resolved
      split at isValue
      · exact .inl (ofWithoutDefault isValue)
      · split at isValue
        · cases isValue
        · rename_i accepted
          cases isValue
          exact .inr ⟨default, given, isDefault, resolved, accepted⟩

/-- A constant default is put in as its cast makes it. -/
theorem checkAbsent_of_constant
    {record : Record}
    {constant cast : Json}
    (isDefault : property.default = some (.constant constant))
    (isPresent : constant.isNull = false)
    (accepted : property.castValue constant = .ok cast) :
    checkAbsent draws steps property record = .accept cast := by
  simp [checkAbsent, isDefault, DefaultValue.resolve, isPresent, accepted]

/--
How a property of a record that is checked without failures comes by its value, or by
none.  The outcome decides what a default sees.
-/
inductive Origin
    (check : ClassModel → List Step → Record → Outcome)
    (registry : Registry)
    (draws : Draws)
    (options : Options)
    (steps : List Step)
    (input output : Record)
    (name : String)
    (property : Property) : Option Json → Prop where
  | brought {raw form : Json} :
      input.get? name = some raw →
      Brought check registry options property raw form →
      Origin check registry draws options steps input output name property (some form)
  | omitted :
      input.get? name = none →
      (options.mode = .update ∨ property.generated = true) →
      Origin check registry draws options steps input output name property none
  | completed {value? : Option Json} :
      input.get? name = none →
      options.mode = .create →
      property.generated = false →
      checkAbsent draws (steps ++ [.key name]) property (seenBy name input output) =
        ⟨value?, []⟩ →
      Origin check registry draws options steps input output name property value?

/-- A record that is checked without failures has an origin for each effective property. -/
theorem origin_of_clean
    {name : String}
    (has : model.effective.get? name = some property)
    (clean : (checkWith check registry draws options model steps input).failures = []) :
    Origin check registry draws options steps input
      (checkWith check registry draws options model steps input).record name property
      ((checkWith check registry draws options model steps input).record.get? name) := by
  simp only [checkWith, List.append_eq_nil_iff] at clean ⊢
  obtain ⟨⟨⟨_, presentClean⟩, completedClean⟩, _⟩ := clean
  have accepted :
      (acceptedRecord (present check registry options model steps input)).get? name = _ :=
    get?_acceptedRecord_present name
  cases found : input.get? name with
  | some raw =>
      have valueClean := List.flatMap_eq_nil_iff.mp presentClean _ (mem_present has found)
      obtain ⟨form, isForm, isBrought⟩ := brought_of_clean valueClean
      have isContained : input.contains name = true :=
        SortedMap.contains_iff.mpr ⟨raw, found⟩
      rw [get?_addDefaults_of_kept (.inr (.inl isContained)), accepted, has, found]
      simp only [Option.bind_some, isForm]
      exact .brought found isBrought
  | none =>
      have notContained : input.contains name = false :=
        SortedMap.contains_eq_false_iff.mpr found
      have notAccepted :
          (acceptedRecord (present check registry options model steps input)).get? name = none := by
        rw [accepted, has, found]
        rfl
      by_cases isOmitted : options.mode = .update ∨ property.generated = true
      · rw [get?_addDefaults_of_kept, notAccepted]
        · exact .omitted found isOmitted
        · rcases isOmitted with updates | generated
          · exact .inl updates
          · refine .inr (.inr fun other otherHas => ?_)
            cases has.symm.trans otherHas
            exact generated
      · obtain ⟨notUpdate, notGenerated⟩ := not_or.mp isOmitted
        have creates : options.mode = .create := by
          cases mode : options.mode with
          | create => rfl
          | update => exact absurd mode notUpdate
        refine .completed found creates (by simpa using notGenerated) ?_
        refine checkAbsent_of_addDefaults creates (fun key notBrought => ?_) has notContained
          (by simpa using notGenerated) completedClean
        rw [get?_acceptedRecord_present, SortedMap.contains_eq_false_iff.mp notBrought]
        cases model.effective.get? key <;> rfl

/-- What the class does not declare is not in the outcome. -/
theorem get?_checkWith_of_undeclared
    {name : String}
    (undeclared : model.effective.get? name = none) :
    (checkWith check registry draws options model steps input).record.get? name = none := by
  rw [checkWith]
  dsimp only
  rw [get?_addDefaults_of_kept, get?_acceptedRecord_present, undeclared]
  · rfl
  · refine .inr (.inr fun property has => ?_)
    rw [undeclared] at has
    cases has

theorem unexpected_eq_nil
    (declared : ∀ name, input.contains name = true → model.effective.contains name = true) :
    unexpected options model steps input = [] := by
  rw [unexpected]
  split
  · rfl
  · rw [List.map_eq_nil_iff, List.filter_eq_nil_iff]
    rintro ⟨name, value⟩ member
    have found := SortedMap.get?_eq_some_iff.mpr member
    obtain ⟨property, has⟩ :=
      SortedMap.contains_iff.mp (declared name (SortedMap.contains_iff.mpr ⟨value, found⟩))
    rw [ClassModel.property?, has]
    simp

/-- What is checked without failures satisfies the constraints on it. -/
theorem satisfied_of_clean
    {name : String}
    {value : Json}
    (clean : (checkWith check registry draws options model steps input).failures = [])
    (found :
      (checkWith check registry draws options model steps input).record.get? name = some value)
    (has : model.effective.get? name = some property)
    (isPresent : value.isNull = false)
    (notGenerated : property.generated = false) :
    property.constraints.Satisfied value := by
  simp only [checkWith, List.append_eq_nil_iff] at clean
  have valueClean :=
    List.flatMap_eq_nil_iff.mp clean.2 (name, value) (SortedMap.get?_eq_some_iff.mp found)
  exact violations_eq_nil_iff.mp valueClean property has isPresent notGenerated

/-- A record that no default is added to, and that lacks no value that it must have. -/
def IsComplete (options : Options) (model : ClassModel) (record : Record) : Prop :=
  options.mode = .create →
  ∀ name property,
    model.effective.get? name = some property →
    record.get? name = none →
    property.generated = false →
    property.mandatory = false ∧ property.default = none

/-- The second pass leaves a complete record as it is. -/
theorem addDefaults_of_isComplete
    {record : Record}
    (complete : IsComplete options model input) :
    addDefaults draws options model steps input record = ⟨record, []⟩ := by
  cases mode : options.mode with
  | update =>
      rw [addDefaults, mode]
  | create =>
      have nothingAdded :
          ∀ entry ∈ model.effective.entries,
            addAbsent draws steps input ⟨record, []⟩ entry = ⟨record, []⟩ := by
        rintro ⟨name, property⟩ member
        rw [addAbsent]
        split
        · rfl
        · rename_i notSkipped
          have absent : input.contains name = false ∧ property.generated = false := by
            simpa using notSkipped
          obtain ⟨optional, noDefault⟩ :=
            complete mode name property (SortedMap.get?_eq_some_iff.mpr member)
              (SortedMap.contains_eq_false_iff.mp absent.1) absent.2
          simp [checkAbsent, noDefault, withoutDefault, optional]
      rw [addDefaults, mode]
      generalize model.effective.entries = entries at nothingAdded
      induction entries with
      | nil =>
          rfl
      | cons first rest inductionHypothesis =>
          rw [List.foldl_cons, nothingAdded first List.mem_cons_self]
          exact inductionHypothesis fun entry member =>
            nothingAdded entry (List.mem_cons_of_mem _ member)

/-- A complete record is checked without failures if each of its values is accepted. -/
theorem clean_of_accepted
    (declared : ∀ name, input.contains name = true → model.effective.contains name = true)
    (complete : IsComplete options model input)
    (accepted :
      ∀ name property raw,
        model.effective.get? name = some property →
        input.get? name = some raw →
        ∃ form,
          checkPresent check registry options (steps ++ [.key name]) property raw =
              .accept form ∧
            (form.isNull = false → property.generated = false →
              property.constraints.Satisfied form)) :
    checkWith check registry draws options model steps input =
      ⟨acceptedRecord (present check registry options model steps input), []⟩ := by
  have presentClean :
      (present check registry options model steps input).flatMap
        (fun entry => entry.2.failures) = [] := by
    rw [List.flatMap_eq_nil_iff]
    intro verdict member
    obtain ⟨⟨name, property⟩, entryMember, brought⟩ := List.mem_filterMap.mp member
    obtain ⟨raw, found, rfl⟩ := Option.map_eq_some_iff.mp brought
    obtain ⟨form, isForm, _⟩ :=
      accepted name property raw (SortedMap.get?_eq_some_iff.mpr entryMember) found
    rw [isForm]
    rfl
  have constraintsClean :
      (acceptedRecord (present check registry options model steps input)).entries.flatMap
        (violations model steps) = [] := by
    rw [List.flatMap_eq_nil_iff]
    rintro ⟨name, value⟩ member
    refine violations_eq_nil_iff.mpr fun property has isPresent notGenerated => ?_
    have value? := SortedMap.get?_eq_some_iff.mpr member
    rw [get?_acceptedRecord_present, has, Option.bind_some, Option.bind_eq_some_iff] at value?
    obtain ⟨raw, found, isValue⟩ := value?
    obtain ⟨form, isForm, satisfied⟩ := accepted name property raw has found
    rw [isForm] at isValue
    cases isValue
    exact satisfied isPresent notGenerated
  rw [checkWith, addDefaults_of_isComplete complete, presentClean, unexpected_eq_nil declared]
  dsimp only
  rw [constraintsClean]
  rfl

/-- A complete record stays as it is if each of its values is accepted unchanged. -/
theorem checkWith_of_accepted
    (declared : ∀ name, input.contains name = true → model.effective.contains name = true)
    (complete : IsComplete options model input)
    (accepted :
      ∀ name property raw,
        model.effective.get? name = some property →
        input.get? name = some raw →
        checkPresent check registry options (steps ++ [.key name]) property raw = .accept raw ∧
          (raw.isNull = false → property.generated = false →
            property.constraints.Satisfied raw)) :
    checkWith check registry draws options model steps input = ⟨input, []⟩ := by
  rw [clean_of_accepted declared complete fun name property raw has found =>
    ⟨raw, accepted name property raw has found⟩]
  congr 1
  refine SortedMap.ext_get? fun name => ?_
  rw [get?_acceptedRecord_present]
  cases found : input.get? name with
  | none =>
      cases model.effective.get? name <;> rfl
  | some raw =>
      obtain ⟨property, has⟩ :=
        SortedMap.contains_iff.mp (declared name (SortedMap.contains_iff.mpr ⟨raw, found⟩))
      rw [has, Option.bind_some, Option.bind_some, (accepted name property raw has found).1]
      rfl

end Validation

end RecordSchema
