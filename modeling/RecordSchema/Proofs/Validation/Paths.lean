import RecordSchema.Proofs.Text.Integer
import RecordSchema.Proofs.Validation.Standalone

namespace RecordSchema

/-!
# Places with one path

A failure is reported at a path, the names of the steps to its place with dots between them.  In
one record two places with one path are the same, whatever the keys are, but for two ways in
which keys can hide where the steps are.  One key can be another one, a dot and more.  And the
empty keys that a path begins with leave no mark in it.
-/

open Registry (compile)

namespace Step

/-- Whether a step leads to the value of a key, not to an item. -/
def isKey : Step → Bool
  | .key _ => true
  | .index _ => false

theorem toList_name_index
    (position : Nat) :
    (index position).name.toList = Nat.toDigits 10 position := by
  simp [name, toString, Nat.repr]

theorem dot_not_mem_name_index
    (position : Nat) :
    '.' ∉ (index position).name.toList := by
  rw [toList_name_index]
  intro member
  cases Text.isDigit_of_mem_toDigits member

/-- Steps of one kind are told apart by their names. -/
theorem eq_of_name_eq
    {first second : Step}
    (alike : first.isKey = second.isKey)
    (sameName : first.name = second.name) :
    first = second := by
  cases first with
  | key firstName =>
      cases second with
      | key secondName => exact congrArg key sameName
      | index secondPosition => cases alike
  | index firstPosition =>
      cases second with
      | key secondName => cases alike
      | index secondPosition =>
          have sameDigits := congrArg String.toList sameName
          rw [toList_name_index, toList_name_index] at sameDigits
          have samePosition := congrArg (Nat.ofDigitChars 10 · 0) sameDigits
          simpa [Nat.ofDigitChars_ten_toDigits] using samePosition

/-- Only a key has an empty name. -/
theorem eq_key_of_name_eq_empty
    {step : Step}
    (unnamed : step.name = "") :
    step = .key "" := by
  cases step with
  | key name => exact congrArg key unnamed
  | index position =>
      have noDigits := congrArg String.toList unnamed
      rw [toList_name_index] at noDigits
      exact absurd noDigits Nat.toDigits_ne_nil

end Step

namespace Location

/-- Two lists of steps that part, if they do, at two keys or at two items. -/
def StepsPartAlike : List Step → List Step → Prop
  | first :: firstRest, second :: secondRest =>
      first.isKey = second.isKey ∧ (first = second → StepsPartAlike firstRest secondRest)
  | _, _ => True

/-- Two places that part, if they do, in one object or in one array. -/
def PartsAlike : Location → Location → Prop
  | .part first, .part second => StepsPartAlike first second
  | _, _ => True

/-- Places that part at two keys of one record, of which the second is the first, a dot and more. -/
def PartAtDot (first second : List Step) : Prop :=
  ∃ base name more firstRest secondRest,
    first = base ++ .key name :: firstRest ∧
      second = base ++ .key (name ++ "." ++ more) :: secondRest

/-- Places that part behind empty keys only, the first one going on with one more empty key. -/
def PartAtEmpty (first second : List Step) : Prop :=
  ∃ base firstRest secondRest,
    (∀ step ∈ base, step = .key "") ∧
      first = base ++ .key "" :: firstRest ∧
        second = base ++ secondRest ∧ secondRest.head? ≠ some (.key "")

/-- Places whose keys hide where they part: a path may not tell the one from the other. -/
def KeysHide (first second : List Step) : Prop :=
  (PartAtDot first second ∨ PartAtDot second first) ∨
    PartAtEmpty first second ∨ PartAtEmpty second first

variable
  {base first second firstRest secondRest rest : List Step}
  {firstStep secondStep step : Step}
  {left right : Location}

theorem stepsPartAlike_append_iff :
    StepsPartAlike (base ++ first) (base ++ second) ↔ StepsPartAlike first second := by
  induction base with
  | nil =>
      rfl
  | cons step rest inductionHypothesis =>
      simp [StepsPartAlike, inductionHypothesis]

theorem stepsPartAlike_comm :
    StepsPartAlike first second ↔ StepsPartAlike second first := by
  induction first generalizing second with
  | nil =>
      cases second <;> simp [StepsPartAlike]
  | cons step rest inductionHypothesis =>
      cases second with
      | nil =>
          simp [StepsPartAlike]
      | cons other others =>
          simp [StepsPartAlike, @inductionHypothesis others, eq_comm]

theorem partsAlike_comm :
    left.PartsAlike right ↔ right.PartsAlike left := by
  cases left <;> cases right <;> simp [PartsAlike, stepsPartAlike_comm]

/-- A place does not part from one that stands within it. -/
theorem partsAlike_of_within
    (within : right.Within base) :
    PartsAlike (.part base) right := by
  obtain ⟨rest, rfl⟩ := within.exists_rest
  have alike : StepsPartAlike (base ++ []) (base ++ rest) :=
    stepsPartAlike_append_iff.mpr trivial
  rwa [List.append_nil] at alike

theorem partsAlike_self
    (location : Location) :
    location.PartsAlike location := by
  cases location with
  | wholeRecord => trivial
  | part steps => exact partsAlike_of_within (by simp)

/-- What stands within two keys, or within two items, parts there. -/
theorem partsAlike_of_within_steps
    (alike : firstStep.isKey = secondStep.isKey)
    (different : firstStep ≠ secondStep)
    (inFirst : left.Within (base ++ [firstStep]))
    (inSecond : right.Within (base ++ [secondStep])) :
    left.PartsAlike right := by
  obtain ⟨firstRest, rfl⟩ := inFirst.exists_rest
  obtain ⟨secondRest, rfl⟩ := inSecond.exists_rest
  rw [PartsAlike, List.append_assoc, List.append_assoc, stepsPartAlike_append_iff]
  exact ⟨alike, fun same => absurd same different⟩

/-- A path that begins with a name has all dots. -/
theorem dot_cons_toList_pathOf
    (named : step.name ≠ "") :
    '.' :: (pathOf (step :: rest)).toList = dotted (step :: rest) := by
  have start : joinPath "" step.name = step.name := rfl
  rw [pathOf, List.foldl_cons, start, toList_foldl_joinPath named, dotted_cons]

theorem pathOf_cons_ne
    (named : step.name ≠ "") :
    pathOf (step :: rest) ≠ "" := by
  intro isEmpty
  have noName : '.' :: (pathOf (step :: rest)).toList = dotted (step :: rest) :=
    dot_cons_toList_pathOf named
  rw [isEmpty, dotted_cons] at noName
  simp [named] at noName

/-- An empty key in front leaves no mark in a path. -/
theorem pathOf_cons_empty :
    pathOf (.key "" :: rest) = pathOf rest :=
  rfl

/-- A name that reaches further than another one, before the same rest, has a dot behind it. -/
theorem partAtDot_of_longer
    {longer : List Char}
    (alike : firstStep.isKey = secondStep.isKey)
    (different : firstStep.name ≠ secondStep.name)
    (isName : secondStep.name.toList = firstStep.name.toList ++ longer)
    (isRest : dotted firstRest = longer ++ dotted secondRest) :
    PartAtDot (firstStep :: firstRest) (secondStep :: secondRest) := by
  obtain ⟨more, rfl⟩ : ∃ more, longer = '.' :: more := by
    cases longer with
    | nil =>
        rw [List.append_nil, String.toList_inj] at isName
        exact absurd isName.symm different
    | cons character more =>
        cases firstRest with
        | nil => simp [dotted] at isRest
        | cons next rest =>
            rw [dotted_cons, List.cons_append, List.cons.injEq] at isRest
            exact ⟨more, by rw [← isRest.1]⟩
  cases secondStep with
  | index position =>
      refine absurd ?_ (Step.dot_not_mem_name_index position)
      simp [isName]
  | key secondName =>
      cases firstStep with
      | index position => cases alike
      | key firstName =>
          refine ⟨[], firstName, String.ofList more, firstRest, secondRest, rfl, ?_⟩
          have sameName : secondName = firstName ++ "." ++ String.ofList more := by
            rw [← String.toList_inj]
            simpa [Step.name] using isName
          rw [sameName]
          rfl

theorem PartAtDot.cons
    (parts : PartAtDot first second) :
    PartAtDot (step :: first) (step :: second) := by
  obtain ⟨base, name, more, firstRest, secondRest, rfl, rfl⟩ := parts
  exact ⟨step :: base, name, more, firstRest, secondRest, rfl, rfl⟩

theorem PartAtEmpty.cons
    (parts : PartAtEmpty first second) :
    PartAtEmpty (.key "" :: first) (.key "" :: second) := by
  obtain ⟨base, firstRest, secondRest, areEmpty, rfl, rfl, notEmpty⟩ := parts
  exact ⟨.key "" :: base, firstRest, secondRest, List.forall_mem_cons.mpr ⟨rfl, areEmpty⟩, rfl,
    rfl, notEmpty⟩

theorem partAtEmpty_head
    (notEmpty : second.head? ≠ some (.key "")) :
    PartAtEmpty (.key "" :: rest) second :=
  ⟨[], rest, second, by simp, rfl, rfl, notEmpty⟩

/-- Names behind dots tell the steps, unless one of them has a dot itself. -/
theorem eq_or_partAtDot
    (alike : StepsPartAlike first second)
    (same : dotted first = dotted second) :
    first = second ∨ PartAtDot first second ∨ PartAtDot second first := by
  induction first generalizing second with
  | nil =>
      cases second with
      | nil => exact .inl rfl
      | cons step rest => simp [dotted] at same
  | cons firstStep firstRest inductionHypothesis =>
      cases second with
      | nil => simp [dotted] at same
      | cons secondStep secondRest =>
          rw [dotted_cons, dotted_cons, List.cons.injEq] at same
          obtain ⟨sameKind, restAlike⟩ := alike
          by_cases sameName : firstStep.name = secondStep.name
          · obtain rfl := Step.eq_of_name_eq sameKind sameName
            have sameRest := List.append_cancel_left same.2
            rcases inductionHypothesis (restAlike rfl) sameRest with rfl | parts | parts
            · exact .inl rfl
            · exact .inr (.inl parts.cons)
            · exact .inr (.inr parts.cons)
          · rcases List.append_eq_append_iff.mp same.2 with
              ⟨longer, isName, isRest⟩ | ⟨longer, isName, isRest⟩
            · exact .inr (.inl (partAtDot_of_longer sameKind sameName isName isRest))
            · exact .inr (.inr
                (partAtDot_of_longer sameKind.symm (Ne.symm sameName) isName isRest))

theorem KeysHide.cons
    (hide : KeysHide first second) :
    KeysHide (.key "" :: first) (.key "" :: second) :=
  hide.imp (.imp .cons .cons) (.imp .cons .cons)

theorem PartAtDot.exists_mem
    (parts : PartAtDot first second) :
    ∃ name, .key name ∈ second ∧ '.' ∈ name.toList := by
  obtain ⟨base, name, more, firstRest, secondRest, rfl, rfl⟩ := parts
  exact ⟨name ++ "." ++ more, by simp, by simp⟩

theorem PartAtEmpty.mem
    (parts : PartAtEmpty first second) :
    .key "" ∈ first := by
  obtain ⟨base, firstRest, secondRest, _, rfl, _⟩ := parts
  simp

/-- Keys that are not empty and have no dots hide nothing. -/
theorem not_keysHide
    (plain : ∀ name, .key name ∈ first ++ second → name ≠ "" ∧ '.' ∉ name.toList) :
    ¬KeysHide first second := by
  rintro ((parts | parts) | parts | parts)
  · obtain ⟨name, member, dotted⟩ := parts.exists_mem
    exact (plain name (List.mem_append_right _ member)).2 dotted
  · obtain ⟨name, member, dotted⟩ := parts.exists_mem
    exact (plain name (List.mem_append_left _ member)).2 dotted
  · exact (plain "" (List.mem_append_left _ parts.mem)).1 rfl
  · exact (plain "" (List.mem_append_right _ parts.mem)).1 rfl

/-- A path tells the steps of places that part alike, unless their keys hide where they part. -/
theorem eq_or_keysHide
    (alike : StepsPartAlike first second)
    (same : pathOf first = pathOf second) :
    first = second ∨ KeysHide first second := by
  -- Empty keys are taken off in front until a name begins one of the paths.
  induction first generalizing second with
  | nil =>
      cases second with
      | nil => exact .inl rfl
      | cons step rest =>
          have unnamed : step.name = "" := by
            by_contra named
            exact pathOf_cons_ne named same.symm
          obtain rfl := Step.eq_key_of_name_eq_empty unnamed
          exact .inr (.inr (.inr (partAtEmpty_head (by simp))))
  | cons firstStep firstRest inductionHypothesis =>
      by_cases firstUnnamed : firstStep.name = ""
      · obtain rfl := Step.eq_key_of_name_eq_empty firstUnnamed
        by_cases alsoEmpty : second.head? = some (.key "")
        · obtain ⟨secondRest, rfl⟩ := List.head?_eq_some_iff.mp alsoEmpty
          rw [pathOf_cons_empty, pathOf_cons_empty] at same
          rcases inductionHypothesis (alike.2 rfl) same with rfl | hide
          · exact .inl rfl
          · exact .inr hide.cons
        · exact .inr (.inr (.inl (partAtEmpty_head alsoEmpty)))
      · cases second with
        | nil => exact absurd same (pathOf_cons_ne firstUnnamed)
        | cons secondStep secondRest =>
            by_cases secondUnnamed : secondStep.name = ""
            · obtain rfl := Step.eq_key_of_name_eq_empty secondUnnamed
              refine .inr (.inr (.inr (partAtEmpty_head ?_)))
              intro isEmpty
              cases isEmpty
              exact firstUnnamed rfl
            · have sameDots :
                  dotted (firstStep :: firstRest) = dotted (secondStep :: secondRest) := by
                rw [← dot_cons_toList_pathOf firstUnnamed, same,
                  dot_cons_toList_pathOf secondUnnamed]
              exact (eq_or_partAtDot alike sameDots).imp_right .inl

end Location

namespace Validation

variable
  {check : ClassModel → List Step → Record → Outcome}
  {registry : Registry}
  {draws : Draws}
  {options : Options}
  {model : ClassModel}
  {steps : List Step}
  {input : Record}
  {name : String}
  {property : Property}
  {levels : Nat}
  {failure : Failure}

/-- Failures of which any two part in one object or in one array, if their places part. -/
def Cohere (failures : List Failure) : Prop :=
  ∀ first ∈ failures, ∀ second ∈ failures, first.location.PartsAlike second.location

theorem cohere_nil : Cohere [] :=
  fun _ member => nomatch member

theorem cohere_singleton
    (failure : Failure) :
    Cohere [failure] := by
  intro first firstMember second secondMember
  rw [List.mem_singleton.mp firstMember, List.mem_singleton.mp secondMember]
  exact Location.partsAlike_self _

theorem Cohere.append
    {firsts seconds : List Failure}
    (firstsCohere : Cohere firsts)
    (secondsCohere : Cohere seconds)
    (across :
      ∀ first ∈ firsts, ∀ second ∈ seconds, first.location.PartsAlike second.location) :
    Cohere (firsts ++ seconds) := by
  intro first firstMember second secondMember
  rcases List.mem_append.mp firstMember with inFirsts | inSeconds
  · rcases List.mem_append.mp secondMember with alsoFirsts | otherSeconds
    · exact firstsCohere first inFirsts second alsoFirsts
    · exact across first inFirsts second otherSeconds
  · rcases List.mem_append.mp secondMember with otherFirsts | alsoSeconds
    · exact Location.partsAlike_comm.mp (across second otherFirsts first inSeconds)
    · exact secondsCohere first inSeconds second alsoSeconds

/-- A failure in items stands within an item at or behind the first position. -/
theorem exists_index_of_mem_checkItems
    (descends : Descends check)
    {position : Nat}
    {items : List Json}
    (member : failure ∈ (checkItems (check model) steps position items).2) :
    ∃ later, position ≤ later ∧ failure.location.Within (steps ++ [.index later]) := by
  induction items generalizing position with
  | nil =>
      cases member
  | cons first rest inductionHypothesis =>
      have ofRest
          (inRest : failure ∈ (checkItems (check model) steps (position + 1) rest).2) :
          ∃ later, position ≤ later ∧ failure.location.Within (steps ++ [.index later]) := by
        obtain ⟨later, isLater, within⟩ := inductionHypothesis inRest
        exact ⟨later, by omega, within⟩
      cases first with
      | object members =>
          rcases List.mem_append.mp member with inFirst | inRest
          · exact ⟨position, Nat.le_refl position, descends.within inFirst⟩
          · exact ofRest inRest
      | _ =>
          rcases List.mem_cons.mp member with rfl | inRest
          · exact ⟨position, Nat.le_refl position, by simp⟩
          · exact ofRest inRest

section Levels

variable
  (descends : Descends check)
  (coheres : ∀ model steps input, Cohere (check model steps input).failures)

include descends coheres

theorem cohere_checkItems
    (position : Nat)
    (items : List Json) :
    Cohere (checkItems (check model) steps position items).2 := by
  induction items generalizing position with
  | nil =>
      exact cohere_nil
  | cons first rest inductionHypothesis =>
      have beforeRest
          {here : Failure}
          (isHere : here.location.Within (steps ++ [.index position])) :
          ∀ other ∈ (checkItems (check model) steps (position + 1) rest).2,
            here.location.PartsAlike other.location := by
        intro other inRest
        obtain ⟨later, isLater, within⟩ := exists_index_of_mem_checkItems descends inRest
        have alike : (Step.index position).isKey = (Step.index later).isKey := rfl
        refine Location.partsAlike_of_within_steps alike ?_ isHere within
        rw [ne_eq, Step.index.injEq]
        omega
      cases first with
      | object members =>
          refine (coheres model _ _).append (inductionHypothesis (position + 1)) ?_
          intro here inFirst
          exact beforeRest (descends.within inFirst)
      | _ =>
          refine (cohere_singleton _).append (inductionHypothesis (position + 1)) ?_
          intro here isHere
          exact beforeRest (by simp [List.mem_singleton.mp isHere])

theorem cohere_checkNested
    (value : Json) :
    Cohere (checkNested check registry property steps value).failures := by
  by_cases holds : HoldsRecords registry property value
  · obtain ⟨isEmbedded, isLinked, shape⟩ := holds
    obtain ⟨linked, found⟩ := Option.isSome_iff_exists.mp isLinked
    rcases shape with ⟨items, rfl⟩ | ⟨type, members, rfl⟩
    · rw [checkNested_array isEmbedded found]
      exact cohere_checkItems descends coheres 0 items
    · rw [checkNested_object type found]
      exact coheres linked steps _
  · rw [checkNested_of_not_holdsRecords holds]
    exact cohere_nil

theorem cohere_checkPresent
    (raw : Json) :
    Cohere (checkPresent check registry options steps property raw).failures := by
  rw [checkPresent]
  split
  · exact cohere_singleton _
  · split
    · split
      · exact cohere_nil
      · exact cohere_singleton _
    · split
      · exact cohere_singleton _
      · exact cohere_checkNested descends coheres _

omit coheres in
/-- A failure of a record stands at a key, or in the value that the record brings of a property. -/
theorem place_of_mem_checkWith
    (member :
      failure ∈ (checkWith check registry draws options model steps input).failures) :
    ∃ name,
      failure.location.Within (steps ++ [.key name]) ∧
        (failure.location = .part (steps ++ [.key name]) ∨
          ∃ property raw,
            model.effective.get? name = some property ∧ input.get? name = some raw ∧
              failure ∈
                (checkPresent check registry options (steps ++ [.key name]) property
                  raw).failures) := by
  have atKey
      {name : String}
      (isKey : failure.location = .part (steps ++ [.key name])) :
      failure.location.Within (steps ++ [.key name]) := by
    simp [isKey]
  rcases mem_checkWith_failures_iff.mp member with
    inUnexpected | ⟨verdict, inPresent, inVerdict⟩ | inDefaults | ⟨entry, _, inViolations⟩
  · obtain ⟨name, isKey⟩ := exists_of_mem_unexpected inUnexpected
    exact ⟨name, atKey isKey, .inl isKey⟩
  · obtain ⟨entry, entryMember, brought⟩ := List.mem_filterMap.mp inPresent
    obtain ⟨raw, found, rfl⟩ := Option.map_eq_some_iff.mp brought
    have has := SortedMap.get?_eq_some_iff.mpr entryMember
    exact ⟨entry.1, within_of_mem_checkPresent descends inVerdict,
      .inr ⟨entry.2, raw, has, found, inVerdict⟩⟩
  · obtain ⟨name, _, isKey⟩ := exists_of_mem_addDefaults inDefaults
    exact ⟨name, atKey isKey, .inl isKey⟩
  · have isKey := location_of_mem_violations inViolations
    exact ⟨entry.1, atKey isKey, .inl isKey⟩

theorem cohere_checkWith :
    Cohere (checkWith check registry draws options model steps input).failures := by
  intro first firstMember second secondMember
  obtain ⟨firstName, inFirst, firstPlace⟩ := place_of_mem_checkWith descends firstMember
  obtain ⟨secondName, inSecond, secondPlace⟩ := place_of_mem_checkWith descends secondMember
  by_cases sameName : firstName = secondName
  · subst sameName
    rcases firstPlace with firstAtKey | ⟨property, raw, has, found, firstInValue⟩
    · rw [firstAtKey]
      exact Location.partsAlike_of_within inSecond
    · rcases secondPlace with secondAtKey | ⟨_, _, alsoHas, alsoFound, secondInValue⟩
      · rw [secondAtKey]
        exact Location.partsAlike_comm.mp (Location.partsAlike_of_within inFirst)
      · cases has.symm.trans alsoHas
        cases found.symm.trans alsoFound
        exact cohere_checkPresent descends coheres raw first firstInValue second secondInValue
  · have alike : (Step.key firstName).isKey = (Step.key secondName).isKey := rfl
    exact Location.partsAlike_of_within_steps alike (by simpa using sameName) inFirst inSecond

end Levels

theorem cohere_checkRecord
    (model : ClassModel)
    (steps : List Step)
    (input : Record) :
    Cohere (checkRecord registry draws options levels model steps input).failures := by
  induction levels generalizing model steps input with
  | zero =>
      exact cohere_singleton _
  | succ levels inductionHypothesis =>
      exact cohere_checkWith descends_checkRecord inductionHypothesis

/-- Failures for which a record is rejected stand in it, one failure of the whole record apart. -/
theorem cohere_of_validateRecord
    {rejection : Rejection}
    (rejected : validateRecord registry draws options model input = .error rejection) :
    Cohere rejection.failures ∧
      ∀ failure ∈ rejection.failures, ∃ steps, failure.location = .part steps := by
  rw [validateRecord] at rejected
  split at rejected
  · cases rejected
    exact ⟨cohere_singleton _, by simp⟩
  · rename_i outcome found
    split at rejected
    · cases rejected
    · cases rejected
      obtain ⟨levels, rfl, settled⟩ := check?_eq_some_iff.mp found
      refine ⟨cohere_checkRecord model [] input, fun failure member => ?_⟩
      obtain ⟨name, rest, isPlace, _⟩ := standsIn_of_mem_check? found member
      exact ⟨_, isPlace⟩

/--
Two failures of one record that are reported at one path stand at one place, or they part where
a key hides it: at two keys of which one is the other, a dot and more, or at an empty key behind
nothing but empty keys.  So it is one place if no key is empty or has a dot.
-/
theorem one_path_one_place
    {rejection : Rejection}
    (rejected : validateRecord registry draws options model input = .error rejection)
    {first second : Failure}
    (firstMember : first ∈ rejection.failures)
    (secondMember : second ∈ rejection.failures)
    (samePath : first.location.path = second.location.path) :
    ∃ firstSteps secondSteps,
      first.location = .part firstSteps ∧ second.location = .part secondSteps ∧
        (firstSteps = secondSteps ∨ Location.KeysHide firstSteps secondSteps) ∧
          ((∀ name, .key name ∈ firstSteps ++ secondSteps → name ≠ "" ∧ '.' ∉ name.toList) →
            firstSteps = secondSteps) := by
  obtain ⟨cohere, areParts⟩ := cohere_of_validateRecord rejected
  obtain ⟨firstSteps, firstIsPart⟩ := areParts first firstMember
  obtain ⟨secondSteps, secondIsPart⟩ := areParts second secondMember
  have alike := cohere first firstMember second secondMember
  rw [firstIsPart, secondIsPart] at alike samePath
  have sameOrHidden := Location.eq_or_keysHide alike samePath
  exact ⟨firstSteps, secondSteps, firstIsPart, secondIsPart, sameOrHidden,
    fun plain => sameOrHidden.resolve_right (Location.not_keysHide plain)⟩

/-- A document of guests with a property that embeds an address. -/
def guestDocument (propertyName : String) : Json.Document :=
  .ofJson
    (.object
      [("Address",
        .object
          [("embedded", .bool true),
            ("properties",
              .array
                [.object
                  [("name", .string "street"), ("type", .string "string"),
                    ("nonEmpty", .bool true), ("choices", .array [.string "Main"])]])]),
        ("Guest",
          .object
            [("properties",
              .array
                [.object
                  [("name", .string propertyName), ("type", .string "embedded"),
                    ("linkedClass", .string "Address")]])])])

/-- The places of the failures of a guest, and their paths. -/
def guestPlaces (draws : Draws) (propertyName : String) (input : Record) :
    Option (List (Location × String)) :=
  (DefinitionSet.ofDocument? (guestDocument propertyName)).bind fun set =>
    (compile [set]).result.toOption.bind fun registry =>
      (registry.get? "Guest").map fun guest =>
        (failuresOf (validateRecord registry draws {} guest input)).map fun failure =>
          (failure.location, failure.location.path)

/-- A guest with a street that is empty, and with a key that is the path of the street. -/
def dottedGuest : Record :=
  .ofList [("home", .object [("street", .string "")]), ("home.street", .ofInt 0)]

private theorem dottedGuest_places :
    guestPlaces ⟨fun _ => "", fun _ => 0⟩ "home" dottedGuest =
      some
        [(.part [.key "home.street"], "home.street"),
          (.part [.key "home", .key "street"], "home.street"),
          (.part [.key "home", .key "street"], "home.street")] := by
  simp only [guestPlaces, validateRecord, check?_eq_or]
  with_unfolding_all rfl

private theorem dottedGuest_rejected :
    ∃ set registry guest rejection extra empty unlisted,
      DefinitionSet.ofDocument? (guestDocument "home") = some set ∧
        (compile [set]).result = .ok registry ∧ registry.get? "Guest" = some guest ∧
          validateRecord registry ⟨fun _ => "", fun _ => 0⟩ {} guest dottedGuest =
              .error rejection ∧
            rejection.failures = [extra, empty, unlisted] ∧
              extra.location = .part [.key "home.street"] ∧
                empty.location = .part [.key "home", .key "street"] ∧
                  unlisted.location = .part [.key "home", .key "street"] := by
  have places := dottedGuest_places
  simp only [guestPlaces, Option.bind_eq_some_iff, Option.map_eq_some_iff] at places
  obtain ⟨set, isRead, registry, compiled, guest, found, places⟩ := places
  cases answer : validateRecord registry ⟨fun _ => "", fun _ => 0⟩ {} guest dottedGuest with
  | ok output =>
      rw [answer] at places
      cases places
  | error rejection =>
      rw [answer, failuresOf, List.map_eq_cons_iff] at places
      obtain ⟨extra, _, shape, isExtra, places⟩ := places
      obtain ⟨empty, _, rfl, isEmpty, places⟩ := List.map_eq_cons_iff.mp places
      obtain ⟨unlisted, _, rfl, isUnlisted, places⟩ := List.map_eq_cons_iff.mp places
      cases List.map_eq_nil_iff.mp places
      exact ⟨set, registry, guest, rejection, extra, empty, unlisted, isRead,
        Registry.ok_of_toOption compiled, found, answer, shape, congrArg Prod.fst isExtra,
        congrArg Prod.fst isEmpty, congrArg Prod.fst isUnlisted⟩

/--
Of three failures at one path, two stand at the empty street, and the third parts from them at
a key that is another one, a dot and more.
-/
theorem one_path_one_place_dotted :
    ∃ set registry guest rejection extra empty unlisted,
      DefinitionSet.ofDocument? (guestDocument "home") = some set ∧
        (compile [set]).result = .ok registry ∧ registry.get? "Guest" = some guest ∧
          validateRecord registry ⟨fun _ => "", fun _ => 0⟩ {} guest dottedGuest =
              .error rejection ∧
            rejection.failures = [extra, empty, unlisted] ∧
              (∀ failure ∈ rejection.failures, failure.location.path = "home.street") ∧
                empty.location = unlisted.location ∧
                  extra.location = .part [.key "home.street"] ∧
                    empty.location = .part [.key "home", .key "street"] ∧
                      Location.KeysHide [.key "home.street"] [.key "home", .key "street"] := by
  obtain ⟨set, registry, guest, rejection, extra, empty, unlisted, isRead, compiled, found,
    rejected, shape, extraPlace, emptyPlace, unlistedPlace⟩ := dottedGuest_rejected
  have onePath : ∀ failure ∈ rejection.failures, failure.location.path = "home.street" := by
    rw [shape]
    simp only [List.forall_mem_cons, extraPlace, emptyPlace, unlistedPlace]
    exact ⟨rfl, rfl, rfl, by simp⟩
  have extraMember : extra ∈ rejection.failures := by simp [shape]
  have emptyMember : empty ∈ rejection.failures := by simp [shape]
  have unlistedMember : unlisted ∈ rejection.failures := by simp [shape]
  obtain ⟨_, _, isExtra, isEmpty, apart, _⟩ :=
    one_path_one_place rejected extraMember emptyMember
      ((onePath _ extraMember).trans (onePath _ emptyMember).symm)
  obtain ⟨_, _, alsoEmpty, isUnlisted, _, together⟩ :=
    one_path_one_place rejected emptyMember unlistedMember
      ((onePath _ emptyMember).trans (onePath _ unlistedMember).symm)
  cases extraPlace.symm.trans isExtra
  cases emptyPlace.symm.trans isEmpty
  cases emptyPlace.symm.trans alsoEmpty
  cases unlistedPlace.symm.trans isUnlisted
  have samePlace : empty.location = unlisted.location := by
    rw [alsoEmpty, isUnlisted, together (by simp +contextual)]
  exact ⟨set, registry, guest, rejection, extra, empty, unlisted, isRead, compiled, found,
    rejected, shape, onePath, samePlace, extraPlace, emptyPlace, apart.resolve_left (by simp)⟩

/-- A key that a guest may not bring and a part of its home are reported at one path. -/
theorem not_forall_one_place :
    ¬∀ sets registry,
      (∀ set ∈ sets, set.IsLoaded) →
      (compile sets).result = .ok registry →
      ∀ model ∈ registry.classes, ∀ draws options input rejection,
        validateRecord registry draws options model input = .error rejection →
        ∀ first ∈ rejection.failures, ∀ second ∈ rejection.failures,
          first.location.path = second.location.path → first.location = second.location := by
  intro alwaysOnePlace
  obtain ⟨set, registry, guest, rejection, extra, empty, unlisted, isRead, compiled, found,
    rejected, shape, extraPlace, emptyPlace, _⟩ := dottedGuest_rejected
  have samePath : extra.location.path = empty.location.path := by
    rw [extraPlace, emptyPlace]
    rfl
  have samePlace :=
    alwaysOnePlace [set] registry (DefinitionSet.isLoaded_of_ofDocument? isRead) compiled guest
      (Registry.mem_classes_of_get? found) _ _ _ rejection rejected extra (by simp [shape]) empty
      (by simp [shape]) samePath
  rw [extraPlace, emptyPlace] at samePlace
  simp at samePlace

/-- An empty key in front is hidden too. -/
example :
    guestPlaces ⟨fun _ => "", fun _ => 0⟩ ""
        (.ofList [("", .object [("street", .string "")]), ("street", .ofInt 0)]) =
      some
        [(.part [.key "street"], "street"), (.part [.key "", .key "street"], "street"),
          (.part [.key "", .key "street"], "street")] := by
  simp only [guestPlaces, validateRecord, check?_eq_or]
  with_unfolding_all rfl

end Validation

end RecordSchema
