import RecordSchema.Proofs.Validation.Acceptance
import RecordSchema.Proofs.Validation.Locations
import RecordSchema.Proofs.Validation.Settling
import RecordSchema.Proofs.Validation.Standalone

namespace RecordSchema

/-!
# Required properties and missing values

What a class lists as required is what a new record is told to be missing.  A value that is
missing in an embedded record is reported at a path with a dot, so it is never taken for a
property of the record itself whose name has none.
-/

open Declarations (DeclaresProperty ofSets)
open Registry (compile HasSource)

namespace Location

/-- The path below the value of a named key has a dot. -/
theorem dot_mem_pathOf
    {name : String}
    {step : Step}
    {rest : List Step}
    (isNamed : name ≠ "") :
    '.' ∈ (pathOf (.key name :: step :: rest)).toList := by
  have below :
      (pathOf (.key name :: step :: rest)).toList = name.toList ++ dotted (step :: rest) :=
    toList_foldl_joinPath isNamed
  rw [below, dotted_cons]
  simp

end Location

namespace Registry

variable
  {definitions : DefinitionSet}
  {base : Foundation}
  {registry : Registry}
  {model : ClassModel}
  {name : String}
  {property : Property}

/-- A composed property is found under its own name. -/
theorem Founded.name_of_composed
    (founded : Founded definitions base)
    {id : Nat}
    (has : (composedOf base.composition id).get? name = some property) :
    property.name = name := by
  refine founded.composed_induction (motive := fun _ property => property.name = name)
    ?_ ?_ ?_ has
  · intro id model property found _ own
    obtain ⟨_, _, isFounded⟩ := founded.exists_definition found
    obtain ⟨declared, _, named, draft, read, rfl⟩ := (isFounded.own _ _).mp own
    obtain ⟨_, _, rfl⟩ := Property.ofDefinition_eq_ok_iff.mp read
    rw [Property.name_linkIn]
    exact named
  · intro _ _ _ _ _ _ _ _ ofParent
    exact ofParent
  · intro _ _ _ _ _ _
    rfl

/-- An effective property is found under its own name. -/
theorem IsLinked.name_of_effective
    (linked : IsLinked definitions base registry)
    (member : model ∈ registry.classes)
    (has : model.effective.get? name = some property) :
    property.name = name := by
  obtain ⟨id, found⟩ := List.mem_iff_getElem?.mp member
  obtain ⟨_, _, flagged⟩ := linked.origin found
  obtain ⟨composed, composedHas, isFlagged⟩ := flagged.effective.origin has
  have sameName := congrArg Property.name isFlagged.unflagged
  have composedName : composed.name = name := linked.founded.name_of_composed composedHas
  exact sameName.trans composedName

/-- The required properties are listed by the names under which they are found. -/
theorem IsLinked.mem_required_iff
    (linked : IsLinked definitions base registry)
    (member : model ∈ registry.classes) :
    name ∈ model.required.map Property.name ↔
      ∃ property, model.effective.get? name = some property ∧ property.isRequired = true := by
  simp only [ClassModel.required, List.mem_map, List.mem_filter, SortedMap.mem_values_iff]
  constructor
  · rintro ⟨property, ⟨⟨key, has⟩, required⟩, rfl⟩
    rw [← linked.name_of_effective member has] at has
    exact ⟨property, has, required⟩
  · rintro ⟨property, has, required⟩
    exact ⟨property, ⟨⟨name, has⟩, required⟩, linked.name_of_effective member has⟩

/-- What embeds records is declared by a set, since masks and ends of edges embed none. -/
theorem exists_declared_of_isEmbedded
    {sets : List DefinitionSet}
    (compiled : (compile sets).result = .ok registry)
    (member : model ∈ registry.classes)
    (has : model.effective.get? name = some property)
    (isEmbedded : property.type.isEmbedded = true) :
    ∃ definition,
      DeclaresProperty (ofSets sets) property.declaredOn definition ∧ definition.name = name := by
  rcases declared_or_carried_or_endpoint compiled member has with
    ⟨definition, declares, named, _⟩ | ⟨_, isFrom⟩ | isEnd
  · exact ⟨definition, declares, named⟩
  · rw [isFrom.type] at isEmbedded
    cases isEmbedded
  · have isLink : property.type = .link := congrArg Property.type isEnd
    rw [isLink] at isEmbedded
    cases isEmbedded

end Registry

namespace Validation

variable
  {check : ClassModel → List Step → Record → Outcome}
  {registry : Registry}
  {draws : Draws}
  {options : Options}
  {model : ClassModel}
  {steps : List Step}
  {input record : Record}
  {name : String}
  {property : Property}
  {failure : Failure}

/-- The default of a written property has a value, and that is not null. -/
theorem resolve_of_isWritten
    (written : property.IsWritten)
    {default : DefaultValue}
    (isDefault : property.default = some default)
    (draws : Draws)
    (steps : List Step)
    (record : Record) :
    ∃ value, default.resolve draws steps record = .ok value ∧ value.isNull = false := by
  cases default with
  | constant value => exact ⟨value, rfl, written.constant value isDefault⟩
  | generator source => cases source <;> exact ⟨_, rfl, rfl⟩
  | function source => exact absurd isDefault (written.noFunction source)

/-- A written property that is absent is missing exactly if it is required. -/
theorem missing_mem_checkAbsent_iff
    (written : property.IsWritten)
    (notGenerated : property.generated = false)
    (isMissing : failure.kind = .missingRequired) :
    failure ∈ (checkAbsent draws steps property record).failures ↔
      property.isRequired = true ∧ failure = .missing (.part steps) := by
  cases isDefault : property.default with
  | none =>
      rw [checkAbsent, isDefault]
      dsimp only
      rw [withoutDefault, Property.isRequired, isDefault, notGenerated]
      cases mandatory : property.mandatory <;> cases nullable : property.nullable <;>
        simp [Verdict.accept]
  | some default =>
      obtain ⟨value, resolved, present⟩ :=
        resolve_of_isWritten written isDefault draws steps record
      have notRequired : property.isRequired = false := by
        simp [Property.isRequired, isDefault]
      have notMissing : failure ∉ (checkAbsent draws steps property record).failures := by
        rw [checkAbsent, isDefault]
        simp only [resolved, present, Bool.false_eq_true, if_false]
        cases property.castValue value with
        | error error =>
            intro isCast
            rw [List.mem_singleton.mp isCast] at isMissing
            cases isMissing
        | ok cast => exact List.not_mem_nil
      simp [notMissing, notRequired]

/-- The second pass takes one property as missing if it is required and not brought. -/
theorem missing_mem_addAbsent_iff
    {outcome : Outcome}
    {entry : String × Property}
    (written : entry.2.IsWritten)
    (isMissing : failure.kind = .missingRequired) :
    failure ∈ (addAbsent draws steps input outcome entry).failures ↔
      failure ∈ outcome.failures ∨
        input.contains entry.1 = false ∧ entry.2.isRequired = true ∧
          failure = .missing (.part (steps ++ [.key entry.1])) := by
  rw [addAbsent]
  cases brought : input.contains entry.1 with
  | true => simp
  | false =>
      cases generated : entry.2.generated with
      | true => simp [Property.isRequired, generated]
      | false => simp [missing_mem_checkAbsent_iff written generated isMissing]

theorem missing_mem_foldl_addAbsent_iff
    {entries : List (String × Property)}
    {outcome : Outcome}
    (written : ∀ entry ∈ entries, entry.2.IsWritten)
    (isMissing : failure.kind = .missingRequired) :
    failure ∈ (entries.foldl (addAbsent draws steps input) outcome).failures ↔
      failure ∈ outcome.failures ∨
        ∃ entry ∈ entries,
          input.contains entry.1 = false ∧ entry.2.isRequired = true ∧
            failure = .missing (.part (steps ++ [.key entry.1])) := by
  induction entries generalizing outcome with
  | nil =>
      simp
  | cons first rest inductionHypothesis =>
      obtain ⟨firstWritten, restWritten⟩ := List.forall_mem_cons.mp written
      rw [List.foldl_cons, inductionHypothesis restWritten,
        missing_mem_addAbsent_iff firstWritten isMissing, or_assoc]
      simp only [List.exists_mem_cons_iff]

/-- The second pass finds missing what is required and not brought. -/
theorem missing_mem_addDefaults_iff
    (written :
      ∀ name property, model.effective.get? name = some property → property.IsWritten)
    (creates : options.mode = .create)
    (isMissing : failure.kind = .missingRequired) :
    failure ∈ (addDefaults draws options model steps input record).failures ↔
      ∃ name property,
        model.effective.get? name = some property ∧ input.contains name = false ∧
          property.isRequired = true ∧ failure = .missing (.part (steps ++ [.key name])) := by
  have entriesWritten : ∀ entry ∈ model.effective.entries, entry.2.IsWritten :=
    fun entry member => written entry.1 entry.2 (SortedMap.get?_eq_some_iff.mpr member)
  simp only [addDefaults, creates]
  rw [missing_mem_foldl_addAbsent_iff entriesWritten isMissing]
  simp only [List.not_mem_nil, false_or, Prod.exists, SortedMap.get?_eq_some_iff]

/-- What the first pass finds missing, it finds in a record that a value embeds. -/
theorem below_of_missing_mem_checkPresent
    (descends : Descends check)
    {raw : Json}
    (member : failure ∈ (checkPresent check registry options steps property raw).failures)
    (isMissing : failure.kind = .missingRequired) :
    property.type.isEmbedded = true ∧ failure.location.Below steps := by
  have notRefused :
      ∀ (value : Json) (kind : FailureKind),
        kind ≠ .missingRequired → failure ∉ (Verdict.refuse steps value kind).failures := by
    intro value kind otherKind refused
    rw [List.mem_singleton.mp refused] at isMissing
    exact otherKind isMissing
  rw [checkPresent] at member
  split at member
  · exact absurd member (notRefused _ _ (by simp))
  · split at member
    · split at member
      · cases member
      · exact absurd member (notRefused _ _ (by simp))
    · split at member
      · exact absurd member (notRefused _ _ (by simp))
      · rename_i value _
        constructor
        · by_contra notEmbedded
          rw [checkNested, if_pos (by simpa using notEmbedded)] at member
          cases member
        · rcases place_of_mem_checkNested descends member with ⟨tooDeep, _⟩ | below
          · rw [isMissing] at tooDeep
            cases tooDeep
          · exact below

/--
What a new record misses: a required property that it does not bring, or something in a
record that a value of it embeds.
-/
theorem missing_mem_checkWith_iff
    (written :
      ∀ name property, model.effective.get? name = some property → property.IsWritten)
    (creates : options.mode = .create)
    (isMissing : failure.kind = .missingRequired) :
    failure ∈ (checkWith check registry draws options model steps input).failures ↔
      (∃ entry ∈ present check registry options model steps input,
        failure ∈ entry.2.failures) ∨
        ∃ name property,
          model.effective.get? name = some property ∧ input.contains name = false ∧
            property.isRequired = true ∧ failure = .missing (.part (steps ++ [.key name])) := by
  have notUnexpected : failure ∉ unexpected options model steps input := by
    intro inUnexpected
    rw [unexpected] at inUnexpected
    split at inUnexpected
    · cases inUnexpected
    · obtain ⟨_, _, rfl⟩ := List.mem_map.mp inUnexpected
      cases isMissing
  have notViolation : ∀ entry, failure ∉ violations model steps entry := by
    intro entry inViolations
    rw [violations] at inViolations
    split at inViolations
    · cases inViolations
    · split at inViolations
      · cases inViolations
      · obtain ⟨kind, isViolation, rfl⟩ := List.mem_map.mp inViolations
        cases isMissing
        cases Constraints.mem_violations_iff.mp isViolation
  rw [mem_checkWith_failures_iff, missing_mem_addDefaults_iff written creates isMissing]
  simp [notUnexpected, notViolation]

/-- Sets in which every property that a class declares has a name. -/
def NamesProperties (sets : List DefinitionSet) : Prop :=
  ∀ className definition,
    DeclaresProperty (ofSets sets) className definition → definition.name ≠ ""

/-- What is missing in a record that a value embeds is reported at a path with a dot. -/
theorem dot_mem_path_of_below
    (isNamed : name ≠ "")
    (below : failure.location.Below [.key name]) :
    '.' ∈ failure.location.path.toList := by
  obtain ⟨rest, isPlace⟩ := below.within.exists_rest
  rw [isPlace] at below ⊢
  cases rest with
  | nil => simp at below
  | cons step rest => exact Location.dot_mem_pathOf isNamed

theorem failuresOf_validateRecord
    {outcome : Outcome}
    (found : check? registry draws options model [] input = some outcome) :
    failuresOf (validateRecord registry draws options model input) = outcome.failures := by
  rw [validateRecord, found]
  dsimp only
  split
  · rename_i clean
    exact (List.isEmpty_iff.mp clean).symm
  · rfl

/--
A new record of a class that is compiled from loaded definitions is told that the value of an
effective property is missing exactly if the class lists the property as required and the
record does not bring it.  The name of the property may have no dot: with one it could be the
path of a property of an embedded record.
-/
theorem missing_reported_iff
    {sets : List DefinitionSet}
    (loaded : ∀ set ∈ sets, set.IsLoaded)
    (named : NamesProperties sets)
    (compiled : (compile sets).result = .ok registry)
    (member : model ∈ registry.classes)
    (creates : options.mode = .create)
    (undotted : '.' ∉ name.toList) :
    (∃ failure ∈ failuresOf (validateRecord registry draws options model input),
      failure.location.path = name ∧ failure.kind = .missingRequired) ↔
      name ∈ model.required.map Property.name ∧ input.contains name = false := by
  have isWritten := Registry.isWritten_of_compile loaded compiled
  have keepsDepth := Registry.keepsDepth_of_isWritten isWritten
  obtain ⟨united, base, _, linked⟩ := Registry.compile_ok compiled
  have enough : input.toJson.objectDepth ≤ input.toJson.objectDepth + 1 := by
    omega
  have isOutcome :
      check? registry draws options model [] input =
        some (checkWith (checkRecord registry draws options input.toJson.objectDepth) registry
          draws options model [] input) :=
    check?_of_keepsDepth keepsDepth member enough
  rw [failuresOf_validateRecord isOutcome, linked.mem_required_iff member]
  constructor
  · rintro ⟨failure, inFailures, isPath, isMissing⟩
    rcases (missing_mem_checkWith_iff (isWritten model member) creates isMissing).mp inFailures with
      ⟨verdict, inPresent, inVerdict⟩ | ⟨key, property, has, absent, required, rfl⟩
    · -- What an embedded record misses stands below a declared name, at a path with a dot.
      obtain ⟨entry, entryMember, brought⟩ := List.mem_filterMap.mp inPresent
      obtain ⟨raw, _, rfl⟩ := Option.map_eq_some_iff.mp brought
      obtain ⟨isEmbedded, below⟩ :=
        below_of_missing_mem_checkPresent descends_checkRecord inVerdict isMissing
      obtain ⟨definition, declares, isName⟩ :=
        Registry.exists_declared_of_isEmbedded compiled member
          (SortedMap.get?_eq_some_iff.mpr entryMember) isEmbedded
      have dotted := dot_mem_path_of_below (isName ▸ named _ _ declares) below
      exact absurd (isPath ▸ dotted) undotted
    · obtain rfl : key = name := isPath
      exact ⟨⟨property, has, required⟩, absent⟩
  · rintro ⟨⟨property, has, required⟩, absent⟩
    refine ⟨.missing (.part [.key name]), ?_, rfl, rfl⟩
    exact (missing_mem_checkWith_iff (isWritten model member) creates rfl).mpr
      (.inr ⟨name, property, has, absent, required, rfl⟩)

/--
A document of addresses with a required street, of a carrier with a home, and of a class whose
name is the path of the street of the home.
-/
def homeDocument : Json.Document :=
  .ofJson
    (.object
      [("Address",
        .object
          [("embedded", .bool true),
            ("properties",
              .array
                [.object
                  [("name", .string "street"), ("type", .string "string"),
                    ("mandatory", .bool true), ("nullable", .bool false)]])]),
        ("Permissions",
          .object
            [("embedded", .bool true),
              ("properties",
                .array
                  [.object
                    [("name", .string "home"), ("type", .string "embedded"),
                      ("linkedClass", .string "Address")]])]),
        ("home.street", .object [])])

/-- A name that is a single step of a path: it is not empty, and it has no dot. -/
def isStepName (name : String) : Bool :=
  name != "" && !name.toList.contains '.'

theorem isStepName_iff :
    isStepName name = true ↔ name ≠ "" ∧ '.' ∉ name.toList := by
  simp [isStepName]

/-- What is tested of the entries of a set holds of all properties that it declares. -/
theorem isStepName_of_declares
    {set : DefinitionSet}
    (tested :
      (set.entries.all fun entry =>
        entry.2.properties.all fun property => isStepName property.name) = true)
    {className : String}
    {definition : PropertyDefinition}
    (declares : DeclaresProperty (ofSets [set]) className definition) :
    definition.name ≠ "" ∧ '.' ∉ definition.name.toList := by
  obtain ⟨classDefinition, ⟨other, inSets, declared⟩, member⟩ := declares
  rw [List.mem_singleton.mp inSets] at declared
  have ofClass := List.all_eq_true.mp tested _ (SortedMap.get?_eq_some_iff.mp declared)
  exact isStepName_iff.mp (List.all_eq_true.mp ofClass definition member)

private theorem home_observed :
    ((DefinitionSet.ofDocument? homeDocument).bind fun set =>
      (compile [set]).result.toOption.bind fun registry =>
        (registry.get? "Address").bind fun address =>
          (registry.get? "Permissions").bind fun carrier =>
            (carrier.effective.get? "home.street").map fun _ =>
              (set.entries.all fun entry =>
                  entry.2.properties.all fun property => isStepName property.name,
                address.required.map Property.name, carrier.required.map Property.name,
                (failuresOf (validateRecord registry ⟨fun _ => "", fun _ => 0⟩ {} carrier
                  (.ofList [("home", .object [])]))).any fun failure =>
                    failure.location.path == "home.street" &&
                      failure.kind == .missingRequired)) =
      some (true, ["street"], [], true) := by
  simp only [validateRecord, check?_eq_or]
  with_unfolding_all rfl

/-- An address without a street is told that it is missing, as its class lists it. -/
theorem missing_reported_iff_home :
    ∃ set registry address,
      DefinitionSet.ofDocument? homeDocument = some set ∧
        (compile [set]).result = .ok registry ∧ registry.get? "Address" = some address ∧
          address.required.map Property.name = ["street"] ∧
            ∃ failure ∈
                failuresOf (validateRecord registry ⟨fun _ => "", fun _ => 0⟩ {} address .empty),
              failure.location.path = "street" ∧ failure.kind = .missingRequired := by
  have observed := home_observed
  simp only [Option.bind_eq_some_iff, Option.map_eq_some_iff, Prod.mk.injEq] at observed
  obtain ⟨set, isRead, registry, compiled, address, found, _, _, _, _, tested, required, _⟩ :=
    observed
  have compiled := Registry.ok_of_toOption compiled
  have loaded := DefinitionSet.isLoaded_of_ofDocument? isRead
  have named : NamesProperties [set] :=
    fun _ _ declares => (isStepName_of_declares tested declares).1
  refine ⟨set, registry, address, isRead, compiled, found, required, ?_⟩
  exact
    (missing_reported_iff loaded named compiled (Registry.mem_classes_of_get? found) rfl
      (by decide)).mpr ⟨by simp [required], rfl⟩

/-- A carrier without the street of its home is told so, although it lists nothing as required. -/
theorem not_forall_missing_reported :
    ¬∀ sets registry,
      (∀ set ∈ sets, set.IsLoaded) →
      (∀ className definition,
        DeclaresProperty (ofSets sets) className definition →
        definition.name ≠ "" ∧ '.' ∉ definition.name.toList) →
      (compile sets).result = .ok registry →
      ∀ model ∈ registry.classes, ∀ draws options input name property,
        options.mode = .create →
        model.effective.get? name = some property →
        ((∃ failure ∈ failuresOf (validateRecord registry draws options model input),
          failure.location.path = name ∧ failure.kind = .missingRequired) ↔
          name ∈ model.required.map Property.name ∧ input.contains name = false) := by
  intro alwaysAgrees
  have observed := home_observed
  simp only [Option.bind_eq_some_iff, Option.map_eq_some_iff, Prod.mk.injEq] at observed
  obtain ⟨set, isRead, registry, compiled, _, _, carrier, found, mask, has, tested, _, required,
    reported⟩ := observed
  have agrees :=
    alwaysAgrees [set] registry (DefinitionSet.isLoaded_of_ofDocument? isRead)
      (fun _ _ => isStepName_of_declares tested) (Registry.ok_of_toOption compiled) carrier
      (Registry.mem_classes_of_get? found) ⟨fun _ => "", fun _ => 0⟩ {}
      (.ofList [("home", .object [])]) "home.street" mask rfl has
  obtain ⟨failure, member, isReported⟩ := List.any_eq_true.mp reported
  have listed := (agrees.mp ⟨failure, member, by simpa using isReported⟩).1
  rw [required] at listed
  cases listed

end Validation

end RecordSchema
