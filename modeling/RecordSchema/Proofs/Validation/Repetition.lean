import RecordSchema.Proofs.Canonical
import RecordSchema.Proofs.Validation.Acceptance

namespace RecordSchema

/-!
# Checking a record again

The form in which a record is accepted can be checked again.  The values that were brought
or put in are canonical, so their casts keep them, and nothing is missing.  What remains are
the records in a value, and these are checked again as well.  Whether all of that goes well
depends on two things: the defaults that embed records, which are never checked as records,
and the sets of records, which can lose items the second time.
-/

open Registry (compile)

namespace Validation

variable
  {check : ClassModel → List Step → Record → Outcome}
  {registry : Registry}
  {draws : Draws}
  {options : Options}
  {model linked : ClassModel}
  {steps : List Step}
  {input output record : Record}
  {property : Property}
  {fixed : Prop}
  {levels : Nat}

/--
A property of which no record gets in unchecked, and none gets lost that is needed: its
default holds only records that the linked class accepts, and a set needs one item at most.
-/
structure NestsSoundly
    (registry : Registry)
    (options : Options)
    (property : Property) : Prop where
  default :
    ∀ linked constant value,
      registry.linkedClass? property = some linked →
      property.type.isEmbedded = true →
      property.generated = false →
      property.default = some (.constant constant) →
      property.castValue constant = .ok value →
      HoldsOnly (Accepts registry options linked) value
  set :
    ∀ bound,
      (registry.linkedClass? property).isSome = true →
      property.type = .embeddedset →
      property.constraints.minItems = some bound →
      bound.toNat ≤ 1

/-- A property that has no default and is no set if it embeds records of a class. -/
def NestsPlainly (registry : Registry) (property : Property) : Prop :=
  property.type.isEmbedded = true →
  (registry.linkedClass? property).isSome = true →
  property.default = none ∧ property.type ≠ .embeddedset

instance : DecidablePred (NestsPlainly registry) :=
  fun property =>
    inferInstanceAs (Decidable
      (property.type.isEmbedded = true →
        (registry.linkedClass? property).isSome = true →
        property.default = none ∧ property.type ≠ .embeddedset))

theorem NestsPlainly.nestsSoundly
    (plainly : NestsPlainly registry property)
    (options : Options) :
    NestsSoundly registry options property where
  default linked constant value found isEmbedded _ isDefault _ := by
    obtain ⟨noDefault, _⟩ := plainly isEmbedded (Option.isSome_of_eq_some found)
    cases noDefault.symm.trans isDefault
  set bound isLinked isSet _ := by
    have isEmbedded : property.type.isEmbedded = true := by
      rw [isSet]
      rfl
    exact absurd isSet (plainly isEmbedded isLinked).2

theorem exists_source_of_passes
    {check : List Step → Record → Outcome}
    {items forms : List Json}
    (passes : List.Forall₂ (Passes check) items forms)
    {form : Json}
    (member : form ∈ forms) :
    ∃ item ∈ items, Passes check item form := by
  induction passes with
  | nil =>
      cases member
  | cons firstPasses _ inductionHypothesis =>
      rcases List.mem_cons.mp member with rfl | later
      · exact ⟨_, List.mem_cons_self, firstPasses⟩
      · obtain ⟨item, itemMember, itemPasses⟩ := inductionHypothesis later
        exact ⟨item, List.mem_cons_of_mem _ itemMember, itemPasses⟩

theorem length_le_length_dropRepeated
    {bound : Nat}
    {items : List Json}
    (small : bound ≤ 1)
    (enough : bound ≤ items.length) :
    bound ≤ (Property.dropRepeated [] items).length := by
  cases items with
  | nil =>
      exact enough
  | cons first rest =>
      have isKept : Property.dropRepeated [] (first :: rest) =
          first :: Property.dropRepeated [first] rest :=
        rfl
      rw [isKept, List.length_cons]
      omega

/-- The forms of an array of records are accepted again if each of them passes again. -/
theorem isAcceptedAgain_of_records
    {raw : Json}
    {items forms : List Json}
    (written : property.IsWritten)
    (sound : NestsSoundly registry options property)
    (plainly : fixed → NestsPlainly registry property)
    (writable : options.mode = .update → property.readOnly = false)
    (accepted : property.castValue raw = .ok (.array items))
    (found : registry.linkedClass? property = some linked)
    (isEmbedded : property.type.isEmbedded = true)
    (passes : List.Forall₂ (Passes (check linked)) items forms)
    (again : ∀ form ∈ forms, PassesAgain registry options fixed linked form)
    (enough : (Json.array forms).objectDepth ≤ levels)
    (satisfied :
      property.generated = false → property.constraints.Satisfied (.array forms)) :
    IsAcceptedAgain registry draws options fixed levels steps property (.array forms) := by
  obtain ⟨isCollection, _⟩ := Property.exists_of_castValue_array written.builtin accepted
  have formStays : ∀ form ∈ forms, property.castItem form = .ok form := by
    intro form member
    obtain ⟨item, itemMember, itemPasses⟩ := exists_source_of_passes passes member
    obtain ⟨members, steps, record, rfl, _, rfl⟩ := itemPasses
    exact Property.castItem_object_of_mem written.builtin accepted itemMember record.entries
  have isCast := Property.castValue_array_of_fixed isCollection formStays
  cases isSet : property.type.isSet with
  | false =>
      rw [isSet, if_neg (by simp)] at isCast
      apply isAcceptedAgain_of_castValue written writable rfl isCast (fun _ => rfl) ?_ enough
        satisfied
      intro _ other otherFound
      cases found.symm.trans otherFound
      exact again
  | true =>
      -- Forms of different items may be equal, so a set can lose some of them here.
      have type := PropertyType.eq_embeddedset isSet isEmbedded
      have isLinked := Option.isSome_of_eq_some found
      rw [isSet, if_pos rfl] at isCast
      apply isAcceptedAgain_of_castValue written writable rfl isCast ?_ ?_ enough ?_
      · intro isFixed
        exact absurd type (plainly isFixed isEmbedded isLinked).2
      · intro _ other otherFound
        cases found.symm.trans otherFound
        intro form member
        exact again form (Property.mem_of_mem_dropRepeated member)
      · intro notGenerated
        have formsSatisfied := satisfied notGenerated
        obtain ⟨minItems, shape⟩ := written.constraints isEmbedded
        have small := sound.set
        rw [shape] at formsSatisfied small ⊢
        rw [Constraints.satisfied_minItems_iff] at formsSatisfied ⊢
        intro bound kept isBound isKept
        cases isKept
        apply length_le_length_dropRepeated (small bound isLinked type isBound)
        exact formsSatisfied bound forms isBound rfl

/-- What was brought is accepted again if the records in it pass again. -/
theorem isAcceptedAgain_of_brought
    {raw value : Json}
    (written : property.IsWritten)
    (sound : NestsSoundly registry options property)
    (plainly : fixed → NestsPlainly registry property)
    (again :
      ∀ linked,
        registry.linkedClass? property = some linked →
        ∀ item form,
          Passes (check linked) item form →
          PassesAgain registry options fixed linked form)
    (brought : Brought check registry options property raw value)
    (enough : value.objectDepth ≤ levels)
    (satisfied :
      value.isNull = false → property.generated = false → property.constraints.Satisfied value) :
    IsAcceptedAgain registry draws options fixed levels steps property value := by
  cases brought with
  | null writable _ nullable =>
      exact isAcceptedAgain_null writable nullable
  | @cast source _ writable _ accepted nested =>
      cases nested with
      | plain holdsNone =>
          have isPresent := Property.isNull_of_castValue written.builtin accepted
          have stays := Property.castValue_of_castValue written.builtin accepted
          exact isAcceptedAgain_of_castValue written writable isPresent stays (fun _ => rfl)
            (fun holds => absurd holds holdsNone) enough (satisfied isPresent)
      | @record linked _ _ found type passes =>
          have passesAgain := again linked found source value passes
          obtain ⟨members, steps, record, rfl, _, rfl⟩ := passes
          have stays : property.castValue record.toJson = .ok record.toJson := by
            have single : property.type.isCollection = false := by
              rw [type]
              rfl
            rw [Property.castValue_of_single single] at accepted ⊢
            exact Property.castItem_object written.builtin accepted record.entries
          apply isAcceptedAgain_of_castValue written writable rfl stays (fun _ => rfl) ?_ enough
            (satisfied rfl)
          intro _ other otherFound
          cases found.symm.trans otherFound
          exact passesAgain
      | @records linked items forms found isEmbedded passes =>
          have passesAgain : ∀ form ∈ forms, PassesAgain registry options fixed linked form := by
            intro form member
            obtain ⟨item, _, itemPasses⟩ := exists_source_of_passes passes member
            exact again linked found item form itemPasses
          exact isAcceptedAgain_of_records written sound plainly writable accepted found isEmbedded
            passes passesAgain enough (satisfied rfl)

/-- Nothing is put in for a property only if that is optional and has no default. -/
theorem optional_of_checkAbsent
    (written : property.IsWritten)
    (isAbsent : checkAbsent draws steps property record = ⟨none, []⟩) :
    property.mandatory = false ∧ property.default = none := by
  cases isDefault : property.default with
  | none =>
      simp only [checkAbsent, isDefault, withoutDefault] at isAbsent
      cases mandatory : property.mandatory with
      | false => exact ⟨rfl, rfl⟩
      | true =>
          rw [mandatory] at isAbsent
          cases nullable : property.nullable <;> rw [nullable] at isAbsent <;> cases isAbsent
  | some default =>
      exfalso
      simp only [checkAbsent, isDefault] at isAbsent
      cases default with
      | constant constant =>
          have isPresent := written.constant constant isDefault
          simp only [DefaultValue.resolve, isPresent] at isAbsent
          cases accepted : property.castValue constant <;> rw [accepted] at isAbsent <;>
            cases isAbsent
      | generator source =>
          have isPresent : (draws.value steps source).isNull = false := by
            cases source <;> rfl
          simp only [DefaultValue.resolve, isPresent] at isAbsent
          cases accepted : property.castValue (draws.value steps source) <;>
            rw [accepted] at isAbsent <;> cases isAbsent
      | function source =>
          exact written.noFunction source isDefault

/-- A generated value holds no records. -/
theorem holdsOnly_of_castValue_draw
    {test : Json → Prop}
    {source : DefaultGenerator}
    {value : Json}
    (builtin : property.HasBuiltinCast)
    (accepted : property.castValue (draws.value steps source) = .ok value) :
    HoldsOnly test value := by
  cases value with
  | object members =>
      obtain ⟨_, isObject⟩ := Property.exists_of_castValue_object builtin accepted
      cases source <;> cases isObject
  | array items =>
      obtain ⟨_, _, isArray⟩ := Property.exists_of_castValue_array builtin accepted
      cases source <;> cases isArray
  | _ => trivial

/-- What is put in under a sound property holds only records that the linked class accepts. -/
theorem holdsOnly_of_checkAbsent
    {value : Json}
    (written : property.IsWritten)
    (sound : NestsSoundly registry options property)
    (isEmbedded : property.type.isEmbedded = true)
    (found : registry.linkedClass? property = some linked)
    (notGenerated : property.generated = false)
    (isValue : checkAbsent draws steps property record = ⟨some value, []⟩) :
    HoldsOnly (Accepts registry options linked) value := by
  rcases value_of_checkAbsent isValue with
    ⟨rfl, _⟩ | ⟨default, given, isDefault, resolved, accepted⟩
  · trivial
  · cases default with
    | constant constant =>
        cases resolved
        exact sound.default linked given value found isEmbedded notGenerated isDefault accepted
    | generator source =>
        cases resolved
        exact holdsOnly_of_castValue_draw written.builtin accepted
    | function source =>
        exact absurd isDefault (written.noFunction source)

/-- What was put in is accepted again if the records in defaults are accepted. -/
theorem isAcceptedAgain_of_checkAbsent
    {place : List Step}
    {value : Json}
    {firstDraws : Draws}
    (written : property.IsWritten)
    (keepsDepth : registry.Every Property.KeepsDepth)
    (sound : NestsSoundly registry options property)
    (plainly : fixed → NestsPlainly registry property)
    (creates : options.mode = .create)
    (notGenerated : property.generated = false)
    (isValue : checkAbsent firstDraws place property record = ⟨some value, []⟩)
    (enough : value.objectDepth ≤ levels)
    (satisfied : value.isNull = false → property.constraints.Satisfied value) :
    IsAcceptedAgain registry draws options fixed levels steps property value := by
  have writable : options.mode = .update → property.readOnly = false := by
    intro updates
    cases creates.symm.trans updates
  rcases value_of_checkAbsent isValue with
    ⟨rfl, nullable⟩ | ⟨default, given, isDefault, resolved, accepted⟩
  · exact isAcceptedAgain_null writable nullable
  · have isPresent := Property.isNull_of_castValue written.builtin accepted
    have stays := Property.castValue_of_castValue written.builtin accepted
    apply isAcceptedAgain_of_castValue written writable isPresent stays (fun _ => rfl) ?_ enough
      (fun _ => satisfied isPresent)
    -- The value has been put in unchecked, and it is the second check that finds records in it.
    rintro ⟨isEmbedded, isLinked, _⟩ linked found
    have notFixed : fixed → False := by
      intro isFixed
      cases (plainly isFixed isEmbedded isLinked).1.symm.trans isDefault
    apply (holdsOnly_of_checkAbsent written sound isEmbedded found notGenerated isValue).imp
    intro item accepts
    exact (accepts.passesAgain keepsDepth (Registry.mem_classes_of_linkedClass? found)).imp notFixed

/-- After a clean check of a new record no value is missing. -/
theorem isComplete_of_clean
    (written :
      ∀ name property, model.effective.get? name = some property → property.IsWritten)
    (clean : checkWith check registry draws options model steps input = ⟨output, []⟩) :
    IsComplete options model output := by
  intro creates name property has absent notGenerated
  have origin := origin_of_clean has (congrArg Outcome.failures clean)
  rw [clean, absent] at origin
  cases origin with
  | omitted _ reason =>
      rcases reason with updates | generated
      · cases creates.symm.trans updates
      · cases notGenerated.symm.trans generated
  | completed _ _ _ isAbsent =>
      exact optional_of_checkAbsent (written name property has) isAbsent

theorem declared_of_clean
    (clean : checkWith check registry draws options model steps input = ⟨output, []⟩)
    (name : String)
    (contained : output.contains name = true) :
    model.effective.contains name = true := by
  by_contra undeclared
  have absent : output.get? name = none := by
    have isOutput : _ = output := congrArg Outcome.record clean
    rw [← isOutput]
    apply get?_checkWith_of_undeclared
    exact SortedMap.contains_eq_false_iff.mp (Bool.eq_false_iff.mpr undeclared)
  rw [SortedMap.contains_eq_false_iff.mpr absent] at contained
  cases contained

/-- A complete record passes again if each of its values is accepted again. -/
theorem checkWith_of_isAcceptedAgain
    (declared : ∀ name, record.contains name = true → model.effective.contains name = true)
    (complete : IsComplete options model record)
    (accepted :
      ∀ name property value,
        model.effective.get? name = some property →
        record.get? name = some value →
        IsAcceptedAgain registry draws options fixed levels (steps ++ [.key name]) property
          value) :
    ∃ again,
      checkWith (checkRecord registry draws options levels) registry draws options model steps
          record = ⟨again, []⟩ ∧
        (fixed → again = record) := by
  by_cases isFixed : fixed
  · refine ⟨record, checkWith_of_accepted declared complete ?_, fun _ => rfl⟩
    intro name property value has found
    obtain ⟨form, isForm, satisfied, stays⟩ := accepted name property value has found
    rw [stays isFixed] at isForm satisfied
    exact ⟨isForm, satisfied⟩
  · refine ⟨_, clean_of_accepted declared complete ?_, fun holds => absurd holds isFixed⟩
    intro name property value has found
    obtain ⟨form, isForm, satisfied, _⟩ := accepted name property value has found
    exact ⟨form, isForm, satisfied⟩

/-- The outcome of all passes passes again if those of the records in it do. -/
theorem passesAgain_of_checkWith
    (written : registry.Every Property.IsWritten)
    (sound : registry.Every (NestsSoundly registry options))
    (plainly : fixed → registry.Every (NestsPlainly registry))
    (member : model ∈ registry.classes)
    (again :
      ∀ linked ∈ registry.classes, ∀ item form,
        Passes (check linked) item form → PassesAgain registry options fixed linked form)
    (clean : checkWith check registry draws options model steps input = ⟨output, []⟩) :
    PassesAgain registry options fixed model output.toJson := by
  refine ⟨output.entries, rfl, fun lastDraws place levels enough => ?_⟩
  rw [Record.ofMembers_entries] at enough ⊢
  cases levels with
  | zero =>
      simp [Record.toJson, Json.objectDepth_object] at enough
  | succ levels =>
      have accepted :
          ∀ name property value,
            model.effective.get? name = some property →
            output.get? name = some value →
            IsAcceptedAgain registry lastDraws options fixed levels (place ++ [.key name])
              property value := by
        intro name property value has found
        have isWritten := written model member name property has
        have isSound := sound model member name property has
        have isPlain : fixed → NestsPlainly registry property := fun isFixed =>
          plainly isFixed model member name property has
        have less := Record.objectDepth_lt_of_get? found
        have origin := origin_of_clean has (congrArg Outcome.failures clean)
        have satisfied :
            value.isNull = false → property.generated = false →
              property.constraints.Satisfied value :=
          satisfied_of_clean (congrArg Outcome.failures clean) (by rw [clean]; exact found) has
        rw [clean, found] at origin
        cases origin with
        | brought _ brought =>
            apply isAcceptedAgain_of_brought isWritten isSound isPlain ?_ brought (by omega)
              satisfied
            intro linked isLinked
            exact again linked (Registry.mem_classes_of_linkedClass? isLinked)
        | completed _ creates notGenerated isValue =>
            have keepsDepth := Registry.keepsDepth_of_isWritten written
            exact isAcceptedAgain_of_checkAbsent isWritten keepsDepth isSound isPlain creates
              notGenerated isValue (by omega) fun isPresent => satisfied isPresent notGenerated
      obtain ⟨last, lastClean, stays⟩ :=
        checkWith_of_isAcceptedAgain (declared_of_clean clean)
          (isComplete_of_clean (written model member) clean) accepted
      refine ⟨last, lastClean, fun isFixed => ?_⟩
      rw [stays isFixed]

/-- The outcome of a check without failures passes again. -/
theorem passesAgain_of_clean
    (written : registry.Every Property.IsWritten)
    (sound : registry.Every (NestsSoundly registry options))
    (plainly : fixed → registry.Every (NestsPlainly registry))
    (member : model ∈ registry.classes)
    (clean : checkRecord registry draws options levels model steps input = ⟨output, []⟩) :
    PassesAgain registry options fixed model output.toJson := by
  -- Links between classes can be cyclic, but a record in a record is checked one level deeper.
  induction levels generalizing model steps input output with
  | zero =>
      cases clean
  | succ levels inductionHypothesis =>
      apply passesAgain_of_checkWith written sound plainly member ?_ clean
      rintro linked isClass item form ⟨members, place, record, _, recordClean, rfl⟩
      exact inductionHypothesis isClass recordClean

/--
What is accepted is accepted again and stays as it is, whatever the generators give the
second time, as long as the properties that embed records of a class have no defaults and
are no sets.
-/
theorem accepted_of_accepted
    {sets : List DefinitionSet}
    (loaded : ∀ set ∈ sets, set.IsLoaded)
    (compiled : (compile sets).result = .ok registry)
    (plainly : registry.Every (NestsPlainly registry)) :
    ∀ model ∈ registry.classes, ∀ draws laterDraws options input output,
      validateRecord registry draws options model input = .ok output →
      validateRecord registry laterDraws options model output = .ok output := by
  intro model member draws laterDraws options input output accepted
  have sound : registry.Every (NestsSoundly registry options) := by
    intro other otherMember name property has
    exact (plainly other otherMember name property has).nestsSoundly options
  obtain ⟨levels, _, clean⟩ := checkRecord_of_validateRecord accepted
  have passes : PassesAgain registry options True model output.toJson :=
    passesAgain_of_clean (Registry.isWritten_of_compile loaded compiled) sound (fun _ => plainly)
      member clean
  obtain ⟨members, isOutput, again⟩ := passes
  obtain ⟨last, lastClean, stays⟩ := again laterDraws [] _ (Nat.le_refl _)
  cases isOutput
  rw [Record.ofMembers_entries] at lastClean
  cases Record.toJson_inj (stays trivial)
  exact validateRecord_of_clean lastClean

/-- A document of people who have homes, tokens that are drawn for them, and friends. -/
def peopleDocument : Json.Document :=
  .ofJson
    (.object
      [("Address",
        .object
          [("embedded", .bool true),
            ("properties",
              .array
                [.object
                  [("name", .string "street"), ("type", .string "string"),
                    ("mandatory", .bool true)],
                  .object
                    [("name", .string "floor"), ("type", .string "integer"),
                      ("default", .ofInt 0)]])]),
        ("Person",
          .object
            [("properties",
              .array
                [.object
                  [("name", .string "name"), ("type", .string "string"),
                    ("cast", .string "lowercaseNonEmpty"), ("nullable", .bool false)],
                  .object
                    [("name", .string "token"), ("type", .string "string"),
                      ("defaultGenerator", .string "uuid")],
                  .object
                    [("name", .string "home"), ("type", .string "embedded"),
                      ("linkedClass", .string "Address")],
                  .object
                    [("name", .string "friends"), ("type", .string "embeddedlist"),
                      ("linkedClass", .string "Person")]])])])

/-- A person with a home and a friend. -/
def befriendedPerson : Record :=
  .ofList
    [("name", .string " Ada  LOVELACE "), ("home", .object []),
      ("friends", .array [.object [("name", .string "BOB")]])]

private theorem befriended_observed :
    ((DefinitionSet.ofDocument? peopleDocument).bind fun set =>
      (compile [set]).result.toOption.bind fun registry =>
        (registry.get? "Person").bind fun model =>
          (validateRecord registry ⟨fun _ => "first", fun _ => 0⟩ {} model
              befriendedPerson).toOption.map fun output =>
            (decide (registry.Every (NestsPlainly registry)), output.entries)) =
      some (true,
        [("friends", .array [.object [("name", .string "bob"), ("token", .string "first")]]),
          ("home", .object [("floor", .ofInt 0), ("street", .null)]),
          ("name", .string "ada lovelace"), ("token", .string "first")]) := by
  simp only [validateRecord, check?_eq_or]
  with_unfolding_all rfl

/-- The accepted person stays as it is, with the token that was drawn the first time. -/
theorem accepted_of_accepted_befriended :
    ∃ set registry model output,
      DefinitionSet.ofDocument? peopleDocument = some set ∧
        (compile [set]).result = .ok registry ∧
          registry.get? "Person" = some model ∧
            output.entries =
                [("friends", .array [.object [("name", .string "bob"), ("token", .string "first")]]),
                  ("home", .object [("floor", .ofInt 0), ("street", .null)]),
                  ("name", .string "ada lovelace"), ("token", .string "first")] ∧
              validateRecord registry ⟨fun _ => "first", fun _ => 0⟩ {} model befriendedPerson =
                  .ok output ∧
                validateRecord registry ⟨fun _ => "second", fun _ => 1⟩ {} model output =
                  .ok output := by
  have observed := befriended_observed
  simp only [Option.bind_eq_some_iff, Option.map_eq_some_iff, Prod.mk.injEq] at observed
  obtain ⟨set, isRead, registry, compiled, model, found, output, accepted, plainly, entries⟩ :=
    observed
  have compiled := Registry.ok_of_toOption compiled
  have accepted := Registry.ok_of_toOption accepted
  have loaded := DefinitionSet.isLoaded_of_ofDocument? isRead
  have again :=
    accepted_of_accepted loaded compiled (of_decide_eq_true plainly) model
      (Registry.mem_classes_of_get? found) _ ⟨fun _ => "second", fun _ => 1⟩ {} befriendedPerson
      output accepted
  exact ⟨set, registry, model, output, isRead, compiled, found, entries, accepted, again⟩

end Validation

end RecordSchema
