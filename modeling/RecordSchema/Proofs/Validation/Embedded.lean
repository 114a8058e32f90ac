import RecordSchema.Proofs.Validation.Repetition

namespace RecordSchema

/-!
# Records embedded in accepted records

What a record brings under a property that links a class is checked against that class.  A
default of such a property is not: it is cast and then put in as it is.  The embedded
records of accepted records are therefore accepted on their own where the defaults are.
-/

open Registry (compile)

namespace Validation

variable
  {check : ClassModel → List Step → Record → Outcome}
  {registry : Registry}
  {draws : Draws}
  {options : Options}
  {model linked : ClassModel}
  {input output : Record}
  {name : String}
  {property : Property}
  {test : Json → Prop}

/-- After the check of the records in a value there are only records that have passed. -/
theorem holdsOnly_of_nestedForm
    {raw value form : Json}
    (isEmbedded : property.type.isEmbedded = true)
    (found : registry.linkedClass? property = some linked)
    (accepted : property.castValue raw = .ok value)
    (nested : NestedForm check registry property value form)
    (passed :
      ∀ item record,
        item.objectDepth ≤ value.objectDepth → Passes (check linked) item record → test record) :
    HoldsOnly test form := by
  have isLinked := Option.isSome_of_eq_some found
  cases nested with
  | plain holdsNone =>
      cases value with
      | object members =>
          exfalso
          apply holdsNone
          refine ⟨isEmbedded, isLinked, .inr ⟨?_, members, rfl⟩⟩
          cases isCollection : property.type.isCollection with
          | true =>
              obtain ⟨_, _, _, isArray⟩ :=
                Property.exists_of_castValue_collection isCollection accepted
              cases isArray
          | false =>
              cases type : property.type <;>
                simp_all [PropertyType.isEmbedded, PropertyType.isCollection]
      | array items =>
          exact absurd ⟨isEmbedded, isLinked, .inl ⟨items, rfl⟩⟩ holdsNone
      | _ => trivial
  | @record other _ _ otherFound _ passes =>
      cases found.symm.trans otherFound
      have isTested := passed value form (Nat.le_refl _) passes
      obtain ⟨_, _, _, _, _, rfl⟩ := passes
      exact isTested
  | @records other items forms otherFound _ passes =>
      cases found.symm.trans otherFound
      intro form member
      obtain ⟨item, itemMember, itemPasses⟩ := exists_source_of_passes passes member
      exact passed item form (Json.objectDepth_le_of_mem_items itemMember) itemPasses

/-- What the record brings holds only records that have passed. -/
theorem holdsOnly_of_brought
    {raw form : Json}
    (written : property.IsWritten)
    (isEmbedded : property.type.isEmbedded = true)
    (found : registry.linkedClass? property = some linked)
    (brought : Brought check registry options property raw form)
    (passed :
      ∀ item record,
        item.objectDepth ≤ raw.objectDepth → Passes (check linked) item record → test record) :
    HoldsOnly test form := by
  cases brought with
  | null => trivial
  | @cast value _ _ _ accepted nested =>
      apply holdsOnly_of_nestedForm isEmbedded found accepted nested
      intro item record bounded passes
      have keepsDepth := written.builtin.keepsDepth raw value accepted
      exact passed item record (Nat.le_trans bounded keepsDepth) passes

/--
If each default that embeds records is accepted by the class that it links, and no set of
records needs a second item, then all embedded records are accepted by the classes that
their properties link.  Whatever the defaults are, the records that are brought are stored
in the form in which these classes accept them, and a default is stored as it is cast.
-/
theorem embedded_accepted
    {sets : List DefinitionSet}
    (loaded : ∀ set ∈ sets, set.IsLoaded)
    (compiled : (compile sets).result = .ok registry)
    (member : model ∈ registry.classes)
    (accepted : validateRecord registry draws options model input = .ok output)
    (has : model.effective.get? name = some property)
    (isEmbedded : property.type.isEmbedded = true)
    (found : registry.linkedClass? property = some linked)
    {value : Json}
    (isValue : output.get? name = some value) :
    (registry.Every (NestsSoundly registry options) →
      HoldsOnly (Accepts registry options linked) value) ∧
      (input.contains name = true →
        HoldsOnly (fun form => ∃ item, StoresAs registry options linked item form) value) ∧
        ∀ constant cast,
          input.contains name = false →
          property.default = some (.constant constant) →
          property.castValue constant = .ok cast →
          value = cast := by
  have written := Registry.isWritten_of_compile loaded compiled
  have isWritten := written model member name property has
  have linkedMember := Registry.mem_classes_of_linkedClass? found
  obtain ⟨levels, depth, clean⟩ := validateRecord_ok accepted
  have origin := origin_of_clean has (congrArg Outcome.failures clean)
  rw [clean, isValue] at origin
  refine ⟨?_, ?_, ?_⟩
  · intro sound
    cases origin with
    | brought _ brought =>
        apply holdsOnly_of_brought isWritten isEmbedded found brought
        rintro item form _ ⟨members, steps, record, _, recordClean, rfl⟩
        have passes : PassesAgain registry options False linked record.toJson :=
          passesAgain_of_clean written sound False.elim linkedMember recordClean
        exact passes.accepts
    | completed _ _ notGenerated isPutIn =>
        exact holdsOnly_of_checkAbsent isWritten (sound model member name property has) isEmbedded
          found notGenerated isPutIn
  · intro contained
    obtain ⟨raw, rawFound⟩ := SortedMap.contains_iff.mp contained
    cases origin with
    | brought otherFound brought =>
        cases rawFound.symm.trans otherFound
        apply holdsOnly_of_brought isWritten isEmbedded found brought
        intro item form bounded passes
        have less := Record.objectDepth_lt_of_get? rawFound
        exact ⟨item, passes.storesAs (Registry.keepsDepth_of_isWritten written) linkedMember
          (by omega)⟩
    | completed absent => cases absent.symm.trans rawFound
  · intro constant cast notContained isDefault castAccepted
    have absent := SortedMap.contains_eq_false_iff.mp notContained
    cases origin with
    | brought rawFound => cases absent.symm.trans rawFound
    | completed _ _ _ isPutIn =>
        have isPresent := isWritten.constant constant isDefault
        rw [checkAbsent_of_constant isDefault isPresent castAccepted] at isPutIn
        cases isPutIn
        rfl

/-- A document of owners whose address has a default, and who may have other addresses. -/
def ownerDocument (default : Json) : Json.Document :=
  .ofJson
    (.object
      [("Address",
        .object
          [("embedded", .bool true),
            ("properties",
              .array
                [.object
                  [("name", .string "street"), ("type", .string "string"),
                    ("mandatory", .bool true), ("nullable", .bool false)],
                  .object
                    [("name", .string "floor"), ("type", .string "integer"),
                      ("default", .ofInt 0)]])]),
        ("Owner",
          .object
            [("properties",
              .array
                [.object
                  [("name", .string "address"), ("type", .string "embedded"),
                    ("linkedClass", .string "Address"), ("default", default)],
                  .object
                    [("name", .string "others"), ("type", .string "embeddedset"),
                      ("linkedClass", .string "Address"), ("minItems", .ofInt 1)]])])])

/-- An owner of one more address. -/
def owner : Record :=
  .ofList [("others", .array [.object [("street", .string " Side   street ")]])]

/-- A test for a class that embeds no record and draws no value. -/
private def flatTest (model : ClassModel) : Bool :=
  model.effective.entries.all fun entry =>
    !entry.2.type.isEmbedded &&
      match entry.2.default with
      | some (.generator _) => false
      | _ => true

/-- Without generators nothing depends on the values that are drawn. -/
private theorem addDefaults_of_flatTest
    {more : Draws}
    {steps : List Step}
    {record : Record}
    (flat : flatTest model = true) :
    addDefaults more options model steps input record =
      addDefaults draws options model steps input record := by
  rw [addDefaults, addDefaults]
  split
  · rfl
  · refine List.foldl_ext _ _ _ fun outcome entry member => ?_
    have constant := (Bool.and_eq_true_iff.mp (List.all_eq_true.mp flat entry member)).2
    have sameVerdict :
        checkAbsent more (steps ++ [.key entry.1]) entry.2 outcome.record =
          checkAbsent draws (steps ++ [.key entry.1]) entry.2 outcome.record := by
      rw [checkAbsent, checkAbsent]
      cases isDefault : entry.2.default with
      | none => rfl
      | some value =>
          cases value with
          | generator source =>
              rw [isDefault] at constant
              cases constant
          | _ => rfl
    rw [addAbsent, addAbsent, sameVerdict]

/-- A record of a flat class is accepted whatever is drawn, if it is accepted once. -/
private theorem validateRecord_of_flatTest
    {more : Draws}
    (flat : flatTest model = true)
    (accepted : validateRecord registry draws options model input = .ok output) :
    validateRecord registry more options model input = .ok output := by
  obtain ⟨levels, _, clean⟩ := validateRecord_ok accepted
  apply @validateRecord_of_clean _ _ _ _ _ (levels + 1)
  rw [checkRecord, ← clean, checkWith, checkWith]
  have sameVerdicts :
      present (checkRecord registry more options levels) registry options model [] input =
        present (checkRecord registry draws options levels) registry options model [] input := by
    rw [present, present]
    refine List.filterMap_congr fun entry member => ?_
    have notEmbedded := (Bool.and_eq_true_iff.mp (List.all_eq_true.mp flat entry member)).1
    simp only [checkPresent, checkNested, notEmbedded, if_true]
  have sameDefaults (record : Record) :
      addDefaults more options model [] input record =
        addDefaults draws options model [] input record :=
    addDefaults_of_flatTest flat
  simp only [sameVerdicts, sameDefaults]

/-- A test for soundness where defaults hold one record at most, of a flat class. -/
private def soundTest
    (registry : Registry)
    (draws : Draws)
    (options : Options)
    (property : Property) : Bool :=
  property.constraints.minItems.all (fun bound => bound.toNat ≤ 1) &&
    match registry.linkedClass? property, property.constantDefault? with
    | some linked, some constant =>
        match property.castValue constant with
        | .ok (.object members) =>
            flatTest linked &&
              (validateRecord registry draws options linked (.ofMembers members)).toOption.isSome
        | .ok (.array _) => false
        | _ => true
    | _, _ => true

private theorem nestsSoundly_of_soundTest
    (tested : soundTest registry draws options property = true) :
    NestsSoundly registry options property where
  default linked constant value found _ _ isDefault accepted := by
    have isConstant : property.constantDefault? = some constant := by
      rw [Property.constantDefault?, isDefault]
    have isSound := (Bool.and_eq_true_iff.mp tested).2
    rw [found, isConstant] at isSound
    cases value with
    | object members =>
        simp only [accepted, Bool.and_eq_true] at isSound
        obtain ⟨output, isOutput⟩ := Option.isSome_iff_exists.mp isSound.2
        exact ⟨members, rfl, fun _ =>
          ⟨output, validateRecord_of_flatTest isSound.1 (Registry.ok_of_toOption isOutput)⟩⟩
    | array items => simp [accepted] at isSound
    | _ => trivial
  set bound _ _ isBound := by
    have small := (Bool.and_eq_true_iff.mp tested).1
    simpa [isBound] using small

private theorem owner_observed :
    ((DefinitionSet.ofDocument? (ownerDocument (.object [("street", .string "Main")]))).bind
      fun set =>
        (compile [set]).result.toOption.bind fun registry =>
          (registry.get? "Owner").bind fun model =>
            (model.effective.get? "address").bind fun address =>
              (registry.linkedClass? address).bind fun linked =>
                (validateRecord registry ⟨fun _ => "", fun _ => 0⟩ {} model
                    owner).toOption.map fun output =>
                  (registry.classes.all fun model =>
                      model.effective.entries.all fun entry =>
                        soundTest registry ⟨fun _ => "", fun _ => 0⟩ {} entry.2,
                    address.type.isEmbedded, linked.name, output.entries)) =
      some (true, true, "Address",
        [("address", .object [("street", .string "Main")]),
          ("others", .array [.object [("floor", .ofInt 0), ("street", .string "Side street")]])]) := by
  simp only [soundTest, validateRecord, check?_eq_or]
  with_unfolding_all rfl

private theorem owner_sound
    {set : DefinitionSet}
    (isRead :
      DefinitionSet.ofDocument? (ownerDocument (.object [("street", .string "Main")])) = some set)
    (compiled : (compile [set]).result = .ok registry) :
    registry.Every (NestsSoundly registry {}) := by
  intro model member name property has
  have observed := owner_observed
  simp only [Option.bind_eq_some_iff, Option.map_eq_some_iff, Prod.mk.injEq] at observed
  obtain ⟨_, sameRead, _, sameCompiled, _, _, _, _, _, _, _, _, tested, _⟩ := observed
  cases isRead.symm.trans sameRead
  cases compiled.symm.trans (Registry.ok_of_toOption sameCompiled)
  have modelTested := List.all_eq_true.mp tested model member
  exact nestsSoundly_of_soundTest
    (List.all_eq_true.mp modelTested (name, property) (SortedMap.get?_eq_some_iff.mp has))

/-- The address of the owner is the default, which addresses accept. -/
theorem embedded_accepted_owner :
    ∃ set registry model address linked output,
      DefinitionSet.ofDocument? (ownerDocument (.object [("street", .string "Main")])) = some set ∧
        (compile [set]).result = .ok registry ∧
          registry.get? "Owner" = some model ∧
            registry.Every (NestsSoundly registry {}) ∧
              validateRecord registry ⟨fun _ => "", fun _ => 0⟩ {} model owner = .ok output ∧
                model.effective.get? "address" = some address ∧
                  registry.linkedClass? address = some linked ∧ linked.name = "Address" ∧
                    output.get? "address" = some (.object [("street", .string "Main")]) ∧
                      Accepts registry {} linked (.object [("street", .string "Main")]) := by
  have observed := owner_observed
  simp only [Option.bind_eq_some_iff, Option.map_eq_some_iff, Prod.mk.injEq] at observed
  obtain ⟨set, isRead, registry, compiled, model, found, address, has, linked, isLinked, output,
    accepted, _, isEmbedded, isNamed, entries⟩ := observed
  have compiled := Registry.ok_of_toOption compiled
  have accepted := Registry.ok_of_toOption accepted
  have loaded := DefinitionSet.isLoaded_of_ofDocument? isRead
  have sound := owner_sound isRead compiled
  have isValue : output.get? "address" = some (.object [("street", .string "Main")]) := by
    rw [SortedMap.get?, entries]
    rfl
  have accepts :=
    (embedded_accepted loaded compiled (Registry.mem_classes_of_get? found) accepted has isEmbedded
      isLinked isValue).1 sound
  exact ⟨set, registry, model, address, linked, output, isRead, compiled, found, sound, accepted,
    has, isLinked, isNamed, isValue, accepts⟩

private theorem homeless_observed
    (draws : Draws) :
    ((DefinitionSet.ofDocument? (ownerDocument (.object []))).bind fun set =>
      (compile [set]).result.toOption.bind fun registry =>
        (registry.get? "Owner").bind fun model =>
          (model.effective.get? "address").bind fun address =>
            (registry.linkedClass? address).bind fun linked =>
              (validateRecord registry draws {} model .empty).toOption.map fun output =>
                (output.get? "address", address.type,
                  match address.cast with
                  | some (.builtin kind) => some kind
                  | _ => none,
                  (validateRecord registry draws {} linked .empty).toOption.isSome)) =
      some (some (.object []), .embedded, some .object, false) := by
  simp only [validateRecord, check?_eq_or]
  with_unfolding_all rfl

/-- An owner without an address is accepted with one that addresses do not accept. -/
private theorem homeless_accepted :
    ∃ set registry model address linked output,
      DefinitionSet.ofDocument? (ownerDocument (.object [])) = some set ∧
        (compile [set]).result = .ok registry ∧
          model ∈ registry.classes ∧
            validateRecord registry ⟨fun _ => "", fun _ => 0⟩ {} model .empty = .ok output ∧
              model.effective.get? "address" = some address ∧
                address.type = .embedded ∧ address.HasDefaultCast ∧
                  registry.linkedClass? address = some linked ∧
                    output.get? "address" = some (.object []) ∧
                      ∀ draws record,
                        validateRecord registry draws {} linked .empty ≠ .ok record := by
  have observed := homeless_observed ⟨fun _ => "", fun _ => 0⟩
  simp only [Option.bind_eq_some_iff, Option.map_eq_some_iff, Prod.mk.injEq] at observed
  obtain ⟨set, isRead, registry, compiled, model, found, address, has, linked, isLinked, output,
    accepted, isValue, type, isCast, _⟩ := observed
  have defaultCast : address.HasDefaultCast := by
    rw [Property.HasDefaultCast, type]
    split at isCast
    · rename_i kind isBuiltin
      cases isCast
      exact isBuiltin
    · cases isCast
  refine ⟨set, registry, model, address, linked, output, isRead, Registry.ok_of_toOption compiled,
    Registry.mem_classes_of_get? found, Registry.ok_of_toOption accepted, has, type, defaultCast,
    isLinked, isValue, fun draws record isAccepted => ?_⟩
  have refused := homeless_observed draws
  simp only [isRead, compiled, found, has, isLinked, isAccepted, Option.bind_some,
    Option.map_eq_some_iff, Prod.mk.injEq] at refused
  obtain ⟨_, _, _, _, _, isSome⟩ := refused
  cases isSome

/-- That the property of a record links a class does not make that class accept the record. -/
theorem not_forall_embedded_accepted :
    ¬∀ sets registry,
      (∀ set ∈ sets, set.IsLoaded) →
      (compile sets).result = .ok registry →
      ∀ model ∈ registry.classes, ∀ draws options input output name property linked value,
        options.mode = .create →
        validateRecord registry draws options model input = .ok output →
        model.effective.get? name = some property →
        property.type.isEmbedded = true →
        property.HasDefaultCast →
        registry.linkedClass? property = some linked →
        output.get? name = some value →
        HoldsOnly (fun item => ∃ form, StoresAs registry options linked item form) value := by
  intro alwaysAccepted
  obtain ⟨set, registry, model, address, linked, output, isRead, compiled, member, accepted, has,
    type, defaultCast, isLinked, isValue, refused⟩ := homeless_accepted
  have loaded := DefinitionSet.isLoaded_of_ofDocument? isRead
  have isEmbedded : address.type.isEmbedded = true := by
    rw [type]
    rfl
  have stores := alwaysAccepted [set] registry loaded compiled model member _ {} .empty output
    "address" address linked _ rfl accepted has isEmbedded defaultCast isLinked isValue
  obtain ⟨form, draws, members, record, same, isAccepted, _⟩ := stores
  cases same
  exact refused draws record isAccepted

end Validation

end RecordSchema
