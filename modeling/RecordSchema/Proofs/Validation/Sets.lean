import RecordSchema.Proofs.Cast.Collection
import RecordSchema.Proofs.Validation.Acceptance

namespace RecordSchema

/-!
# Sets without repeated items

Repeated items of a set are dropped by its cast.  The records in it are checked after that,
and the check gives each of them its canonical form.  Records that are different when they
are brought can therefore be equal in the set that is stored.
-/

open Registry (compile)

theorem Property.distinct_of_castValue
    {property : Property}
    {raw : Json}
    {items : List Json}
    (isSet : property.type.isSet = true)
    (accepted : property.castValue raw = .ok (.array items)) :
    Json.Distinct items := by
  have isCollection := PropertyType.isCollection_of_isSet isSet
  obtain ⟨_, values, _, same⟩ := exists_of_castValue_collection isCollection accepted
  rw [isSet, if_pos rfl] at same
  cases same
  exact distinct_dropRepeated values

namespace Validation

variable
  {registry : Registry}
  {draws : Draws}
  {options : Options}
  {model : ClassModel}
  {input output : Record}
  {name : String}
  {property : Property}

/--
The items of a set are different, with one exception.  Where the record brings a set of
records of a class, these are different when they are brought, and stored in the form in
which the class accepts them.
-/
theorem set_distinct_or_stored
    {sets : List DefinitionSet}
    (loaded : ∀ set ∈ sets, set.IsLoaded)
    (compiled : (compile sets).result = .ok registry)
    (member : model ∈ registry.classes)
    (accepted : validateRecord registry draws options model input = .ok output)
    (has : model.effective.get? name = some property)
    (isSet : property.type.isSet = true)
    {items : List Json}
    (isArray : output.get? name = some (.array items)) :
    (input.get? name = none ∨ property.type = .linkset ∨ registry.linkedClass? property = none →
      Json.Distinct items) ∧
      ∀ raw linked,
        input.get? name = some raw →
        property.type = .embeddedset →
        registry.linkedClass? property = some linked →
        ∃ objects,
          property.castValue raw = .ok (.array objects) ∧ Json.Distinct objects ∧
            List.Forall₂ (StoresAs registry options linked) objects items := by
  have written := Registry.isWritten_of_compile loaded compiled
  have isWritten := written model member name property has
  obtain ⟨levels, depth, clean⟩ := validateRecord_ok accepted
  have origin := origin_of_clean has (congrArg Outcome.failures clean)
  rw [clean, isArray] at origin
  cases origin with
  | @brought raw _ found brought =>
      cases brought with
      | @cast value _ _ _ castAccepted nested =>
          cases nested with
          | plain holdsNone =>
              refine ⟨fun _ => Property.distinct_of_castValue isSet castAccepted, ?_⟩
              intro _ linked _ type isLinked
              exfalso
              apply holdsNone
              refine ⟨?_, Option.isSome_of_eq_some isLinked, .inl ⟨items, rfl⟩⟩
              rw [type]
              rfl
          | record _ type _ =>
              rw [type] at isSet
              cases isSet
          | @records linked objects _ isLinked isEmbedded passes =>
              have type := PropertyType.eq_embeddedset isSet isEmbedded
              constructor
              · rintro (absent | isLinkset | unlinked)
                · cases found.symm.trans absent
                · cases type.symm.trans isLinkset
                · cases isLinked.symm.trans unlinked
              · intro other otherLinked otherFound _ otherIsLinked
                cases found.symm.trans otherFound
                cases isLinked.symm.trans otherIsLinked
                refine ⟨objects, castAccepted, Property.distinct_of_castValue isSet castAccepted, ?_⟩
                have castDepth := isWritten.builtin.keepsDepth raw _ castAccepted
                have rawDepth := Record.objectDepth_lt_of_get? found
                exact storesAs_of_passes (Registry.keepsDepth_of_isWritten written)
                  (Registry.mem_classes_of_linkedClass? isLinked) passes (by omega)
  | completed absent _ _ isPutIn =>
      constructor
      · intro _
        rcases value_of_checkAbsent isPutIn with ⟨isNull, _⟩ | ⟨_, _, _, _, castAccepted⟩
        · cases isNull
        · exact Property.distinct_of_castValue isSet castAccepted
      · intro raw _ found
        cases absent.symm.trans found

/-- A document of posts, which have a set of tags. -/
def postDocument : Json.Document :=
  .ofJson
    (.object
      [("Post",
        .object
          [("properties",
            .array
              [.object
                [("name", .string "tags"), ("type", .string "embeddedset"),
                  ("linkedClass", .string "Tag")]])]),
        ("Tag",
          .object
            [("embedded", .bool true),
              ("properties",
                .array [.object [("name", .string "name"), ("type", .string "string")]])])])

/-- The tags of a post, which differ by a blank. -/
def blankTags : List Json :=
  [.object [("name", .string "a")], .object [("name", .string " a")]]

/-- A post with these tags. -/
def taggedPost : Record :=
  .ofList [("tags", .array blankTags)]

private theorem tagged_observed :
    ((DefinitionSet.ofDocument? postDocument).bind fun set =>
      (compile [set]).result.toOption.bind fun registry =>
        (registry.get? "Post").bind fun model =>
          (model.effective.get? "tags").bind fun tags =>
            (registry.linkedClass? tags).bind fun linked =>
              (validateRecord registry ⟨fun _ => "", fun _ => 0⟩ {} model
                  taggedPost).toOption.map fun output =>
                (tags.type, linked.name, output.get? "tags")) =
      some (.embeddedset, "Tag",
        some (.array [.object [("name", .string "a")], .object [("name", .string "a")]])) := by
  simp only [validateRecord, check?_eq_or]
  with_unfolding_all rfl

/-- The tagged post is accepted, and its tags are equal afterwards. -/
private theorem tagged_accepted :
    ∃ set registry model tags linked output,
      DefinitionSet.ofDocument? postDocument = some set ∧
        (compile [set]).result = .ok registry ∧
          model ∈ registry.classes ∧
            model.effective.get? "tags" = some tags ∧
              tags.type = .embeddedset ∧
                registry.linkedClass? tags = some linked ∧ linked.name = "Tag" ∧
                  validateRecord registry ⟨fun _ => "", fun _ => 0⟩ {} model taggedPost =
                      .ok output ∧
                    output.get? "tags" =
                      some (.array
                        [.object [("name", .string "a")], .object [("name", .string "a")]]) := by
  have observed := tagged_observed
  simp only [Option.bind_eq_some_iff, Option.map_eq_some_iff, Prod.mk.injEq] at observed
  obtain ⟨set, isRead, registry, compiled, model, found, tags, has, linked, isLinked, output,
    accepted, type, isNamed, isArray⟩ := observed
  exact ⟨set, registry, model, tags, linked, output, isRead, Registry.ok_of_toOption compiled,
    Registry.mem_classes_of_get? found, has, type, isLinked, isNamed,
    Registry.ok_of_toOption accepted, isArray⟩

/-- The tags of the post are different when they are brought, and stored as tags. -/
theorem set_distinct_or_stored_tagged :
    ∃ set registry model tags linked output objects,
      DefinitionSet.ofDocument? postDocument = some set ∧
        (compile [set]).result = .ok registry ∧
          model ∈ registry.classes ∧
            model.effective.get? "tags" = some tags ∧
              tags.type = .embeddedset ∧
                registry.linkedClass? tags = some linked ∧ linked.name = "Tag" ∧
                  validateRecord registry ⟨fun _ => "", fun _ => 0⟩ {} model taggedPost =
                      .ok output ∧
                    tags.castValue (.array blankTags) = .ok (.array objects) ∧
                      Json.Distinct objects ∧
                        List.Forall₂ (StoresAs registry {} linked) objects
                          [.object [("name", .string "a")], .object [("name", .string "a")]] := by
  obtain ⟨set, registry, model, tags, linked, output, isRead, compiled, member, has, type, isLinked,
    isNamed, accepted, isArray⟩ := tagged_accepted
  have loaded := DefinitionSet.isLoaded_of_ofDocument? isRead
  have isSet : tags.type.isSet = true := by
    rw [type]
    rfl
  obtain ⟨objects, castAccepted, distinct, stored⟩ :=
    (set_distinct_or_stored loaded compiled member accepted has isSet isArray).2
      (.array blankTags) linked rfl type isLinked
  exact ⟨set, registry, model, tags, linked, output, objects, isRead, compiled, member, has, type,
    isLinked, isNamed, accepted, castAccepted, distinct, stored⟩

/-- A set of an accepted record can hold equal items. -/
theorem not_forall_set_distinct :
    ¬∀ sets registry,
      (∀ set ∈ sets, set.IsLoaded) →
      (compile sets).result = .ok registry →
      ∀ model ∈ registry.classes, ∀ draws options input output name property items,
        validateRecord registry draws options model input = .ok output →
        model.effective.get? name = some property →
        property.type.isSet = true →
        output.get? name = some (.array items) →
        Json.Distinct items := by
  intro alwaysDistinct
  obtain ⟨set, registry, model, tags, linked, output, isRead, compiled, member, has, type, _, _,
    accepted, isArray⟩ := tagged_accepted
  have loaded := DefinitionSet.isLoaded_of_ofDocument? isRead
  have isSet : tags.type.isSet = true := by
    rw [type]
    rfl
  have distinct :=
    alwaysDistinct [set] registry loaded compiled model member _ {} taggedPost output "tags" tags _
      accepted has isSet isArray
  have different := Json.distinct_iff.mp distinct 0 1 (by simp) (by simp) (by simp)
  simp [Json.same, Json.sameMembers] at different

end Validation

end RecordSchema
