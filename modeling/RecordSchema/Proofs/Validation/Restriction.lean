import RecordSchema.Proofs.Canonical
import RecordSchema.Proofs.Registry.Provenance
import RecordSchema.Proofs.Validation.Origins

namespace RecordSchema

/-!
# What a change may change

A change is stored with the keys that it brings and the class declares, and with no others:
nothing is added, nothing is lost, and nothing that may only be read is let through.  So it
is in the records that the values hold, however deep they lie.
-/

open Registry (compile)

namespace Property

/-- The type's own cast keeps a record as it is, and the records of an array. -/
theorem castValue_embedded
    {property : Property}
    (isEmbedded : property.type.isEmbedded = true)
    (default : property.HasDefaultCast)
    {raw value : Json}
    (accepted : property.castValue raw = .ok value) :
    (property.type = .embedded ∧ value = raw ∧ ∃ members, raw = .object members) ∨
      (property.type.isCollection = true ∧
        ∃ items,
          raw = .array items ∧
            value = .array (if property.type.isSet then dropRepeated [] items else items)) := by
  by_cases isCollection : property.type.isCollection = true
  · right
    have noCast : property.cast = none := by
      rw [default]
      cases type : property.type <;>
        simp_all [PropertyType.isEmbedded, PropertyType.isCollection, PropertyType.defaultCast?]
    have fixed : ∀ item, property.castItem item = .ok item := by
      intro item
      rw [castItem, noCast]
    obtain ⟨items, rfl⟩ := exists_array_of_castValue isCollection accepted
    rw [castValue_array_of_fixed isCollection fun item _ => fixed item] at accepted
    cases accepted
    exact ⟨isCollection, items, rfl, rfl⟩
  · left
    have single : property.type.isCollection = false := by
      simpa using isCollection
    have type : property.type = .embedded := by
      cases type : property.type <;>
        simp_all [PropertyType.isEmbedded, PropertyType.isCollection]
    rw [castValue_of_single single, castItem_eq_apply default .object (by rw [type]; rfl)]
      at accepted
    cases raw with
    | object members =>
        cases accepted
        exact ⟨type, rfl, members, rfl⟩
    | _ => cases accepted

end Property

namespace Validation

mutual

/--
A record and what a change keeps of it: the keys that the class declares, none of which may
only be read, and as much of the records in its values.
-/
inductive RestrictsTo (registry : Registry) : ClassModel → Record → Record → Prop where
  | intro
      {model : ClassModel}
      {input output : Record}
      (keys :
        ∀ name, output.contains name = (input.contains name && model.effective.contains name))
      (writable :
        ∀ name property,
          output.contains name = true →
          model.effective.get? name = some property →
          property.readOnly = false)
      (nested :
        ∀ name property linked raw form,
          model.effective.get? name = some property →
          property.type.isEmbedded = true →
          property.HasDefaultCast →
          registry.linkedClass? property = some linked →
          input.get? name = some raw →
          output.get? name = some form →
          ValueRestrictsTo registry linked property.type raw form) :
      RestrictsTo registry model input output

/-- A value of a type that holds records of a class, and what is kept of it. -/
inductive ValueRestrictsTo
    (registry : Registry) : ClassModel → PropertyType → Json → Json → Prop where
  | null
      {linked : ClassModel}
      {type : PropertyType} :
      ValueRestrictsTo registry linked type .null .null
  | record
      {linked : ClassModel}
      {members : List (String × Json)}
      {output : Record} :
      RestrictsTo registry linked (.ofMembers members) output →
      ValueRestrictsTo registry linked .embedded (.object members) output.toJson
  | records
      {linked : ClassModel}
      {type : PropertyType}
      {items forms : List Json} :
      type.isCollection = true →
      ItemsRestrictTo registry linked
        (if type.isSet then Property.dropRepeated [] items else items) forms →
      ValueRestrictsTo registry linked type (.array items) (.array forms)

/-- Items that are records of a class, and what is kept of each of them. -/
inductive ItemsRestrictTo
    (registry : Registry) : ClassModel → List Json → List Json → Prop where
  | nil
      {linked : ClassModel} :
      ItemsRestrictTo registry linked [] []
  | cons
      {linked : ClassModel}
      {members : List (String × Json)}
      {output : Record}
      {items forms : List Json} :
      RestrictsTo registry linked (.ofMembers members) output →
      ItemsRestrictTo registry linked items forms →
      ItemsRestrictTo registry linked (.object members :: items) (output.toJson :: forms)

end

variable
  {check : ClassModel → List Step → Record → Outcome}
  {registry : Registry}
  {draws : Draws}
  {options : Options}
  {model linked : ClassModel}
  {steps : List Step}
  {input output : Record}
  {property : Property}

section Step

variable
  (restricts :
    ∀ model steps input output,
      check model steps input = ⟨output, []⟩ → RestrictsTo registry model input output)

include restricts

theorem itemsRestrictTo_of_passes
    {items forms : List Json}
    (passes : List.Forall₂ (Passes (check linked)) items forms) :
    ItemsRestrictTo registry linked items forms := by
  induction passes with
  | nil =>
      exact .nil
  | cons firstPasses _ inductionHypothesis =>
      obtain ⟨members, steps, record, rfl, clean, rfl⟩ := firstPasses
      exact .cons (restricts _ _ _ _ clean) inductionHypothesis

/-- What is brought under a property that links a class restricts to what is stored. -/
theorem valueRestrictsTo_of_brought
    (isEmbedded : property.type.isEmbedded = true)
    (default : property.HasDefaultCast)
    (found : registry.linkedClass? property = some linked)
    {raw form : Json}
    (brought : Brought check registry options property raw form) :
    ValueRestrictsTo registry linked property.type raw form := by
  have isLinked := Option.isSome_of_eq_some found
  cases brought with
  | null _ isNull _ =>
      cases raw with
      | null => exact .null
      | _ => cases isNull
  | cast _ _ accepted nested =>
      rcases Property.castValue_embedded isEmbedded default accepted with
        ⟨type, rfl, members, rfl⟩ | ⟨isCollection, items, rfl, rfl⟩
      · cases nested with
        | plain holdsNone =>
            exact absurd ⟨isEmbedded, isLinked, .inr ⟨type, members, rfl⟩⟩ holdsNone
        | record otherFound _ passes =>
            cases found.symm.trans otherFound
            obtain ⟨_, _, record, same, clean, rfl⟩ := passes
            cases same
            rw [type]
            exact .record (restricts _ _ _ _ clean)
      · cases nested with
        | plain holdsNone =>
            exact absurd ⟨isEmbedded, isLinked, .inl ⟨_, rfl⟩⟩ holdsNone
        | record _ type _ =>
            rw [type] at isCollection
            cases isCollection
        | records otherFound _ passes =>
            cases found.symm.trans otherFound
            exact .records isCollection (itemsRestrictTo_of_passes restricts passes)

/-- A change without failures restricts to its outcome if the records in its values do. -/
theorem restrictsTo_checkWith
    (updates : options.mode = .update)
    (clean : checkWith check registry draws options model steps input = ⟨output, []⟩) :
    RestrictsTo registry model input output := by
  have originOf :
      ∀ name property,
        model.effective.get? name = some property →
        Origin check registry draws options steps input output name property
          (output.get? name) := by
    intro name property has
    have origin := origin_of_clean has (congrArg Outcome.failures clean)
    rwa [clean] at origin
  refine .intro ?_ ?_ ?_
  · intro name
    cases has : model.effective.get? name with
    | none =>
        have undeclared :
            (checkWith check registry draws options model steps input).record.get? name = none :=
          get?_checkWith_of_undeclared has
        rw [clean] at undeclared
        simp [SortedMap.contains, has, undeclared]
    | some property =>
        have origin := originOf name property has
        generalize isValue : output.get? name = value? at origin
        cases origin with
        | brought found _ => simp [SortedMap.contains, has, found, isValue]
        | omitted absent _ => simp [SortedMap.contains, has, absent, isValue]
        | completed _ creates => cases creates.symm.trans updates
  · intro name property contained has
    have origin := originOf name property has
    obtain ⟨form, isValue⟩ := SortedMap.contains_iff.mp contained
    rw [isValue] at origin
    cases origin with
    | brought _ brought =>
        cases brought with
        | null writable _ _ => exact writable updates
        | cast writable _ _ _ => exact writable updates
    | completed _ creates => cases creates.symm.trans updates
  · intro name property linked raw form has isEmbedded default found isRaw isForm
    have origin := originOf name property has
    rw [isForm] at origin
    cases origin with
    | brought otherRaw brought =>
        cases isRaw.symm.trans otherRaw
        exact valueRestrictsTo_of_brought restricts isEmbedded default found brought
    | completed _ creates => cases creates.symm.trans updates

end Step

/-- A change that is checked without failures restricts to its outcome. -/
theorem restrictsTo_checkRecord
    (updates : options.mode = .update)
    (levels : Nat) :
    ∀ model steps input output,
      checkRecord registry draws options levels model steps input = ⟨output, []⟩ →
      RestrictsTo registry model input output := by
  induction levels with
  | zero =>
      intro model steps input output clean
      cases clean
  | succ levels inductionHypothesis =>
      intro model steps input output clean
      exact restrictsTo_checkWith inductionHypothesis updates clean

/--
An accepted change is stored with exactly those of its keys that the class declares, none of
which may only be read, and so are the records in its values at any depth.
-/
theorem update_restricts
    (updates : options.mode = .update)
    (accepted : validateRecord registry draws options model input = .ok output) :
    RestrictsTo registry model input output := by
  obtain ⟨levels, _, clean⟩ := checkRecord_of_validateRecord accepted
  exact restrictsTo_checkRecord updates levels model [] input output clean

/-- A document of shelves with boxes, which have a fixed code and may stand in other boxes. -/
def shelfDocument : Json.Document :=
  .ofJson
    (.object
      [("Box",
        .object
          [("embedded", .bool true),
            ("properties",
              .array
                [.object
                  [("name", .string "code"), ("type", .string "string"),
                    ("readOnly", .bool true)],
                  .object
                    [("name", .string "label"), ("type", .string "string"),
                      ("default", .string "none")],
                  .object
                    [("name", .string "within"), ("type", .string "embedded"),
                      ("linkedClass", .string "Box")]])]),
        ("Shelf",
          .object
            [("properties",
              .array
                [.object
                  [("name", .string "boxes"), ("type", .string "embeddedset"),
                    ("linkedClass", .string "Box")],
                  .object
                    [("name", .string "room"), ("type", .string "string"),
                      ("mandatory", .bool true)]])])])

/-- A box in a labeled one, with a key that boxes do not have. -/
def smallBox : List (String × Json) :=
  [("color", .string "red"), ("within", .object [("label", .string " spare  parts ")])]

/-- A shelf with the same box twice. -/
def shelf : Record :=
  .ofList [("boxes", .array [.object smallBox, .object smallBox]), ("floor", .ofInt 1)]

private theorem shelf_observed :
    ((DefinitionSet.ofDocument? shelfDocument).bind fun set =>
      (compile [set]).result.toOption.bind fun registry =>
        (registry.get? "Shelf").bind fun model =>
          (validateRecord registry ⟨fun _ => "", fun _ => 0⟩
              { mode := .update, ignoreExtra := true } model
                shelf).toOption.map SortedMap.entries) =
      some
        [("boxes",
          .array [.object [("within", .object [("label", .string "spare parts")])]])] := by
  simp only [validateRecord, check?_eq_or]
  with_unfolding_all rfl

/-- Of a shelf only the boxes are stored, once each, without colors and without new labels. -/
theorem update_restricts_shelf :
    ∃ set registry model output,
      DefinitionSet.ofDocument? shelfDocument = some set ∧
        (compile [set]).result = .ok registry ∧
          registry.get? "Shelf" = some model ∧
            validateRecord registry ⟨fun _ => "", fun _ => 0⟩
                { mode := .update, ignoreExtra := true } model shelf = .ok output ∧
              output.entries =
                  [("boxes",
                    .array [.object [("within", .object [("label", .string "spare parts")])]])] ∧
                RestrictsTo registry model shelf output := by
  have observed := shelf_observed
  simp only [Option.bind_eq_some_iff, Option.map_eq_some_iff] at observed
  obtain ⟨set, isRead, registry, compiled, model, found, output, isOutput, entries⟩ := observed
  have accepted := Registry.ok_of_toOption isOutput
  exact ⟨set, registry, model, output, isRead, Registry.ok_of_toOption compiled, found, accepted,
    entries, update_restricts rfl accepted⟩

end Validation

end RecordSchema
