import RecordSchema.Proofs.Registry.Provenance
import RecordSchema.Proofs.Validation.Levels

namespace RecordSchema

/-!
# Accepted records conform

What the validator accepts has only properties of its class, null only where that is
admitted, and values that satisfy every constraint.  Values whose cast is that of their
type are in canonical form, and a new record lacks nothing that a client may rely on.
-/

open Registry (NamesNoCast compile isPlain_of_compile hasDefaultCast_of_compile)

theorem Json.isNull_eq_false
    {value : Json}
    (present : value ≠ .null) :
    value.isNull = false := by
  cases value with
  | null => exact absurd rfl present
  | _ => rfl

namespace Validation

/--
What a record must be to conform to a class.  The sets of definitions that the class is
compiled from decide which properties name a cast of their own.
-/
structure Conforms
    (sets : List DefinitionSet)
    (options : Options)
    (model : ClassModel)
    (record : Record) : Prop where
  effective :
    ∀ name, record.contains name = true → model.effective.contains name = true
  nullable :
    ∀ name property,
      record.get? name = some .null →
      model.effective.get? name = some property →
      property.nullable = true
  satisfied :
    ∀ name value property,
      record.get? name = some value →
      model.effective.get? name = some property →
      value ≠ .null →
      property.generated = false →
      property.constraints.Satisfied value
  provided :
    options.mode = .create →
    ∀ name property,
      model.effective.get? name = some property →
      property.generated = false →
      property.IsProvided →
      record.contains name = true
  typed :
    ∀ name value property,
      record.get? name = some value →
      model.effective.get? name = some property →
      value ≠ .null →
      NamesNoCast sets property.declaredOn name →
      property.type.Holds value

/-- An accepted record has gone through all passes. -/
theorem isChecked_of_validateRecord
    {registry : Registry}
    {draws : Draws}
    {options : Options}
    {model : ClassModel}
    {input output : Record}
    (plain : ∀ name property, model.effective.get? name = some property → property.IsPlain)
    (accepted : validateRecord registry draws options model input = .ok output) :
    IsChecked options model output := by
  obtain ⟨levels, _, clean⟩ := validateRecord_ok accepted
  have isChecked :
      IsChecked options model
        (checkWith (checkRecord registry draws options levels) registry draws options model []
          input).record :=
    isChecked_checkWith plain (congrArg Outcome.failures clean)
  rwa [clean] at isChecked

/-- A checked record of a class that is compiled from loaded definitions conforms to it. -/
theorem conforms_of_isChecked
    {sets : List DefinitionSet}
    {registry : Registry}
    (loaded : ∀ set ∈ sets, set.IsLoaded)
    (compiled : (compile sets).result = .ok registry)
    {options : Options}
    {model : ClassModel}
    (member : model ∈ registry.classes)
    {record : Record}
    (isChecked : IsChecked options model record) :
    Conforms sets options model record where
  effective name contained := by
    obtain ⟨value, found⟩ := SortedMap.contains_iff.mp contained
    obtain ⟨property, has, _⟩ := isChecked.fitting name value found
    exact SortedMap.contains_iff.mpr ⟨property, has⟩
  nullable name property found has := by
    obtain ⟨other, otherHas, fits⟩ := isChecked.fitting name .null found
    cases has.symm.trans otherHas
    exact fits.nullable rfl
  satisfied name value property found has present :=
    isChecked.satisfied name value property found has (Json.isNull_eq_false present)
  provided := isChecked.provided
  typed name value property found has present noCast := by
    obtain ⟨other, otherHas, fits⟩ := isChecked.fitting name value found
    cases has.symm.trans otherHas
    exact fits.holds (Json.isNull_eq_false present)
      (hasDefaultCast_of_compile loaded compiled member has noCast)

theorem creatable_of_creationObstacle?
    {model : ClassModel}
    (free : creationObstacle? model = none) :
    model.isAbstract = false ∧ model.embedded = false := by
  rw [creationObstacle?] at free
  split at free
  · cases free
  · rename_i notAbstract
    split at free
    · cases free
    · rename_i notEmbedded
      exact ⟨by simpa using notAbstract, by simpa using notEmbedded⟩

/-- A value that is accepted under a name is accepted as a record of the class of that name. -/
theorem validate_ok
    {registry : Registry}
    {draws : Draws}
    {options : Options}
    {className : String}
    {input : Json}
    {output : Record}
    (accepted : validate registry draws options className input = .ok output) :
    ∃ model record,
      registry.get? className = some model ∧
        (options.mode = .create → model.isAbstract = false ∧ model.embedded = false) ∧
          validateRecord registry draws options model record = .ok output := by
  rw [validate] at accepted
  split at accepted
  · cases accepted
  · rename_i model found
    split at accepted
    · cases accepted
    · rename_i free
      cases input with
      | object members =>
          refine ⟨model, .ofMembers members, found, fun creates => ?_, accepted⟩
          rw [if_pos creates] at free
          exact creatable_of_creationObstacle? free
      | _ => cases accepted

/--
Every accepted record of a class that is compiled from loaded definitions conforms to
it.  What is accepted under a name is a record of the class of that name, and a new
one is of a class that is neither abstract nor embedded.
-/
theorem conforms_of_accepted
    {sets : List DefinitionSet}
    {registry : Registry}
    (loaded : ∀ set ∈ sets, set.IsLoaded)
    (compiled : (compile sets).result = .ok registry)
    (draws : Draws)
    (options : Options) :
    (∀ model ∈ registry.classes, ∀ input output,
      validateRecord registry draws options model input = .ok output →
      Conforms sets options model output) ∧
      ∀ className input output,
        validate registry draws options className input = .ok output →
        ∃ model,
          registry.get? className = some model ∧
            (options.mode = .create → model.isAbstract = false ∧ model.embedded = false) ∧
              Conforms sets options model output := by
  have recordsConform :
      ∀ model ∈ registry.classes, ∀ input output,
        validateRecord registry draws options model input = .ok output →
        Conforms sets options model output := by
    intro model member input output accepted
    have plain :
        ∀ name property, model.effective.get? name = some property → property.IsPlain :=
      fun _ _ has => isPlain_of_compile loaded compiled member has
    exact conforms_of_isChecked loaded compiled member (isChecked_of_validateRecord plain accepted)
  refine ⟨recordsConform, ?_⟩
  intro className input output accepted
  obtain ⟨model, record, found, creatable, recordAccepted⟩ := validate_ok accepted
  have member := Registry.mem_classes_of_get? found
  exact ⟨model, found, creatable, recordsConform model member record output recordAccepted⟩

/-- A document of one class, with a name that must be there and an age that need not. -/
def personDocument : Json.Document :=
  .ofJson
    (.object
      [("Person",
        .object
          [("properties",
            .array
              [.object
                [("name", .string "name"), ("type", .string "string"), ("mandatory", .bool true),
                  ("nonEmpty", .bool true)],
                .object
                  [("name", .string "age"), ("type", .string "integer"), ("min", .ofInt 0),
                    ("default", .ofInt 18)]])])])

/-- A person whose name has needless blanks is accepted without them, with the default age. -/
private theorem person_accepted :
    ((DefinitionSet.ofDocument? personDocument).bind fun set =>
      (compile [set]).result.toOption.bind fun registry =>
        (validate registry ⟨fun _ => "", fun _ => 0⟩ {} "Person"
          (.object [("name", .string "  Ada   Lovelace ")])).toOption.map SortedMap.entries) =
      some [("age", .ofInt 18), ("name", .string "Ada Lovelace")] := by
  simp only [validate, validateRecord, check?_eq_or]
  with_unfolding_all rfl

/-- The accepted person conforms to the class. -/
theorem conforms_of_accepted_person :
    ∃ set registry output,
      DefinitionSet.ofDocument? personDocument = some set ∧
        (compile [set]).result = .ok registry ∧
          output.entries = [("age", .ofInt 18), ("name", .string "Ada Lovelace")] ∧
            ∃ model,
              registry.get? "Person" = some model ∧ model.isAbstract = false ∧
                Conforms [set] {} model output := by
  have observed := person_accepted
  simp only [Option.bind_eq_some_iff, Option.map_eq_some_iff] at observed
  obtain ⟨set, isRead, registry, compiled, output, accepted, entries⟩ := observed
  have compiled := Registry.ok_of_toOption compiled
  have loaded : ∀ other ∈ [set], other.IsLoaded := by
    intro other member
    rw [List.mem_singleton.mp member]
    exact ⟨personDocument, isRead⟩
  obtain ⟨model, found, creatable, conforms⟩ :=
    (conforms_of_accepted loaded compiled _ {}).2 _ _ _ (Registry.ok_of_toOption accepted)
  exact ⟨set, registry, output, isRead, compiled, entries, model, found, (creatable rfl).1,
    conforms⟩

end Validation

end RecordSchema
