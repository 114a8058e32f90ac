import RecordSchema.Proofs.Registry.Provenance
import RecordSchema.Proofs.Validation.Places

namespace RecordSchema

/-!
# Values that are accepted again

A value of a property is accepted again if its cast keeps it and the records in it pass
again.  That a record passes is said here without its place and without the levels: it is
enough that the record is accepted where it stands alone.
-/

open Registry (compile)

/-- A property that a document may declare. -/
structure Property.IsWritten (property : Property) : Prop extends property.IsPlain where
  noFunction : ∀ source, property.default ≠ some (.function source)
  constraints :
    property.type.isEmbedded = true → ∃ minItems, property.constraints = { minItems }

theorem Registry.isWritten_of_compile
    {sets : List DefinitionSet}
    {registry : Registry}
    (loaded : ∀ set ∈ sets, set.IsLoaded)
    (compiled : (compile sets).result = .ok registry) :
    registry.Every Property.IsWritten := by
  intro model member name property has
  refine ⟨isPlain_of_compile loaded compiled member has, ?_, ?_⟩
  · exact default_ne_function_of_compile loaded compiled member has
  · exact constraints_of_compile loaded compiled member has

theorem Registry.keepsDepth_of_isWritten
    {registry : Registry}
    (written : registry.Every Property.IsWritten) :
    registry.Every Property.KeepsDepth := by
  intro model member name property has
  exact (written model member name property has).builtin.keepsDepth

/-- A least number of items is all that such constraints demand. -/
theorem Constraints.satisfied_minItems_iff
    {minItems : Option UInt64}
    {value : Json} :
    ({ minItems } : Constraints).Satisfied value ↔
      ∀ bound items,
        minItems = some bound → value = .array items → bound.toNat ≤ items.length := by
  constructor
  · intro satisfied
    exact satisfied.minItems
  · intro enough
    constructor
    case minItems => exact enough
    all_goals simp

namespace Validation

variable
  {check : ClassModel → List Step → Record → Outcome}
  {registry : Registry}
  {draws : Draws}
  {options : Options}
  {model linked : ClassModel}
  {steps : List Step}
  {input output record : Record}
  {name : String}
  {property : Property}
  {fixed : Prop}
  {levels : Nat}

/-- An object is such a value, or an array holds only such values. -/
def HoldsOnly (test : Json → Prop) : Json → Prop
  | .object members => test (.object members)
  | .array items => ∀ item ∈ items, test item
  | _ => True

/-- A value that a class accepts as a record, whatever generators give. -/
def Accepts
    (registry : Registry)
    (options : Options)
    (model : ClassModel)
    (value : Json) : Prop :=
  ∃ members,
    value = .object members ∧
      ∀ draws, ∃ output,
        validateRecord registry draws options model (.ofMembers members) = .ok output

/--
A value that is accepted as a record at every place, and stays as it is if that is asked for.
-/
def PassesAgain
    (registry : Registry)
    (options : Options)
    (fixed : Prop)
    (model : ClassModel)
    (value : Json) : Prop :=
  ∃ members,
    value = .object members ∧
      ∀ draws steps levels,
        (Record.ofMembers members).toJson.objectDepth ≤ levels →
        ∃ again,
          checkRecord registry draws options levels model steps (.ofMembers members) =
              ⟨again, []⟩ ∧
            (fixed → again.toJson = value)

theorem HoldsOnly.imp
    {test other : Json → Prop}
    (implies : ∀ value, test value → other value)
    {value : Json}
    (holds : HoldsOnly test value) :
    HoldsOnly other value := by
  cases value with
  | object members =>
      exact implies _ holds
  | array items =>
      intro item member
      exact implies item (holds item member)
  | _ => trivial

theorem PassesAgain.imp
    {other : Prop}
    (implies : other → fixed)
    {value : Json}
    (passes : PassesAgain registry options fixed model value) :
    PassesAgain registry options other model value := by
  obtain ⟨members, isObject, again⟩ := passes
  refine ⟨members, isObject, fun draws steps levels enough => ?_⟩
  obtain ⟨record, clean, stays⟩ := again draws steps levels enough
  exact ⟨record, clean, stays ∘ implies⟩

theorem PassesAgain.accepts
    {value : Json}
    (passes : PassesAgain registry options fixed model value) :
    Accepts registry options model value := by
  obtain ⟨members, isObject, again⟩ := passes
  refine ⟨members, isObject, fun draws => ?_⟩
  obtain ⟨record, clean, _⟩ := again draws [] _ (Nat.le_refl _)
  exact ⟨record, validateRecord_of_clean clean⟩

/-- A record that is accepted where it stands alone is accepted everywhere. -/
theorem Accepts.passesAgain
    (keepsDepth : registry.Every Property.KeepsDepth)
    (member : model ∈ registry.classes)
    {value : Json}
    (accepts : Accepts registry options model value) :
    PassesAgain registry options False model value := by
  obtain ⟨members, isObject, accepted⟩ := accepts
  refine ⟨members, isObject, fun draws steps levels enough => ?_⟩
  obtain ⟨output, outputAccepted⟩ := accepted (draws.under steps)
  obtain ⟨alone, enoughAlone, clean⟩ := checkRecord_of_validateRecord outputAccepted
  refine ⟨output, ?_, False.elim⟩
  rw [checkRecord_eq_under keepsDepth member enough enoughAlone, clean]
  rfl

/-- A value that a class accepts as a record, and the form in which it is stored. -/
def StoresAs
    (registry : Registry)
    (options : Options)
    (model : ClassModel)
    (value form : Json) : Prop :=
  ∃ draws members record,
    value = .object members ∧
      validateRecord registry draws options model (.ofMembers members) = .ok record ∧
        form = record.toJson

/-- A record that passes where it is embedded is accepted where it stands alone. -/
theorem Passes.storesAs
    (keepsDepth : registry.Every Property.KeepsDepth)
    (member : model ∈ registry.classes)
    {value form : Json}
    (passes : Passes (checkRecord registry draws options levels model) value form)
    (enough : value.objectDepth ≤ levels) :
    StoresAs registry options model value form := by
  obtain ⟨members, steps, record, rfl, clean, rfl⟩ := passes
  refine ⟨draws.under steps, members, record, rfl, ?_, rfl⟩
  have recordEnough := Nat.le_trans (Record.objectDepth_ofMembers_le members) enough
  rw [checkRecord_eq_under keepsDepth member recordEnough (Nat.le_refl _)] at clean
  exact validateRecord_of_clean (Outcome.eq_of_under_eq clean)

theorem storesAs_of_passes
    (keepsDepth : registry.Every Property.KeepsDepth)
    (member : model ∈ registry.classes)
    {items forms : List Json}
    (passes : List.Forall₂ (Passes (checkRecord registry draws options levels model)) items forms)
    (enough : (Json.array items).objectDepth ≤ levels) :
    List.Forall₂ (StoresAs registry options model) items forms := by
  have bounded : ∀ item ∈ items, item.objectDepth ≤ levels := by
    intro item itemMember
    exact Nat.le_trans (Json.objectDepth_le_of_mem_items itemMember) enough
  apply ((List.forall₂_and_left items forms).mpr ⟨bounded, passes⟩).imp
  rintro item form ⟨itemEnough, itemPasses⟩
  exact itemPasses.storesAs keepsDepth member itemEnough

theorem checkItems_of_passesAgain
    {items : List Json}
    (passes : ∀ item ∈ items, PassesAgain registry options fixed linked item)
    (enough : Json.objectDepthItems items ≤ levels)
    (draws : Draws)
    (steps : List Step)
    (position : Nat) :
    ∃ forms,
      checkItems (checkRecord registry draws options levels linked) steps position items =
          (forms, []) ∧
        forms.length = items.length ∧ (fixed → forms = items) := by
  induction items generalizing position with
  | nil =>
      exact ⟨[], rfl, rfl, fun _ => rfl⟩
  | cons first rest inductionHypothesis =>
      have bounds := Json.objectDepthItems_le_iff.mp enough
      have restEnough : Json.objectDepthItems rest ≤ levels := by
        apply Json.objectDepthItems_le_iff.mpr
        intro item member
        exact bounds item (List.mem_cons_of_mem _ member)
      have restPasses : ∀ item ∈ rest, PassesAgain registry options fixed linked item :=
        fun item member => passes item (List.mem_cons_of_mem _ member)
      obtain ⟨forms, restClean, sameLength, restStays⟩ :=
        inductionHypothesis restPasses restEnough (position + 1)
      obtain ⟨members, rfl, again⟩ := passes first List.mem_cons_self
      have firstEnough :=
        Nat.le_trans (Record.objectDepth_ofMembers_le members) (bounds _ List.mem_cons_self)
      obtain ⟨record, clean, stays⟩ := again draws (steps ++ [.index position]) levels firstEnough
      refine ⟨record.toJson :: forms, ?_, ?_, ?_⟩
      · simp [checkItems, clean, restClean]
      · simp [sameLength]
      · intro isFixed
        rw [stays isFixed, restStays isFixed]

/-- A value in which all records pass again is accepted, with as many items as it has. -/
theorem checkNested_of_holdsOnly
    {value : Json}
    (holds :
      HoldsRecords registry property value →
      ∀ linked,
        registry.linkedClass? property = some linked →
        HoldsOnly (PassesAgain registry options fixed linked) value)
    (enough : value.objectDepth ≤ levels)
    (draws : Draws)
    (steps : List Step) :
    ∃ form,
      checkNested (checkRecord registry draws options levels) registry property steps value =
          .accept form ∧
        (fixed ∨ ¬HoldsRecords registry property value → form = value) ∧
          ∀ items,
            form = .array items →
            ∃ sources, value = .array sources ∧ items.length = sources.length := by
  by_cases holdsRecords : HoldsRecords registry property value
  · have only := holds holdsRecords
    obtain ⟨isEmbedded, isLinked, shape⟩ := holdsRecords
    obtain ⟨linked, found⟩ := Option.isSome_iff_exists.mp isLinked
    rcases shape with ⟨items, rfl⟩ | ⟨type, members, rfl⟩
    · rw [Json.objectDepth] at enough
      obtain ⟨forms, clean, sameLength, stays⟩ :=
        checkItems_of_passesAgain (only linked found) enough draws steps 0
      refine ⟨.array forms, ?_, ?_, ?_⟩
      · rw [checkNested_array isEmbedded found, clean]
        rfl
      · rintro (isFixed | holdsNone)
        · rw [stays isFixed]
        · exact absurd ⟨isEmbedded, isLinked, .inl ⟨items, rfl⟩⟩ holdsNone
      · intro others same
        cases same
        exact ⟨items, rfl, sameLength⟩
    · obtain ⟨others, same, again⟩ := only linked found
      cases same
      obtain ⟨record, clean, stays⟩ :=
        again draws steps levels (Nat.le_trans (Record.objectDepth_ofMembers_le members) enough)
      refine ⟨record.toJson, ?_, ?_, ?_⟩
      · rw [checkNested_object type found, clean]
        rfl
      · rintro (isFixed | holdsNone)
        · exact stays isFixed
        · exact absurd ⟨isEmbedded, isLinked, .inr ⟨type, members, rfl⟩⟩ holdsNone
      · intro items isArray
        cases isArray
  · refine ⟨value, checkNested_of_not_holdsRecords holdsRecords, fun _ => rfl, ?_⟩
    intro items isArray
    exact ⟨items, isArray, rfl⟩

/-- A value of a property is accepted in a form that violates nothing. -/
def IsAcceptedAgain
    (registry : Registry)
    (draws : Draws)
    (options : Options)
    (fixed : Prop)
    (levels : Nat)
    (steps : List Step)
    (property : Property)
    (value : Json) : Prop :=
  ∃ form,
    checkPresent (checkRecord registry draws options levels) registry options steps property
        value = .accept form ∧
      (form.isNull = false → property.generated = false →
        property.constraints.Satisfied form) ∧
        (fixed → form = value)

theorem isAcceptedAgain_null
    (writable : options.mode = .update → property.readOnly = false)
    (nullable : property.nullable = true) :
    IsAcceptedAgain registry draws options fixed levels steps property .null := by
  refine ⟨.null, checkPresent_null writable nullable, ?_, fun _ => rfl⟩
  intro isPresent
  cases isPresent

/-- A value is accepted again if all records pass again in what its cast makes of it. -/
theorem isAcceptedAgain_of_castValue
    {value cast : Json}
    (written : property.IsWritten)
    (writable : options.mode = .update → property.readOnly = false)
    (isPresent : value.isNull = false)
    (accepted : property.castValue value = .ok cast)
    (stays : fixed → cast = value)
    (holds :
      HoldsRecords registry property cast →
      ∀ linked,
        registry.linkedClass? property = some linked →
        HoldsOnly (PassesAgain registry options fixed linked) cast)
    (enough : value.objectDepth ≤ levels)
    (satisfied : property.generated = false → property.constraints.Satisfied cast) :
    IsAcceptedAgain registry draws options fixed levels steps property value := by
  have castEnough : cast.objectDepth ≤ levels :=
    Nat.le_trans (written.builtin.keepsDepth value cast accepted) enough
  obtain ⟨form, isForm, same, sameLength⟩ :=
    checkNested_of_holdsOnly holds castEnough draws steps
  refine ⟨form, ?_, ?_, ?_⟩
  · rw [checkPresent_of_castValue writable isPresent accepted, isForm]
  · intro _ notGenerated
    have castSatisfied := satisfied notGenerated
    cases isEmbedded : property.type.isEmbedded with
    | true =>
        obtain ⟨minItems, shape⟩ := written.constraints isEmbedded
        rw [shape, Constraints.satisfied_minItems_iff] at castSatisfied ⊢
        intro bound items isBound isArray
        obtain ⟨sources, isSources, lengths⟩ := sameLength items isArray
        rw [lengths]
        exact castSatisfied bound sources isBound isSources
    | false =>
        have holdsNone : ¬HoldsRecords registry property cast := by
          rintro ⟨embedded, _⟩
          rw [isEmbedded] at embedded
          cases embedded
        rw [same (.inr holdsNone)]
        exact castSatisfied
  · intro isFixed
    rw [same (.inl isFixed), stays isFixed]

end Validation

end RecordSchema
