import RecordSchema.Proofs.Definition.WellFormed
import RecordSchema.Proofs.SortedMap

namespace RecordSchema

/-!
# United and completed definitions

Sets of definitions are united without loss, or a class that two of them declare is
reported.  The completion of the carrier adds properties to one class only, and
whatever defect the completed definitions have is one of the definitions themselves.
-/

namespace DefinitionSet

open Declarations

/-- United entries are the earlier ones and the added ones, none of which was there. -/
theorem addAll_ok
    {united larger : DefinitionSet}
    {entries : List (String × ClassDefinition)}
    (accepted : addAll united entries = .ok larger) :
    (∀ className definition,
      larger.get? className = some definition ↔
        united.get? className = some definition ∨ (className, definition) ∈ entries) ∧
      ∀ entry ∈ entries, united.get? entry.1 = none := by
  induction entries generalizing united with
  | nil =>
      cases accepted
      simp
  | cons first rest inductionHypothesis =>
      obtain ⟨firstName, first⟩ := first
      rw [addAll] at accepted
      split at accepted
      · cases accepted
      · rename_i isNew
        have absent : united.get? firstName = none :=
          SortedMap.contains_eq_false_iff.mp (by simpa using isNew)
        obtain ⟨lookups, restAbsent⟩ := inductionHypothesis accepted
        constructor
        · intro className definition
          rw [lookups, SortedMap.get?_insert]
          by_cases atFirst : className = firstName
          · subst atFirst
            simp [absent, eq_comm]
          · simp [atFirst]
        · intro entry member
          rcases List.mem_cons.mp member with rfl | later
          · exact absent
          · have fresh := restAbsent entry later
            rw [SortedMap.get?_insert] at fresh
            split at fresh
            · cases fresh
            · exact fresh

/-- A refused entry has the name of an earlier one. -/
theorem addAll_error
    {united : DefinitionSet}
    {entries : List (String × ClassDefinition)}
    {error : DefinitionError}
    (distinct : (entries.map Prod.fst).Nodup)
    (refused : addAll united entries = .error error) :
    ∃ className,
      error = .duplicateClass className ∧ united.contains className = true ∧
        className ∈ entries.map Prod.fst := by
  induction entries generalizing united with
  | nil =>
      cases refused
  | cons first rest inductionHypothesis =>
      obtain ⟨firstName, first⟩ := first
      obtain ⟨firstAbsent, restDistinct⟩ := List.nodup_cons.mp distinct
      rw [addAll] at refused
      split at refused
      · rename_i present
        cases refused
        exact ⟨firstName, rfl, present, List.mem_cons_self⟩
      · obtain ⟨className, shape, contained, member⟩ := inductionHypothesis restDistinct refused
        have different : className ≠ firstName :=
          fun same => firstAbsent (same ▸ member)
        refine ⟨className, shape, ?_, List.mem_cons_of_mem _ member⟩
        simpa [SortedMap.contains, SortedMap.get?_insert_of_ne _ different] using contained

theorem contains_of_addAll
    {united set larger : DefinitionSet}
    (accepted : addAll united set.entries = .ok larger)
    (className : String) :
    larger.contains className = true ↔
      united.contains className = true ∨ set.contains className = true := by
  simp only [SortedMap.contains_iff, (addAll_ok accepted).1, ← SortedMap.get?_eq_some_iff,
    exists_or]

/-- United sets have the declarations of all, and no name is in two of them. -/
theorem unite_ok
    {united whole : DefinitionSet}
    {sets : List DefinitionSet}
    (accepted : unite united sets = .ok whole) :
    (∀ className definition,
      whole.get? className = some definition ↔
        united.get? className = some definition ∨ ofSets sets className definition) ∧
      ∀ className, ((united :: sets).countP fun set => set.contains className) ≤ 1 := by
  induction sets generalizing united with
  | nil =>
      cases accepted
      refine ⟨by simp [ofSets], fun className => ?_⟩
      rw [List.countP_cons, List.countP_nil]
      split <;> simp
  | cons set rest inductionHypothesis =>
      rw [unite] at accepted
      split at accepted
      · cases accepted
      · rename_i larger added
        obtain ⟨lookups, distinct⟩ := inductionHypothesis accepted
        constructor
        · intro className definition
          rw [lookups, (addAll_ok added).1, ← SortedMap.get?_eq_some_iff]
          simp [ofSets, or_assoc]
        · intro className
          have once := distinct className
          simp only [List.countP_cons, contains_of_addAll added] at once ⊢
          have notBoth :
              united.contains className = true → set.contains className = true → False := by
            intro inUnited inSet
            obtain ⟨definition, found⟩ := SortedMap.contains_iff.mp inSet
            have absent :=
              (addAll_ok added).2 _ (SortedMap.get?_eq_some_iff.mp found)
            simp [SortedMap.contains, absent] at inUnited
          split at once <;> split <;> split <;> simp_all

/-- A united set has the declarations of the sets that it is made of. -/
theorem declarations_of_unite
    {sets : List DefinitionSet}
    {united : DefinitionSet}
    (accepted : unite .empty sets = .ok united) :
    united.declarations = ofSets sets := by
  funext className definition
  simpa [declarations] using (unite_ok accepted).1 className definition

/-- A refused union has a name that two sets declare. -/
theorem unite_error
    {united : DefinitionSet}
    {sets : List DefinitionSet}
    {error : DefinitionError}
    (refused : unite united sets = .error error) :
    ∃ className,
      error = .duplicateClass className ∧
        2 ≤ (united :: sets).countP fun set => set.contains className := by
  induction sets generalizing united with
  | nil =>
      cases refused
  | cons set rest inductionHypothesis =>
      rw [unite] at refused
      split at refused
      · rename_i failed
        cases refused
        obtain ⟨className, shape, inUnited, inEntries⟩ :=
          addAll_error set.keys_nodup failed
        have inSet : set.contains className = true :=
          SortedMap.contains_iff.mpr (SortedMap.mem_keys_iff.mp inEntries)
        refine ⟨className, shape, ?_⟩
        simp [inUnited, inSet]
      · rename_i larger added
        obtain ⟨className, shape, twice⟩ := inductionHypothesis refused
        refine ⟨className, shape, twice.trans ?_⟩
        simp only [List.countP_cons, contains_of_addAll added]
        split <;> split <;> split <;> simp_all

/-- The set without entries has none of the names of several sets. -/
theorem countP_cons_empty
    (sets : List DefinitionSet)
    (className : String) :
    ((.empty :: sets).countP fun set => set.contains className) =
      sets.countP fun set => set.contains className :=
  List.countP_cons_of_neg (by simp [SortedMap.contains])

/-- The properties that completion adds to a class: none, unless it is the carrier. -/
def addedProperties (definitions : DefinitionSet) (className : String) :
    List PropertyDefinition :=
  if className = carrierName then definitions.missingNames.map carrierProperty else []

/-- Completion adds properties behind those of each class, and a carrier where there is none. -/
theorem get?_withCarrier
    (definitions : DefinitionSet)
    (className : String) :
    definitions.withCarrier.get? className =
      (if className = carrierName then
          some definitions.carrier
        else
          definitions.get? className).map fun definition =>
        { definition with
          properties := definition.properties ++ definitions.addedProperties className } := by
  rw [withCarrier, SortedMap.get?_insert, addedProperties]
  by_cases isCarrier : className = carrierName
  · simp [isCarrier]
  · simp [isCarrier]

/-- A declared class stays with its properties in front of the added ones. -/
theorem withCarrier_of_get?
    {definitions : DefinitionSet}
    {className : String}
    {definition : ClassDefinition}
    (declared : definitions.get? className = some definition) :
    definitions.withCarrier.get? className =
      some { definition with
        properties := definition.properties ++ definitions.addedProperties className } := by
  rw [get?_withCarrier]
  by_cases isCarrier : className = carrierName
  · subst isCarrier
    simp [carrier, declared]
  · simp [isCarrier, declared]

/-- A class after completion is a declared one, or a carrier that nobody declares. -/
theorem get?_of_withCarrier
    {definitions : DefinitionSet}
    {className : String}
    {completed : ClassDefinition}
    (found : definitions.withCarrier.get? className = some completed) :
    ∃ definition : ClassDefinition,
      completed =
          { definition with
            properties := definition.properties ++ definitions.addedProperties className } ∧
        (definitions.get? className = some definition ∨
          className = carrierName ∧ definitions.get? carrierName = none ∧
            definition = { embedded := true }) := by
  rw [get?_withCarrier] at found
  by_cases isCarrier : className = carrierName
  · rw [if_pos isCarrier, Option.map_some, Option.some.injEq] at found
    refine ⟨definitions.carrier, found.symm, ?_⟩
    rw [carrier, isCarrier]
    cases declared : definitions.get? carrierName with
    | none =>
        exact .inr ⟨rfl, rfl, rfl⟩
    | some definition =>
        exact .inl rfl
  · rw [if_neg isCarrier, Option.map_eq_some_iff] at found
    obtain ⟨definition, declared, shape⟩ := found
    exact ⟨definition, shape.symm, .inl declared⟩

/-- The added properties belong to the carrier and are for classes that are not embedded. -/
theorem mem_addedProperties_iff
    {definitions : DefinitionSet}
    {className : String}
    {property : PropertyDefinition} :
    property ∈ definitions.addedProperties className ↔
      className = carrierName ∧
        ∃ carried definition,
          definitions.get? carried = some definition ∧ definition.embedded = false ∧
            carried ≠ carrierName ∧
            (∀ declared ∈ definitions.carrier.properties, declared.name ≠ carried) ∧
            property = carrierProperty carried := by
  rw [addedProperties]
  split
  · rename_i isCarrier
    simp only [List.mem_map, missingNames, carriedNames, List.mem_filter, isCarrier, true_and]
    constructor
    · rintro ⟨carried, ⟨⟨⟨name, definition⟩, ⟨member, needed⟩, rfl⟩, missing⟩, rfl⟩
      refine ⟨name, definition, SortedMap.get?_eq_some_iff.mpr member, ?_⟩
      simpa [List.any_eq_false, and_assoc] using And.intro needed missing
    · rintro ⟨carried, definition, declared, standing, other, missing, rfl⟩
      refine ⟨carried, ⟨⟨(carried, definition), ⟨?_, ?_⟩, rfl⟩, ?_⟩, rfl⟩
      · exact SortedMap.get?_eq_some_iff.mp declared
      · simp [standing, other]
      · simpa [List.any_eq_false] using missing
  · rename_i notCarrier
    simp [notCarrier]

theorem carrierName_mem_keys
    (definitions : DefinitionSet) :
    carrierName ∈ definitions.withCarrier.keys := by
  refine SortedMap.mem_keys_iff.mpr ?_
  rw [get?_withCarrier, if_pos rfl, Option.map_some]
  exact ⟨_, rfl⟩

/-- Definitions with a carrier that has a property for every class that is not embedded. -/
structure IsCompleted (definitions : DefinitionSet) : Prop where
  carried : carrierName ∈ definitions.keys
  carries :
    ∀ className definition,
      definitions.get? className = some definition →
      definition.embedded = false →
      className ≠ carrierName →
      ∃ carrier,
        definitions.get? carrierName = some carrier ∧
          ∃ property ∈ carrier.properties, property.name = className

theorem isCompleted_withCarrier
    (definitions : DefinitionSet) :
    definitions.withCarrier.IsCompleted where
  carried := definitions.carrierName_mem_keys
  carries className completed found standing other := by
    obtain ⟨definition, rfl, declared | ⟨isCarrier, _⟩⟩ := get?_of_withCarrier found
    · rw [get?_withCarrier, if_pos rfl, Option.map_some]
      refine ⟨_, rfl, ?_⟩
      by_cases present : ∃ property ∈ definitions.carrier.properties, property.name = className
      · obtain ⟨property, member, named⟩ := present
        exact ⟨property, List.mem_append_left _ member, named⟩
      · refine ⟨carrierProperty className, List.mem_append_right _ ?_, rfl⟩
        refine mem_addedProperties_iff.mpr
          ⟨rfl, className, definition, declared, standing, other, ?_, rfl⟩
        intro property member named
        exact present ⟨property, member, named⟩
    · exact absurd isCarrier other

section Completion

variable {definitions : DefinitionSet}

theorem known_withCarrier_iff
    {name : String} :
    Known definitions.withCarrier.declarations name ↔ Known definitions.declarations name := by
  constructor
  · rintro (isCarrier | ⟨completed, found⟩)
    · exact .inl isCarrier
    · obtain ⟨definition, _, declared | ⟨isCarrier, _⟩⟩ := get?_of_withCarrier found
      · exact .inr ⟨definition, declared⟩
      · exact .inl isCarrier
  · rintro (isCarrier | ⟨definition, declared⟩)
    · exact .inl isCarrier
    · exact .inr ⟨_, withCarrier_of_get? declared⟩

theorem inherits_withCarrier_iff
    {child parent : String} :
    Inherits definitions.withCarrier.declarations child parent ↔
      Inherits definitions.declarations child parent := by
  constructor
  · rintro ⟨completed, found, member⟩
    obtain ⟨definition, rfl, declared | ⟨_, _, rfl⟩⟩ := get?_of_withCarrier found
    · exact ⟨definition, declared, member⟩
    · cases member
  · rintro ⟨definition, declared, member⟩
    exact ⟨_, withCarrier_of_get? declared, member⟩

theorem inherits_withCarrier_eq
    {sets : List DefinitionSet}
    {united : DefinitionSet}
    (accepted : unite .empty sets = .ok united) :
    Inherits united.withCarrier.declarations = Inherits (ofSets sets) := by
  funext child parent
  rw [← declarations_of_unite accepted]
  exact propext inherits_withCarrier_iff

/-- A property that is declared after completion is declared before or an added one. -/
theorem declaresProperty_of_withCarrier
    {className : String}
    {property : PropertyDefinition}
    (declares : DeclaresProperty definitions.withCarrier.declarations className property) :
    DeclaresProperty definitions.declarations className property ∨
      property ∈ definitions.addedProperties className := by
  obtain ⟨completed, found, member⟩ := declares
  obtain ⟨definition, rfl, origin⟩ := get?_of_withCarrier found
  rcases List.mem_append.mp member with earlier | added
  · rcases origin with declared | ⟨_, _, rfl⟩
    · exact .inl ⟨definition, declared, earlier⟩
    · cases earlier
  · exact .inr added

theorem declaresIndex_withCarrier_iff
    {className : String}
    {index : IndexDefinition} :
    DeclaresIndex definitions.withCarrier.declarations className index ↔
      DeclaresIndex definitions.declarations className index := by
  constructor
  · rintro ⟨completed, found, member⟩
    obtain ⟨definition, rfl, declared | ⟨_, _, rfl⟩⟩ := get?_of_withCarrier found
    · exact ⟨definition, declared, member⟩
    · cases member
  · rintro ⟨definition, declared, member⟩
    exact ⟨_, withCarrier_of_get? declared, member⟩

/-- The carrier has its properties before completion as well, if only by what it is for. -/
theorem hasProperty_of_withCarrier
    {className name : String}
    (has : HasProperty definitions.withCarrier.declarations className name) :
    HasProperty definitions.declarations className name := by
  induction has with
  | declared found member =>
      rcases declaresProperty_of_withCarrier ⟨_, found, member⟩ with
        ⟨definition, declared, earlier⟩ | added
      · exact .declared declared earlier
      · obtain ⟨rfl, carried, carriedDefinition, declared, standing, other, _, rfl⟩ :=
          mem_addedProperties_iff.mp added
        exact .carried declared standing other
  | carried found standing other =>
      obtain ⟨definition, rfl, declared | ⟨isCarrier, _⟩⟩ := get?_of_withCarrier found
      · exact .carried declared standing other
      · exact absurd isCarrier other
  | edgeEnd found isEdge isEnd =>
      obtain ⟨definition, rfl, declared | ⟨_, _, rfl⟩⟩ := get?_of_withCarrier found
      · exact .edgeEnd declared isEdge isEnd
      · cases isEdge
  | inherited inherits _ inductionHypothesis =>
      exact .inherited (inherits_withCarrier_iff.mp inherits) inductionHypothesis

/-- After completion every class declares the properties that it had. -/
theorem hasProperty_withCarrier
    {className name : String}
    (has : HasProperty definitions.declarations className name) :
    HasProperty definitions.withCarrier.declarations className name := by
  induction has with
  | declared declared member =>
      exact .declared (withCarrier_of_get? declared) (List.mem_append_left _ member)
  | carried declared standing other =>
      exact .carried (withCarrier_of_get? declared) standing other
  | edgeEnd declared isEdge isEnd =>
      exact .edgeEnd (withCarrier_of_get? declared) isEdge isEnd
  | inherited inherits _ inductionHypothesis =>
      exact .inherited (inherits_withCarrier_iff.mpr inherits) inductionHypothesis

/-- A property that is repeated after completion is repeated before. -/
theorem count_properties_of_withCarrier
    {className : String}
    {definition : ClassDefinition}
    {property : String}
    (declared :
      definitions.get? className = some definition ∨
        className = carrierName ∧ definitions.get? carrierName = none ∧
          definition = { embedded := true })
    (repeated :
      2 ≤ ((definition.properties ++ definitions.addedProperties className).map
        PropertyDefinition.name).count property) :
    2 ≤ (definition.properties.map PropertyDefinition.name).count property := by
  rw [List.map_append, List.count_append] at repeated
  have addedOnce :
      ((definitions.addedProperties className).map PropertyDefinition.name).Nodup := by
    rw [addedProperties]
    split
    · have sameNames :
          (definitions.missingNames.map carrierProperty).map PropertyDefinition.name =
            definitions.missingNames := by
        simp [carrierProperty, Function.comp_def]
      rw [sameNames, missingNames, carriedNames]
      exact ((definitions.keys_nodup.sublist (List.filter_sublist.map Prod.fst))).filter _
    · exact .nil
  by_cases isAdded :
      property ∈ (definitions.addedProperties className).map PropertyDefinition.name
  · obtain ⟨added, member, rfl⟩ := List.mem_map.mp isAdded
    obtain ⟨rfl, carried, _, _, _, _, missing, rfl⟩ := mem_addedProperties_iff.mp member
    have carrierIsDefinition : definitions.carrier = definition := by
      rcases declared with found | ⟨_, absent, rfl⟩
      · rw [carrier, found]
        rfl
      · rw [carrier, absent]
        rfl
    have notDeclared :
        (definition.properties.map PropertyDefinition.name).count (carrierProperty carried).name =
          0 := by
      refine List.count_eq_zero.mpr fun isDeclared => ?_
      obtain ⟨declaredProperty, declaredMember, sameName⟩ := List.mem_map.mp isDeclared
      exact missing declaredProperty (carrierIsDefinition ▸ declaredMember) sameName
    have once := List.nodup_iff_count_le_one.mp addedOnce (carrierProperty carried).name
    omega
  · rw [List.count_eq_zero.mpr isAdded] at repeated
    exact repeated

/-- A defect of the completed definitions is one of the definitions themselves. -/
theorem defect_of_withCarrier
    {error : DefinitionError}
    (defect : Defect definitions.withCarrier.declarations error) :
    Defect definitions.declarations error := by
  cases error with
  | unknownParent className parent =>
      exact ⟨inherits_withCarrier_iff.mp defect.1,
        fun known => defect.2 (known_withCarrier_iff.mpr known)⟩
  | duplicateParent className parent =>
      obtain ⟨completed, found, twice⟩ := defect
      obtain ⟨definition, rfl, declared | ⟨_, _, rfl⟩⟩ := get?_of_withCarrier found
      · exact ⟨definition, declared, twice⟩
      · simp at twice
  | unknownLinkedClass className property linked =>
      obtain ⟨completed, found, ⟨declaredProperty, member, named, links⟩, unknown⟩ := defect
      have stillUnknown : ¬Known definitions.declarations linked :=
        fun known => unknown (known_withCarrier_iff.mpr known)
      rcases declaresProperty_of_withCarrier ⟨_, found, member⟩ with
        ⟨definition, declared, earlier⟩ | added
      · exact ⟨definition, declared, ⟨declaredProperty, earlier, named, links⟩, stillUnknown⟩
      · obtain ⟨_, _, _, _, _, _, _, rfl⟩ := mem_addedProperties_iff.mp added
        cases links
  | duplicateProperty className property =>
      obtain ⟨completed, found, twice⟩ := defect
      obtain ⟨definition, rfl, origin⟩ := get?_of_withCarrier found
      have twiceBefore := count_properties_of_withCarrier origin twice
      rcases origin with declared | ⟨_, _, rfl⟩
      · exact ⟨definition, declared, twiceBefore⟩
      · simp at twiceBefore
  | unknownIndexClass index className =>
      obtain ⟨⟨declaring, declaredIndex, declares, named⟩, unknown⟩ := defect
      exact ⟨⟨declaring, declaredIndex, declaresIndex_withCarrier_iff.mp declares, named⟩,
        fun known => unknown (known_withCarrier_iff.mpr known)⟩
  | unknownIndexProperty index className property =>
      obtain ⟨⟨declaring, declaredIndex, declares, named⟩, absent⟩ := defect
      exact ⟨⟨declaring, declaredIndex, declaresIndex_withCarrier_iff.mp declares, named⟩,
        fun has => absent (hasProperty_withCarrier has)⟩
  | emptyIndex index className =>
      obtain ⟨declaring, declaredIndex, declares, named⟩ := defect
      exact ⟨declaring, declaredIndex, declaresIndex_withCarrier_iff.mp declares, named⟩
  | circularInheritance className cycle =>
      exact ⟨defect.1, defect.2.imp fun _ _ => inherits_withCarrier_iff.mp⟩
  | invalidPattern className property reason =>
      obtain ⟨completed, found, declaredProperty, member, named, source, demands, unreadable⟩ :=
        defect
      rcases declaresProperty_of_withCarrier ⟨_, found, member⟩ with
        ⟨definition, declared, earlier⟩ | added
      · exact ⟨definition, declared, declaredProperty, earlier, named, source, demands,
          unreadable⟩
      · obtain ⟨_, _, _, _, _, _, _, rfl⟩ := mem_addedProperties_iff.mp added
        cases demands
  | invalidPermission className role bits =>
      obtain ⟨completed, table, found, present, masked⟩ := defect
      obtain ⟨definition, rfl, declared | ⟨_, _, rfl⟩⟩ := get?_of_withCarrier found
      · exact ⟨definition, table, declared, present, masked⟩
      · cases present
  | duplicateClass className =>
      exact defect
  | unknownProperty className property =>
      exact defect
  | alreadyResolved className property =>
      exact defect
  | classFrozen className =>
      exact defect
  | malformed path reason =>
      exact defect

end Completion

end DefinitionSet

end RecordSchema
