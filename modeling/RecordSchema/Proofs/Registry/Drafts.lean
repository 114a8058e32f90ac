import RecordSchema.Proofs.Definition.WellFormed
import RecordSchema.Proofs.Permission

namespace RecordSchema

/-!
# Drafted classes

A class is drafted when its properties have different names and readable patterns and
its masks are valid.  Its own properties are then exactly the declared ones, each
under its name, and a refusal names a property, a pattern or a mask of the class.
-/

open Declarations (Defect)

theorem exists_of_bind_ok
    {first : Except ε α}
    {next : α → Except ε β}
    {result : β}
    (accepted : first >>= next = .ok result) :
    ∃ value, first = .ok value ∧ next value = .ok result := by
  cases first with
  | error error =>
      cases accepted
  | ok value =>
      exact ⟨value, rfl, accepted⟩

theorem refused_of_bind_error
    {first : Except ε α}
    {next : α → Except ε β}
    {error : ε}
    (refused : first >>= next = .error error) :
    first = .error error ∨ ∃ value, first = .ok value ∧ next value = .error error := by
  cases first with
  | error firstError =>
      cases refused
      exact .inl rfl
  | ok value =>
      exact .inr ⟨value, rfl, refused⟩

/-- Constraints are missing where a pattern cannot be read. -/
theorem Property.constraintsOf?_eq_none_iff
    {kind : PropertyKind} :
    constraintsOf? kind = none ↔
      ∃ source, kind.pattern? = some source ∧ Pattern.ofSource? source = none := by
  cases kind with
  | string nonEmpty choices pattern =>
      cases pattern <;> simp [constraintsOf?, PropertyKind.pattern?]
  | integer min max choices =>
      simp [constraintsOf?, PropertyKind.pattern?]
  | boolean =>
      simp [constraintsOf?, PropertyKind.pattern?]
  | link linkedClass =>
      simp [constraintsOf?, PropertyKind.pattern?]
  | linkset linkedClass minItems =>
      simp [constraintsOf?, PropertyKind.pattern?]
  | embedded linkedClass =>
      simp [constraintsOf?, PropertyKind.pattern?]
  | embeddedlist linkedClass minItems =>
      simp [constraintsOf?, PropertyKind.pattern?]
  | embeddedset linkedClass minItems =>
      simp [constraintsOf?, PropertyKind.pattern?]

/-- The property of a definition once its constraints are read. -/
theorem Property.ofDefinition_eq_ok_iff
    {className : String}
    {definition : PropertyDefinition}
    {property : Property} :
    Property.ofDefinition className definition = .ok property ↔
      ∃ constraints,
        constraintsOf? definition.kind = some constraints ∧
          property =
            { name := definition.name
              type := definition.kind.type
              linkedClass := definition.kind.linkedClass?.map .pending
              mandatory := definition.mandatory
              nullable := definition.nullable
              constraints
              cast := castOf? definition
              default := DefaultValue.ofDefinition? definition
              generated := definition.generated
              readOnly := definition.readOnly
              description := definition.description
              declaredOn := className } := by
  rw [ofDefinition]
  cases constraintsOf? definition.kind <;> simp [eq_comm]

theorem Property.ofDefinition_error
    {className : String}
    {definition : PropertyDefinition}
    {error : DefinitionError}
    (refused : Property.ofDefinition className definition = .error error) :
    (∃ source,
        definition.kind.pattern? = some source ∧ Pattern.ofSource? source = none) ∧
      ∃ reason, error = .invalidPattern className definition.name reason := by
  rw [ofDefinition] at refused
  split at refused
  · rename_i unreadable
    cases refused
    exact ⟨constraintsOf?_eq_none_iff.mp unreadable, _, rfl⟩
  · cases refused

namespace ClassModel

/-- Declared properties have different names and are found under them. -/
theorem declareProperties_ok
    {className : String}
    {declared own : SortedMap Property}
    {definitions : List PropertyDefinition}
    (accepted : declareProperties className declared definitions = .ok own) :
    (definitions.map PropertyDefinition.name).Nodup ∧
      (∀ definition ∈ definitions,
        declared.get? definition.name = none ∧
          ∃ property, Property.ofDefinition className definition = .ok property) ∧
      ∀ name property,
        own.get? name = some property ↔
          declared.get? name = some property ∨
            ∃ definition ∈ definitions,
              definition.name = name ∧
                Property.ofDefinition className definition = .ok property := by
  induction definitions generalizing declared with
  | nil =>
      cases accepted
      simp
  | cons first rest inductionHypothesis =>
      rw [declareProperties] at accepted
      split at accepted
      · cases accepted
      · rename_i firstProperty firstRead
        split at accepted
        · cases accepted
        · rename_i isNew
          have firstAbsent : declared.get? first.name = none :=
            SortedMap.contains_eq_false_iff.mp (by simpa using isNew)
          obtain ⟨restDistinct, restFresh, lookups⟩ := inductionHypothesis accepted
          have otherNames : ∀ definition ∈ rest, definition.name ≠ first.name := by
            intro definition member sameName
            have fresh := (restFresh definition member).1
            rw [sameName, SortedMap.get?_insert_self] at fresh
            cases fresh
          refine ⟨?_, ?_, ?_⟩
          · refine List.nodup_cons.mpr ⟨fun repeated => ?_, restDistinct⟩
            obtain ⟨definition, member, sameName⟩ := List.mem_map.mp repeated
            exact otherNames definition member sameName
          · intro definition member
            rcases List.mem_cons.mp member with rfl | later
            · exact ⟨firstAbsent, firstProperty, firstRead⟩
            · obtain ⟨fresh, read⟩ := restFresh definition later
              rw [SortedMap.get?_insert_of_ne _ (otherNames definition later)] at fresh
              exact ⟨fresh, read⟩
          · intro name property
            rw [lookups, SortedMap.get?_insert]
            by_cases atFirst : name = first.name
            · subst atFirst
              have noOther :
                  ¬∃ definition ∈ rest,
                    definition.name = first.name ∧
                      Property.ofDefinition className definition = .ok property := by
                rintro ⟨definition, member, sameName, _⟩
                exact otherNames definition member sameName
              simp [firstRead, firstAbsent, noOther]
            · simp [atFirst, Ne.symm atFirst]

/-- Refused properties repeat a name, or a pattern of one cannot be read. -/
theorem declareProperties_error
    {className : String}
    {declared : SortedMap Property}
    {definitions : List PropertyDefinition}
    {error : DefinitionError}
    (refused : declareProperties className declared definitions = .error error) :
    (∃ definition ∈ definitions,
        (∃ source,
          definition.kind.pattern? = some source ∧ Pattern.ofSource? source = none) ∧
          ∃ reason, error = .invalidPattern className definition.name reason) ∨
      ∃ name,
        error = .duplicateProperty className name ∧
          (declared.contains name = true ∧ name ∈ definitions.map PropertyDefinition.name ∨
            2 ≤ (definitions.map PropertyDefinition.name).count name) := by
  induction definitions generalizing declared with
  | nil =>
      cases refused
  | cons first rest inductionHypothesis =>
      rw [declareProperties] at refused
      split at refused
      · rename_i firstError firstRefused
        cases refused
        exact .inl ⟨first, List.mem_cons_self, Property.ofDefinition_error firstRefused⟩
      · split at refused
        · rename_i repeated
          cases refused
          exact .inr ⟨first.name, rfl, .inl ⟨repeated, by simp⟩⟩
        · rcases inductionHypothesis refused with
            ⟨definition, member, unreadable⟩ | ⟨name, shape, repeated⟩
          · exact .inl ⟨definition, List.mem_cons_of_mem _ member, unreadable⟩
          · refine .inr ⟨name, shape, ?_⟩
            rw [List.map_cons, List.count_cons, List.mem_cons]
            rcases repeated with ⟨contained, member⟩ | twice
            · by_cases atFirst : name = first.name
              · subst atFirst
                have once := List.count_pos_iff.mpr member
                rw [if_pos (beq_self_eq_true _)]
                exact .inr (by omega)
              · rw [SortedMap.contains, SortedMap.get?_insert_of_ne _ atFirst] at contained
                exact .inl ⟨contained, .inr member⟩
            · exact .inr (by omega)

end ClassModel

namespace ClassModel

/-- An accepted class has the own properties and the table of its definition. -/
theorem ofDefinition_ok
    {id : Nat}
    {name : String}
    {definition : ClassDefinition}
    {model : ClassModel}
    (accepted : ofDefinition id name definition = .ok model) :
    ∃ own permissions,
      declareProperties name .empty definition.properties = .ok own ∧
        PermissionTable.ofDefinition name definition.permissions definition.expose =
          .ok permissions ∧
        model =
          { id
            name
            isAbstract := definition.isAbstract
            isEdge := definition.isEdge
            embedded := definition.embedded
            description := definition.description
            expose := definition.expose
            own
            permissions } := by
  rw [ofDefinition] at accepted
  obtain ⟨own, ownRead, rest⟩ := exists_of_bind_ok accepted
  obtain ⟨permissions, tableRead, built⟩ := exists_of_bind_ok rest
  cases built
  exact ⟨own, permissions, ownRead, tableRead, rfl⟩

theorem ofDefinition_error
    {id : Nat}
    {name : String}
    {definition : ClassDefinition}
    {error : DefinitionError}
    (refused : ofDefinition id name definition = .error error) :
    declareProperties name .empty definition.properties = .error error ∨
      PermissionTable.ofDefinition name definition.permissions definition.expose =
        .error error := by
  rw [ofDefinition] at refused
  rcases refused_of_bind_error refused with ownRefused | ⟨own, _, rest⟩
  · exact .inl ownRefused
  · rcases refused_of_bind_error rest with tableRefused | ⟨permissions, _, built⟩
    · exact .inr tableRefused
    · cases built

/-- What is wrong with a refused class is a defect of the declarations it belongs to. -/
theorem defect_of_ofDefinition_error
    {declares : Declarations}
    {id : Nat}
    {name : String}
    {definition : ClassDefinition}
    {error : DefinitionError}
    (declared : declares name definition)
    (refused : ofDefinition id name definition = .error error) :
    Defect declares error := by
  rcases ofDefinition_error refused with ownRefused | tableRefused
  · rcases declareProperties_error ownRefused with
      ⟨property, member, ⟨source, demands, unreadable⟩, reason, rfl⟩ |
        ⟨property, rfl, ⟨contained, _⟩ | twice⟩
    · exact ⟨definition, declared, property, member, rfl, source, demands, unreadable⟩
    · cases contained
    · exact ⟨definition, declared, twice⟩
  · obtain ⟨masks, role, bits, present, found, tooLarge, rfl⟩ :=
      PermissionTable.ofDefinition_error tableRefused
    exact ⟨definition, masks, declared, present, found, tooLarge⟩

end ClassModel

namespace Registry

/-- The drafts stand in the order of their definitions and are numbered in it. -/
theorem draftFrom_ok
    {start : Nat}
    {entries : List (String × ClassDefinition)}
    {drafts : List ClassModel}
    (accepted : draftFrom start entries = .ok drafts) :
    drafts.length = entries.length ∧
      ∀ position name definition,
        entries[position]? = some (name, definition) →
        ∃ draft,
          drafts[position]? = some draft ∧
            ClassModel.ofDefinition (start + position) name definition = .ok draft := by
  induction entries generalizing start drafts with
  | nil =>
      cases accepted
      simp
  | cons first rest inductionHypothesis =>
      rw [draftFrom] at accepted
      split at accepted
      · cases accepted
      · rename_i firstDraft firstAccepted
        split at accepted
        · cases accepted
        · rename_i restDrafts restAccepted
          cases accepted
          obtain ⟨sameLength, positions⟩ := inductionHypothesis restAccepted
          refine ⟨by simp [sameLength], fun position name definition found => ?_⟩
          cases position with
          | zero =>
              cases found
              exact ⟨firstDraft, rfl, firstAccepted⟩
          | succ position =>
              obtain ⟨draft, draftFound, read⟩ := positions position name definition found
              refine ⟨draft, draftFound, ?_⟩
              rw [← read]
              congr 1
              omega

/-- Refused drafts have a refused class. -/
theorem draftFrom_error
    {start : Nat}
    {entries : List (String × ClassDefinition)}
    {error : DefinitionError}
    (refused : draftFrom start entries = .error error) :
    ∃ id name definition,
      (name, definition) ∈ entries ∧ ClassModel.ofDefinition id name definition = .error error := by
  induction entries generalizing start with
  | nil =>
      cases refused
  | cons first rest inductionHypothesis =>
      rw [draftFrom] at refused
      split at refused
      · rename_i firstRefused
        cases refused
        exact ⟨start, first.1, first.2, List.mem_cons_self, firstRefused⟩
      · split at refused
        · rename_i restRefused
          cases refused
          obtain ⟨id, name, definition, member, classRefused⟩ := inductionHypothesis restRefused
          exact ⟨id, name, definition, List.mem_cons_of_mem _ member, classRefused⟩
        · cases refused

end Registry

end RecordSchema
