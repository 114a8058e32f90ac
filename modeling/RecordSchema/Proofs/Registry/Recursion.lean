import RecordSchema.Proofs.Registry.Acceptance

namespace RecordSchema

/-!
# The recursion of effective properties

In a compiled registry the effective properties satisfy the recursion that the rules
of inheritance state, flags of indices aside: what a class declares comes first, then
what the last parent to have it gives, then the ends of an edge.  Every order with
parents first composes the same.
-/

open Hierarchy (IsParentsFirst)

namespace Registry

/-- The property of a name that a definition declares, with its link looked up. -/
def declaredProperty?
    (hierarchy : Hierarchy)
    (className : String)
    (definition : ClassDefinition)
    (name : String) : Option Property :=
  (definition.properties.find? fun declared => declared.name == name).bind fun declared =>
    match Property.ofDefinition className declared with
    | .ok draft => some (draft.linkIn hierarchy)
    | .error _ => none

/-- The own property of a name is the one that the definition declares. -/
theorem own_eq_declaredProperty?
    {hierarchy : Hierarchy}
    {id : Nat}
    {className : String}
    {definition : ClassDefinition}
    {model : ClassModel}
    (isFounded : IsFounded hierarchy id className definition model)
    (distinct : (definition.properties.map PropertyDefinition.name).Nodup)
    (name : String) :
    model.own.get? name = declaredProperty? hierarchy className definition name := by
  rw [declaredProperty?]
  cases declaredFound :
      definition.properties.find? fun declared => declared.name == name with
  | none =>
      rw [Option.bind_none, Option.eq_none_iff_forall_ne_some]
      intro property own
      obtain ⟨declared, member, named, _⟩ := (isFounded.own _ _).mp own
      have otherName := List.find?_eq_none.mp declaredFound declared member
      exact otherName (beq_iff_eq.mpr named)
  | some declared =>
      have member := List.mem_of_find?_eq_some declaredFound
      have named : declared.name = name := by
        simpa using List.find?_some declaredFound
      -- No other property has the name, so the first one found is the one declared.
      have only :
          ∀ other ∈ definition.properties, other.name = name → other = declared := by
        intro other otherMember otherNamed
        exact List.inj_on_of_nodup_map distinct otherMember member
          (otherNamed.trans named.symm)
      rw [Option.bind_some]
      split
      · rename_i draft read
        exact (isFounded.own _ _).mpr ⟨declared, member, named, draft, read, rfl⟩
      · rename_i error unread
        rw [Option.eq_none_iff_forall_ne_some]
        intro property own
        obtain ⟨other, otherMember, otherNamed, draft, read, _⟩ := (isFounded.own _ _).mp own
        rw [only other otherMember otherNamed, unread] at read
        cases read

/-- In a foundation each class has the own properties that its definition declares. -/
theorem Founded.own_eq_declaredProperty?
    {definitions : DefinitionSet}
    {base : Foundation}
    (founded : Founded definitions base)
    {id : Nat}
    {className : String}
    {definition : ClassDefinition}
    {model : ClassModel}
    (declared : definitions.get? className = some definition)
    (isFounded : IsFounded base.hierarchy id className definition model)
    (name : String) :
    model.own.get? name = declaredProperty? base.hierarchy className definition name := by
  obtain ⟨_, draft, drafted⟩ := founded.drafted _ _ declared
  obtain ⟨_, _, ownRead, _⟩ := ClassModel.ofDefinition_ok drafted
  exact Registry.own_eq_declaredProperty? isFounded (ClassModel.declareProperties_ok ownRead).1 name

/--
A class of a registry whose properties are those of the recursion: the own ones are
declared, the effective ones are own, inherited from the last parent that has one, or
ends of an edge.
-/
structure IsRecursive
    (registry : Registry)
    (definition : ClassDefinition)
    (model : ClassModel) : Prop where
  parents : ∀ parent ∈ definition.inherits, ∃ ancestor, registry.get? parent = some ancestor
  own :
    ∀ name,
      (model.own.get? name).map Property.unflagged =
        declaredProperty? registry.hierarchy model.name definition name
  effective :
    ∀ name,
      (model.effective.get? name).map Property.unflagged =
        ((declaredProperty? registry.hierarchy model.name definition name).or
          (definition.inherits.reverse.findSome? fun parent =>
            (registry.get? parent).bind fun ancestor =>
              (ancestor.effective.get? name).map Property.unflagged)).or
          (if definition.isEdge = true ∧ name ∈ endpointNames then
            some (.endpoint model.name name)
          else
            none)

namespace IsLinked

variable
  {definitions : DefinitionSet}
  {base : Foundation}
  {registry : Registry}

/-- The registry resolves links as the foundation does. -/
theorem linkIn_eq
    (linked : IsLinked definitions base registry)
    (property : Property) :
    property.linkIn registry.hierarchy = property.linkIn base.hierarchy := by
  rw [Property.linkIn, Property.linkIn, linked.hierarchy, Hierarchy.idOf?_freeze]

/-- The registry gives the same declared properties as the foundation. -/
theorem declaredProperty?_eq
    (linked : IsLinked definitions base registry) :
    declaredProperty? registry.hierarchy = declaredProperty? base.hierarchy := by
  have sameLinks :
      Property.linkIn registry.hierarchy = Property.linkIn base.hierarchy :=
    funext linked.linkIn_eq
  funext className definition name
  rw [declaredProperty?, declaredProperty?, sameLinks]

/-- A class that a definition inherits from is found. -/
theorem exists_ancestor
    (linked : IsLinked definitions base registry)
    {className parent : String}
    {definition : ClassDefinition}
    (declared : definitions.get? className = some definition)
    (member : parent ∈ definition.inherits) :
    ∃ ancestor, registry.get? parent = some ancestor := by
  obtain ⟨_, parentId, _, parentFound⟩ :=
    linked.founded.declares.inherits_found ⟨definition, declared, member⟩
  obtain ⟨parentDefinition, parentEntry⟩ := linked.founded.declares.idOf?_iff.mp parentFound
  obtain ⟨parentModel, parentModelFound, _⟩ :=
    linked.founded.models parentId parent parentDefinition parentEntry
  obtain ⟨ancestor, ancestorFound⟩ := linked.exists_attached parentModelFound
  exact ⟨ancestor, by rw [linked.get?_eq, parentFound, Option.bind_some, ancestorFound]⟩

/-- Under a name the parents that a definition names have what is composed for them. -/
theorem map_inherits
    (linked : IsLinked definitions base registry)
    {id : Nat}
    {className : String}
    {definition : ClassDefinition}
    (entryFound : definitions.entries[id]? = some (className, definition))
    (name : String) :
    (definition.inherits.map fun parent =>
        (registry.get? parent).bind fun ancestor =>
          (ancestor.effective.get? name).map Property.unflagged) =
      (base.hierarchy.parentsOf id).map fun parent =>
        (composedOf base.composition parent).get? name := by
  let fromId : Option Nat → Option Property := fun id? =>
    (id?.bind registry.byId?).bind fun ancestor =>
      (ancestor.effective.get? name).map Property.unflagged
  calc
    _ = (definition.inherits.map base.hierarchy.idOf?).map fromId := by
        rw [List.map_map]
        simp only [linked.get?_eq]
        rfl
    _ = ((base.hierarchy.parentsOf id).map some).map fromId := by
        rw [linked.founded.declares.parents_eq entryFound]
    _ = _ := by
        rw [List.map_map]
        exact List.map_congr_left fun parent _ => linked.unflagged_effective parent name

/-- What the named parents give a class is what is composed for them. -/
theorem findSome?_inherits
    (linked : IsLinked definitions base registry)
    {id : Nat}
    {className : String}
    {definition : ClassDefinition}
    (entryFound : definitions.entries[id]? = some (className, definition))
    (name : String) :
    (definition.inherits.reverse.findSome? fun parent =>
        (registry.get? parent).bind fun ancestor =>
          (ancestor.effective.get? name).map Property.unflagged) =
      (base.hierarchy.parentsOf id).reverse.findSome? fun parent =>
        (composedOf base.composition parent).get? name := by
  let lastOf : List (Option Property) → Option Property := fun given =>
    given.reverse.findSome? fun value => value
  have ofMapped :
      ∀ {α : Type} (step : α → Option Property) (parents : List α),
        parents.reverse.findSome? step = lastOf (parents.map step) := by
    intro α step parents
    simp only [lastOf, ← List.map_reverse, List.findSome?_map]
    rfl
  calc
    _ = lastOf _ := ofMapped _ definition.inherits
    _ = lastOf _ := congrArg lastOf (linked.map_inherits entryFound name)
    _ = _ := (ofMapped _ (base.hierarchy.parentsOf id)).symm

/-- In a linked registry every class has the properties of the recursion. -/
theorem isRecursive
    (linked : IsLinked definitions base registry)
    {id : Nat}
    {attached : ClassModel}
    (found : registry.byId? id = some attached) :
    ∃ definition,
      definitions.get? attached.name = some definition ∧
        IsRecursive registry definition attached := by
  have founded := linked.founded
  obtain ⟨model, modelFound, flagged⟩ := linked.origin found
  obtain ⟨definition, entryFound, isFounded⟩ := founded.exists_definition modelFound
  have sameName : attached.name = model.name := flagged.name_eq
  have declared := Hierarchy.Declares.declared entryFound
  have ownIsDeclared := founded.own_eq_declaredProperty? declared isFounded
  refine ⟨definition, sameName ▸ declared, ?_⟩
  refine { parents := fun _ => linked.exists_ancestor declared, own := ?_, effective := ?_ }
  · intro name
    rw [flagged.own.unflagged_eq, linked.declaredProperty?_eq, sameName, ← ownIsDeclared]
    cases own : model.own.get? name with
    | none =>
        rfl
    | some property =>
        rw [Option.map_some, founded.unflagged_own modelFound own]
  · intro name
    have lookup := linked.unflagged_effective id name
    rw [found, Option.bind_some] at lookup
    rw [lookup, founded.get?_composed modelFound, linked.declaredProperty?_eq, sameName,
      ownIsDeclared, linked.findSome?_inherits entryFound, isFounded.isEdge]

end IsLinked

end Registry

end RecordSchema
