import RecordSchema.Proofs.Definition.Union
import RecordSchema.Proofs.Registry.Composition
import RecordSchema.Proofs.Registry.Foundation

namespace RecordSchema

/-!
# Effective properties of declared classes

Once definitions are founded, a class has exactly the properties that the definitions
give it.  Each of them is the own property or the end of an edge of one class, its
origin, which is the class itself or an ancestor and has the very same property.
-/

open Declarations (Inherits HasProperty)
open Relation (ReflTransGen)

@[simp] theorem Property.declaredOn_linkIn
    (hierarchy : Hierarchy)
    (property : Property) :
    (property.linkIn hierarchy).declaredOn = property.declaredOn := by
  rw [frame_linkIn]

@[simp] theorem Property.name_linkIn
    (hierarchy : Hierarchy)
    (property : Property) :
    (property.linkIn hierarchy).name = property.name := by
  rw [frame_linkIn]

namespace Registry

/-- The effective properties of all classes of a foundation. -/
def Foundation.composition (base : Foundation) : Composition :=
  (compose base.hierarchy base.models base.order).1

/--
A class that a property of another comes from: it is that class or an ancestor, it has
the same property, and it declares it or has it as the end of an edge.
-/
structure IsOrigin
    (base : Foundation)
    (id : Nat)
    (name : String)
    (property : Property)
    (origin : Nat) : Prop where
  reached : ReflTransGen base.hierarchy.Parent id origin
  effective : (composedOf base.composition origin).get? name = some property
  source :
    ∃ model,
      base.models[origin]? = some model ∧
        property.declaredOn = model.name ∧
          (model.own.get? name = some property ∨ property = .endpoint model.name name)

namespace Founded

variable
  {definitions : DefinitionSet}
  {base : Foundation}

theorem mem_order_iff
    (founded : Founded definitions base)
    {id : Nat} :
    id ∈ base.order ↔ id < base.models.length := by
  rw [founded.parentsFirst.perm.mem_iff, Hierarchy.mem_ids_iff, founded.declares.size_eq,
    founded.length_models]

/-- A class with a number has a definition that it is founded on. -/
theorem exists_definition
    (founded : Founded definitions base)
    {id : Nat}
    {model : ClassModel}
    (found : base.models[id]? = some model) :
    ∃ definition,
      definitions.entries[id]? = some (model.name, definition) ∧
        IsFounded base.hierarchy id model.name definition model := by
  have inRange : id < definitions.entries.length := by
    rw [← founded.length_models]
    exact (List.getElem?_eq_some_iff.mp found).1
  obtain ⟨⟨name, definition⟩, entryFound⟩ :
      ∃ entry, definitions.entries[id]? = some entry :=
    ⟨_, List.getElem?_eq_getElem inRange⟩
  obtain ⟨other, otherFound, isFounded⟩ := founded.models id name definition entryFound
  cases found.symm.trans otherFound
  obtain rfl := isFounded.name
  exact ⟨definition, entryFound, isFounded⟩

theorem idOf?_name
    (founded : Founded definitions base)
    {id : Nat}
    {model : ClassModel}
    (found : base.models[id]? = some model) :
    base.hierarchy.idOf? model.name = some id := by
  obtain ⟨definition, entryFound, _⟩ := founded.exists_definition found
  exact founded.declares.idOf?_iff.mpr ⟨definition, entryFound⟩

theorem isComposed
    (founded : Founded definitions base) :
    IsComposed base.hierarchy base.models base.order base.composition :=
  isComposed_compose founded.parentsFirst

/-- The effective property of a name is the own one, else the last inherited, else an end. -/
theorem get?_composed
    (founded : Founded definitions base)
    {id : Nat}
    {model : ClassModel}
    (found : base.models[id]? = some model)
    (name : String) :
    (composedOf base.composition id).get? name =
      ((model.own.get? name).or
        ((base.hierarchy.parentsOf id).reverse.findSome? fun parent =>
          (composedOf base.composition parent).get? name)).or
          (if model.isEdge = true ∧ name ∈ endpointNames then
            some (.endpoint model.name name)
          else
            none) := by
  have member : id ∈ base.order :=
    founded.mem_order_iff.mpr (List.getElem?_eq_some_iff.mp found).1
  rw [founded.isComposed.effective id member model found, get?_effectiveFrom, ← List.map_reverse,
    List.findSome?_map]
  rfl

/-- A class has what it declares, what a parent has, and the ends of an edge. -/
theorem contains_composed_iff
    (founded : Founded definitions base)
    {id : Nat}
    {model : ClassModel}
    (found : base.models[id]? = some model)
    {name : String} :
    (composedOf base.composition id).contains name = true ↔
      model.own.contains name = true ∨
        (∃ parent ∈ base.hierarchy.parentsOf id,
          (composedOf base.composition parent).contains name = true) ∨
          model.isEdge = true ∧ name ∈ endpointNames := by
  rw [SortedMap.contains, founded.get?_composed found, Option.isSome_or, Option.isSome_or,
    Bool.or_eq_true, Bool.or_eq_true, or_assoc]
  refine or_congr Iff.rfl (or_congr ?_ ?_)
  · simp [List.findSome?_isSome_iff, SortedMap.contains]
  · split <;> simp_all

theorem declaredOn_own
    (founded : Founded definitions base)
    {id : Nat}
    {model : ClassModel}
    (found : base.models[id]? = some model)
    {name : String}
    {property : Property}
    (own : model.own.get? name = some property) :
    property.declaredOn = model.name := by
  obtain ⟨_, _, isFounded⟩ := founded.exists_definition found
  obtain ⟨_, _, _, draft, read, rfl⟩ := (isFounded.own _ _).mp own
  obtain ⟨_, _, rfl⟩ := Property.ofDefinition_eq_ok_iff.mp read
  exact Property.declaredOn_linkIn _ _

/--
What holds of own properties and of the ends of edges, and passes from a parent to a class
that does not declare the name itself, holds of every effective property.
-/
theorem composed_induction
    (founded : Founded definitions base)
    {name : String}
    {motive : Nat → Property → Prop}
    (own :
      ∀ id model property,
        base.models[id]? = some model →
        (composedOf base.composition id).get? name = some property →
        model.own.get? name = some property →
        motive id property)
    (inherited :
      ∀ id model parent property,
        base.models[id]? = some model →
        model.own.get? name = none →
        base.hierarchy.Parent id parent →
        (composedOf base.composition parent).get? name = some property →
        motive parent property →
        motive id property)
    (edgeEnd :
      ∀ id model,
        base.models[id]? = some model →
        (composedOf base.composition id).get? name = some (.endpoint model.name name) →
        model.own.get? name = none →
        model.isEdge = true →
        motive id (.endpoint model.name name))
    {id : Nat}
    {property : Property}
    (has : (composedOf base.composition id).get? name = some property) :
    motive id property := by
  by_cases member : id ∈ base.order
  · refine founded.parentsFirst.induction
      (motive := fun id =>
        (composedOf base.composition id).get? name = some property → motive id property)
      ?_ id member has
    intro id member ofParents has
    obtain ⟨model, found⟩ : ∃ model, base.models[id]? = some model :=
      ⟨_, List.getElem?_eq_getElem (founded.mem_order_iff.mp member)⟩
    have cases := founded.get?_composed found name
    rw [has, eq_comm, Option.or_eq_some_iff, Option.or_eq_some_iff, Option.or_eq_none_iff] at cases
    rcases cases with (isOwn | ⟨notOwn, isInherited⟩) | ⟨⟨notOwn, _⟩, isEnd⟩
    · exact own id model property found has isOwn
    · obtain ⟨parent, isParent, parentHas⟩ := List.exists_of_findSome?_eq_some isInherited
      have isParent : base.hierarchy.Parent id parent := List.mem_reverse.mp isParent
      exact inherited id model parent property found notOwn isParent parentHas
        (ofParents parent isParent parentHas)
    · split at isEnd
      · rename_i isEdge
        cases isEnd
        exact edgeEnd id model found has notOwn isEdge.1
      · cases isEnd
  · rw [founded.isComposed.unvisited id member] at has
    cases has

/-- Every effective property has an origin. -/
theorem exists_origin
    (founded : Founded definitions base)
    {id : Nat}
    {name : String}
    {property : Property}
    (has : (composedOf base.composition id).get? name = some property) :
    ∃ origin, IsOrigin base id name property origin := by
  refine founded.composed_induction
    (motive := fun id property => ∃ origin, IsOrigin base id name property origin) ?_ ?_ ?_ has
  · intro id model property found has own
    exact ⟨id, .refl, has, model, found, founded.declaredOn_own found own, .inl own⟩
  · intro id model parent property _ _ isParent _ ⟨origin, isOrigin⟩
    exact ⟨origin, .head isParent isOrigin.reached, isOrigin.effective, isOrigin.source⟩
  · intro id model found has _ _
    exact ⟨id, .refl, has, model, found, rfl, .inr rfl⟩

theorem contains_own
    (founded : Founded definitions base)
    {id : Nat}
    {model : ClassModel}
    (found : base.models[id]? = some model)
    {definition : ClassDefinition}
    (declared : definitions.get? model.name = some definition)
    {property : PropertyDefinition}
    (member : property ∈ definition.properties) :
    model.own.contains property.name = true := by
  obtain ⟨other, entryFound, isFounded⟩ := founded.exists_definition found
  cases declared.symm.trans (Hierarchy.Declares.declared entryFound)
  obtain ⟨_, draft, drafted⟩ := founded.drafted _ _ declared
  obtain ⟨own, _, ownRead, _⟩ := ClassModel.ofDefinition_ok drafted
  obtain ⟨read, isRead⟩ := ((ClassModel.declareProperties_ok ownRead).2.1 property member).2
  exact SortedMap.contains_iff.mpr
    ⟨_, (isFounded.own _ _).mpr ⟨property, member, rfl, read, isRead, rfl⟩⟩

/-- What a class has, the definitions give it. -/
theorem hasProperty_of_contains
    (founded : Founded definitions base)
    {id : Nat}
    {model : ClassModel}
    (found : base.models[id]? = some model)
    {name : String}
    (has : (composedOf base.composition id).contains name = true) :
    HasProperty definitions.declarations model.name name := by
  refine founded.parentsFirst.induction
    (motive := fun id =>
      ∀ model, base.models[id]? = some model →
        (composedOf base.composition id).contains name = true →
          HasProperty definitions.declarations model.name name) ?_ id
    (founded.mem_order_iff.mpr (List.getElem?_eq_some_iff.mp found).1) model found has
  intro id _ parentsGiven model found has
  obtain ⟨definition, entryFound, isFounded⟩ := founded.exists_definition found
  have declared : definitions.declarations model.name definition :=
    Hierarchy.Declares.declared entryFound
  rcases (founded.contains_composed_iff found).mp has with
    own | ⟨parent, isParent, parentHas⟩ | ⟨isEdge, isEnd⟩
  · obtain ⟨property, own⟩ := SortedMap.contains_iff.mp own
    obtain ⟨declaredProperty, member, rfl, _⟩ := (isFounded.own _ _).mp own
    exact .declared declared member
  · obtain ⟨_, parentName, _, parentFound⟩ := founded.declares.parent_inRange isParent
    obtain ⟨parentDefinition, parentEntry⟩ := founded.declares.idOf?_iff.mp parentFound
    obtain ⟨parentModel, parentModelFound, parentIsFounded⟩ :=
      founded.models parent parentName parentDefinition parentEntry
    obtain rfl := parentIsFounded.name
    exact .inherited
      ((founded.declares.parent_iff (founded.idOf?_name found) parentFound).mp isParent)
      (parentsGiven parent isParent parentModel parentModelFound parentHas)
  · exact .edgeEnd declared (isFounded.isEdge ▸ isEdge) isEnd

/-- What the definitions give a class, it has. -/
theorem contains_of_hasProperty
    (founded : Founded definitions base)
    (completed : definitions.IsCompleted)
    {className name : String}
    (has : HasProperty definitions.declarations className name) :
    ∃ id model,
      base.models[id]? = some model ∧ model.name = className ∧
        (composedOf base.composition id).contains name = true := by
  have classOf :
      ∀ {className : String} {definition : ClassDefinition},
        definitions.get? className = some definition →
        ∃ id model,
          base.models[id]? = some model ∧ model.name = className ∧
            IsFounded base.hierarchy id className definition model := by
    intro className definition declared
    obtain ⟨id, _, entryFound⟩ := founded.declares.exists_id declared
    obtain ⟨model, found, isFounded⟩ := founded.models id className definition entryFound
    exact ⟨id, model, found, isFounded.name, isFounded⟩
  have ownContains :
      ∀ {className : String} {definition : ClassDefinition} {property : PropertyDefinition},
        definitions.get? className = some definition →
        property ∈ definition.properties →
        ∃ id model,
          base.models[id]? = some model ∧ model.name = className ∧
            (composedOf base.composition id).contains property.name = true := by
    intro className definition property declared member
    obtain ⟨id, model, found, rfl, _⟩ := classOf declared
    exact ⟨id, model, found, rfl,
      (founded.contains_composed_iff found).mpr (.inl (founded.contains_own found declared member))⟩
  induction has with
  | declared declared member =>
      exact ownContains declared member
  | carried declared standing other =>
      obtain ⟨carrier, carrierDeclared, property, member, rfl⟩ :=
        completed.carries _ _ declared standing other
      exact ownContains carrierDeclared member
  | edgeEnd declared isEdge isEnd =>
      obtain ⟨id, model, found, named, isFounded⟩ := classOf declared
      exact ⟨id, model, found, named,
        (founded.contains_composed_iff found).mpr
          (.inr (.inr ⟨isFounded.isEdge.trans isEdge, isEnd⟩))⟩
  | inherited inherits _ inductionHypothesis =>
      obtain ⟨parent, parentModel, parentFound, rfl, parentHas⟩ := inductionHypothesis
      obtain ⟨definition, declared, parentNamed⟩ := inherits
      obtain ⟨id, model, found, rfl, _⟩ := classOf declared
      have isParent : base.hierarchy.Parent id parent :=
        (founded.declares.parent_iff (founded.idOf?_name found)
          (founded.idOf?_name parentFound)).mpr ⟨definition, declared, parentNamed⟩
      exact ⟨id, model, found, rfl,
        (founded.contains_composed_iff found).mpr (.inr (.inl ⟨parent, isParent, parentHas⟩))⟩

/-- A class has exactly the properties that completed definitions give it. -/
theorem contains_iff_hasProperty
    (founded : Founded definitions base)
    (completed : definitions.IsCompleted)
    {id : Nat}
    {model : ClassModel}
    (found : base.models[id]? = some model)
    {name : String} :
    (composedOf base.composition id).contains name = true ↔
      HasProperty definitions.declarations model.name name := by
  refine ⟨founded.hasProperty_of_contains found, fun given => ?_⟩
  obtain ⟨other, otherModel, otherFound, sameName, has⟩ :=
    founded.contains_of_hasProperty completed given
  have sameId : some id = some other := by
    rw [← founded.idOf?_name found, ← founded.idOf?_name otherFound, sameName]
  cases sameId
  exact has

end Founded

end Registry

end RecordSchema
