import RecordSchema.Proofs.Registry.Linked

namespace RecordSchema

/-!
# The ends of edges

Every edge has a property for each of its ends.  It is the own property of one class, the
edge or one above it, or it is the link that an edge has for an end that nobody gives it.
Where no edge declares the end itself, it is therefore such a link unless a class that is
no edge declares a property of its name.
-/

open Relation (ReflTransGen TransGen)

namespace Registry

/-- A property that is the link for the end of an edge: there must be one, and it is never null. -/
structure IsEndLink (property : Property) : Prop where
  type : property.type = .link
  mandatory : property.mandatory = true
  nullable : property.nullable = false

theorem isEndLink_of_unflagged
    {property : Property}
    {className name : String}
    (isEnd : property.unflagged = .endpoint className name) :
    IsEndLink property where
  type := congrArg Property.type isEnd
  mandatory := congrArg Property.mandatory isEnd
  nullable := congrArg Property.nullable isEnd

/-- A class of a registry that another is, or that the other inherits from. -/
structure IsAtOrAbove (registry : Registry) (model above : ClassModel) : Prop where
  member : above ∈ registry.classes
  reached : above = model ∨ registry.isDescendantOf model.name above.name = true

/--
A class that gives another a property: it is that class or above it, and the property is its
own, or it is the end of an edge that does not declare it.
-/
structure Gives
    (registry : Registry)
    (model : ClassModel)
    (name : String)
    (property : Property)
    (giver : ClassModel) : Prop where
  above : IsAtOrAbove registry model giver
  declaredOn : property.declaredOn = giver.name
  source :
    (giver.own.get? name).map Property.unflagged = some property.unflagged ∨
      giver.own.get? name = none ∧ giver.isEdge = true ∧
        property.unflagged = .endpoint giver.name name

/-- A class that gives another a composed property, by the numbers of the two. -/
structure GivesComposed
    (base : Foundation)
    (id : Nat)
    (name : String)
    (property : Property)
    (giver : Nat)
    (model : ClassModel) : Prop where
  reached : ReflTransGen base.hierarchy.Parent id giver
  found : base.models[giver]? = some model
  declaredOn : property.declaredOn = model.name
  source :
    model.own.get? name = some property ∨
      model.own.get? name = none ∧ model.isEdge = true ∧ property = .endpoint model.name name

namespace Founded

variable
  {definitions : DefinitionSet}
  {base : Foundation}

/-- A composed property is an own one, or the end of an edge that does not declare it. -/
theorem exists_givesComposed
    (founded : Founded definitions base)
    {id : Nat}
    {name : String}
    {property : Property}
    (has : (composedOf base.composition id).get? name = some property) :
    ∃ giver model, GivesComposed base id name property giver model := by
  refine founded.composed_induction
    (motive := fun id property => ∃ giver model, GivesComposed base id name property giver model)
    ?_ ?_ ?_ has
  · intro id model property found _ own
    exact ⟨id, model, .refl, found, founded.declaredOn_own found own, .inl own⟩
  · intro id _ parent property _ _ isParent _ ⟨giver, model, gives⟩
    exact ⟨giver, model, .head isParent gives.reached, gives.found, gives.declaredOn, gives.source⟩
  · intro id model found _ notOwn isEdge
    exact ⟨id, model, .refl, found, rfl, .inr ⟨notOwn, isEdge, rfl⟩⟩

end Founded

namespace IsLinked

variable
  {definitions : DefinitionSet}
  {base : Foundation}
  {registry : Registry}

/-- What is reached from a class by parents is the class or above it. -/
theorem isAtOrAbove
    (linked : IsLinked definitions base registry)
    {id aboveId : Nat}
    {model above : ClassModel}
    (found : registry.byId? id = some model)
    (aboveFound : registry.byId? aboveId = some above)
    (reached : ReflTransGen base.hierarchy.Parent id aboveId) :
    IsAtOrAbove registry model above where
  member := List.mem_of_getElem? aboveFound
  reached := by
    rcases Relation.reflTransGen_iff_eq_or_transGen.mp reached with rfl | descends
    · rw [found] at aboveFound
      exact .inl (Option.some.inj aboveFound).symm
    · exact .inr ((linked.isDescendantOf_iff (linked.get?_name found).1
        (linked.get?_name aboveFound).1).mpr descends)

/-- Every effective property is given by a class. -/
theorem exists_gives
    (linked : IsLinked definitions base registry)
    {model : ClassModel}
    (member : model ∈ registry.classes)
    {name : String}
    {property : Property}
    (has : model.effective.get? name = some property) :
    ∃ giver, Gives registry model name property giver := by
  obtain ⟨id, found⟩ := List.mem_iff_getElem?.mp member
  obtain ⟨_, _, flagged⟩ := linked.origin found
  obtain ⟨composed, composedHas, isFlagged⟩ := flagged.effective.origin has
  obtain ⟨giverId, giverModel, gives⟩ := linked.founded.exists_givesComposed composedHas
  obtain ⟨giver, giverFound⟩ := linked.exists_attached gives.found
  obtain ⟨other, otherFound, giverFlagged⟩ := linked.origin giverFound
  cases gives.found.symm.trans otherFound
  have sameName : giver.name = giverModel.name := giverFlagged.name_eq
  have sameEdge := congrArg ClassModel.isEdge giverFlagged.frame
  refine ⟨giver, linked.isAtOrAbove found giverFound gives.reached, ?_, ?_⟩
  · rw [Property.declaredOn_eq_of_unflagged isFlagged.unflagged, gives.declaredOn, sameName]
  · rw [isFlagged.unflagged]
    rcases gives.source with own | ⟨notOwn, isEdge, rfl⟩
    · rw [giverFlagged.own.unflagged_eq, own]
      exact .inl rfl
    · exact .inr ⟨giverFlagged.own.absent name notOwn, sameEdge.trans isEdge, by rw [sameName]; rfl⟩

/-- An edge has a property for each end. -/
theorem exists_end
    (linked : IsLinked definitions base registry)
    {model : ClassModel}
    (member : model ∈ registry.classes)
    (isEdge : model.isEdge = true)
    {name : String}
    (isEnd : name ∈ endpointNames) :
    ∃ property, model.effective.get? name = some property := by
  obtain ⟨id, found⟩ := List.mem_iff_getElem?.mp member
  obtain ⟨composed, composedFound, flagged⟩ := linked.origin found
  have sameEdge := congrArg ClassModel.isEdge flagged.frame
  rw [← SortedMap.contains_iff, flagged.effective.contains_eq]
  exact (linked.founded.contains_composed_iff composedFound).mpr
    (.inr (.inr ⟨sameEdge.symm.trans isEdge, isEnd⟩))

end IsLinked

/--
Every edge has a property for each end.  Where neither the edge nor an edge above it
declares the end, an edge gives it the mandatory link that is never null, or else a class
above it that is no edge gives it the property that this class declares.  So where no class
above declares the end, it is such a link.
-/
theorem edge_end_proper
    {sets : List DefinitionSet}
    {registry : Registry}
    (compiled : (compile sets).result = .ok registry)
    {model : ClassModel}
    (member : model ∈ registry.classes)
    (isEdge : model.isEdge = true)
    {name : String}
    (isEnd : name ∈ endpointNames) :
    ∃ property giver,
      model.effective.get? name = some property ∧ Gives registry model name property giver ∧
        ((∀ above,
            IsAtOrAbove registry model above → above.isEdge = true → above.own.get? name = none) →
          giver.isEdge = true ∧ IsEndLink property ∨
            giver.isEdge = false ∧
              (giver.own.get? name).map Property.unflagged = some property.unflagged) ∧
          ((∀ above, IsAtOrAbove registry model above → above.own.get? name = none) →
            IsEndLink property) := by
  obtain ⟨united, base, _, linked⟩ := compile_ok compiled
  obtain ⟨property, has⟩ := linked.exists_end member isEdge isEnd
  obtain ⟨giver, gives⟩ := linked.exists_gives member has
  refine ⟨property, giver, has, gives, fun noEdge => ?_, fun nobody => ?_⟩
  · rcases gives.source with own | ⟨_, giverIsEdge, isLink⟩
    · -- No edge declares the end, so whoever declares it is no edge.
      cases giverIsEdge : giver.isEdge with
      | false =>
          exact .inr ⟨rfl, own⟩
      | true =>
          rw [noEdge giver gives.above giverIsEdge] at own
          cases own
    · exact .inl ⟨giverIsEdge, isEndLink_of_unflagged isLink⟩
  · rcases gives.source with own | ⟨_, _, isLink⟩
    · rw [nobody giver gives.above] at own
      cases own
    · exact isEndLink_of_unflagged isLink

/-- An edge that declares nothing, below a class with a text of the name of one of its ends. -/
def roads : List DefinitionSet :=
  [.ofList
    [("Labeled", { properties := [.ofType .string "out" none] }),
      ("Road", { isEdge := true, inherits := ["Labeled"] })]]

private theorem roads_observed :
    ((compile roads).result.toOption.bind fun registry =>
      (registry.get? "Road").bind fun road =>
        (road.effective.get? "out").map fun start =>
          (road.isEdge, start.type, start.declaredOn,
            registry.classes.all fun above => !above.isEdge || !above.own.contains "out",
            registry.classes.all fun above => !above.own.contains "in")) =
      some (true, .string, "Labeled", true, true) := by
  decide +kernel

/-- The road has a link for the one end, which no class declares. -/
theorem edge_end_proper_roads :
    ∃ registry road property,
      (compile roads).result = .ok registry ∧ registry.get? "Road" = some road ∧
        road.isEdge = true ∧ road.effective.get? "in" = some property ∧ IsEndLink property := by
  have observed := roads_observed
  simp only [Option.bind_eq_some_iff, Option.map_eq_some_iff, Prod.mk.injEq] at observed
  obtain ⟨registry, compiled, road, found, start, _, isEdge, _, _, _, noIn⟩ := observed
  have compiled := ok_of_toOption compiled
  have isEnd : "in" ∈ endpointNames := by
    decide
  obtain ⟨property, _, has, _, _, ofNobody⟩ :=
    edge_end_proper compiled (mem_classes_of_get? found) isEdge isEnd
  refine ⟨registry, road, property, compiled, found, isEdge, has, ?_⟩
  refine ofNobody fun above atOrAbove => ?_
  have absent := List.all_eq_true.mp noIn above atOrAbove.member
  exact SortedMap.contains_eq_false_iff.mp (by simpa using absent)

/-- Its other end is a text, although no edge declares that. -/
theorem not_forall_edge_end :
    ¬∀ (sets : List DefinitionSet) (registry : Registry) (model : ClassModel) (name : String),
      (compile sets).result = .ok registry →
      model ∈ registry.classes →
      model.isEdge = true →
      name ∈ endpointNames →
      (∀ above,
        IsAtOrAbove registry model above → above.isEdge = true → above.own.get? name = none) →
      ∃ property, model.effective.get? name = some property ∧ IsEndLink property := by
  intro proper
  have observed := roads_observed
  simp only [Option.bind_eq_some_iff, Option.map_eq_some_iff, Prod.mk.injEq] at observed
  obtain ⟨registry, compiled, road, found, start, has, isEdge, isText, _, noOut, _⟩ := observed
  obtain ⟨property, propertyHas, isLink⟩ :=
    proper roads registry road "out" (ok_of_toOption compiled) (mem_classes_of_get? found) isEdge
      (by decide) fun above atOrAbove aboveIsEdge => by
        have absent := List.all_eq_true.mp noOut above atOrAbove.member
        exact SortedMap.contains_eq_false_iff.mp (by simpa [aboveIsEdge] using absent)
  cases has.symm.trans propertyHas
  cases isText.symm.trans isLink.type

end Registry

end RecordSchema
