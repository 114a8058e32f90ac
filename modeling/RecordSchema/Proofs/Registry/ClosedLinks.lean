import RecordSchema.Proofs.Registry.Recursion

namespace RecordSchema

/-!
# Closed links

In a compiled registry no link is pending.  A property, whether declared or inherited, refers
to the class that its definition names, by the number under which that class is found; where
the definition names none, and at the ends of edges that nobody declares, there is no link.
-/

open Declarations (Inherits)
open Relation (ReflTransGen)

/-- The definition of a property of a class. -/
def DefinitionSet.definingProperty?
    (definitions : DefinitionSet)
    (className name : String) : Option PropertyDefinition :=
  (definitions.get? className).bind fun definition =>
    definition.properties.find? fun declared => declared.name == name

/-- The class that the definition of a property refers to. -/
def DefinitionSet.namedLink?
    (definitions : DefinitionSet)
    (className name : String) : Option String :=
  (definitions.definingProperty? className name).bind fun declared => declared.kind.linkedClass?

namespace Property

/-- A property that refers to the class that is written, by its number in a hierarchy. -/
structure IsResolved
    (hierarchy : Hierarchy)
    (written : Option String)
    (property : Property) : Prop where
  absent : written = none → property.linkedClass = none
  resolved :
    ∀ className,
      written = some className →
      ∃ id,
        hierarchy.idOf? className = some id ∧
          property.linkedClass = some (.resolved id className)

/-- A pending link to a known class is resolved when it is looked up. -/
theorem isResolved_linkIn
    {hierarchy : Hierarchy}
    {written : Option String}
    {draft : Property}
    (pending : draft.linkedClass = written.map .pending)
    (known :
      ∀ className, written = some className → ∃ id, hierarchy.idOf? className = some id) :
    (draft.linkIn hierarchy).IsResolved hierarchy written := by
  cases written with
  | none =>
      have unlinked : draft.linkedClass = none := pending
      exact ⟨fun _ => by simp [linkIn, unlinked], by simp⟩
  | some className =>
      obtain ⟨id, found⟩ := known className rfl
      have links : draft.linkedClass = some (.pending className) := pending
      refine ⟨by simp, ?_⟩
      intro other isWritten
      cases isWritten
      exact ⟨id, found, by simp [linkIn, resolveLink, links, found]⟩

/-- The flags of indices do not touch links. -/
theorem IsResolved.of_unflagged_eq
    {hierarchy : Hierarchy}
    {written : Option String}
    {property other : Property}
    (isResolved : property.IsResolved hierarchy written)
    (sameRest : other.unflagged = property.unflagged) :
    other.IsResolved hierarchy written := by
  have sameLink : other.linkedClass = property.linkedClass := by
    change other.unflagged.linkedClass = property.unflagged.linkedClass
    rw [sameRest]
  obtain ⟨absent, resolved⟩ := isResolved
  exact ⟨sameLink ▸ absent, sameLink ▸ resolved⟩

end Property

namespace Registry

namespace Founded

variable
  {definitions : DefinitionSet}
  {base : Foundation}
  {id : Nat}
  {model : ClassModel}
  {name : String}
  {property : Property}

/-- An own property is resolved as its definition says. -/
theorem isResolved_own
    (founded : Founded definitions base)
    (found : base.models[id]? = some model)
    (own : model.own.get? name = some property) :
    (∃ declared, definitions.definingProperty? model.name name = some declared) ∧
      property.IsResolved base.hierarchy (definitions.namedLink? model.name name) := by
  obtain ⟨definition, entryFound, isFounded⟩ := founded.exists_definition found
  have declaredClass := Hierarchy.Declares.declared entryFound
  rw [founded.own_eq_declaredProperty? declaredClass isFounded, declaredProperty?,
    Option.bind_eq_some_iff] at own
  obtain ⟨declared, isDefining, read⟩ := own
  have defining : definitions.definingProperty? model.name name = some declared := by
    rw [DefinitionSet.definingProperty?, declaredClass, Option.bind_some, isDefining]
  refine ⟨⟨declared, defining⟩, ?_⟩
  split at read
  · rename_i draft drafted
    cases read
    obtain ⟨_, _, rfl⟩ := Property.ofDefinition_eq_ok_iff.mp drafted
    rw [DefinitionSet.namedLink?, defining, Option.bind_some]
    exact Property.isResolved_linkIn rfl
      (founded.linked _ _ declaredClass declared (List.mem_of_find?_eq_some isDefining))
  · cases read

/-- A class that has no own property of a name has no definition of one. -/
theorem definingProperty?_eq_none
    (founded : Founded definitions base)
    (found : base.models[id]? = some model)
    (notOwn : model.own.get? name = none) :
    definitions.definingProperty? model.name name = none := by
  obtain ⟨definition, entryFound, _⟩ := founded.exists_definition found
  have declaredClass := Hierarchy.Declares.declared entryFound
  rw [DefinitionSet.definingProperty?, declaredClass, Option.bind_some, List.find?_eq_none]
  intro declared member named
  have owned := founded.contains_own found declaredClass member
  rw [beq_iff_eq.mp named, SortedMap.contains, notOwn] at owned
  cases owned

/-- A composed property is declared on its class or on a class that it inherits from. -/
theorem reaches_declaredOn
    (founded : Founded definitions base)
    (found : base.models[id]? = some model)
    (has : (composedOf base.composition id).get? name = some property) :
    ReflTransGen (Inherits definitions.declarations) model.name property.declaredOn := by
  obtain ⟨originId, isOrigin⟩ := founded.exists_origin has
  obtain ⟨origin, originFound, declaredOn, _⟩ := isOrigin.source
  have distinct := founded.declares.names_nodup
  have reached :
      ReflTransGen (Inherits definitions.declarations)
        (base.hierarchy.nameOf id) (base.hierarchy.nameOf originId) :=
    isOrigin.reached.lift base.hierarchy.nameOf fun _ _ => founded.declares.inherits_of_parent
  rwa [Hierarchy.nameOf_of_idOf? distinct (founded.idOf?_name found),
    Hierarchy.nameOf_of_idOf? distinct (founded.idOf?_name originFound), ← declaredOn] at reached

/-- A composed property is resolved as the definition on its origin says. -/
theorem isResolved_composed
    (founded : Founded definitions base)
    (has : (composedOf base.composition id).get? name = some property) :
    property.IsResolved base.hierarchy (definitions.namedLink? property.declaredOn name) ∧
      (definitions.definingProperty? property.declaredOn name = none →
        property = .endpoint property.declaredOn name) := by
  obtain ⟨origin, isOrigin⟩ := founded.exists_origin has
  obtain ⟨model, found, declaredOn, source⟩ := isOrigin.source
  rw [declaredOn]
  cases own : model.own.get? name with
  | some declared =>
      have sameProperty := founded.get?_composed found name
      rw [isOrigin.effective, own] at sameProperty
      cases sameProperty
      obtain ⟨⟨_, isDefining⟩, isResolved⟩ := founded.isResolved_own found own
      refine ⟨isResolved, fun undefined => ?_⟩
      cases isDefining.symm.trans undefined
  | none =>
      have undefined := founded.definingProperty?_eq_none found own
      have isEnd : property = .endpoint model.name name :=
        source.resolve_left (by simp [own])
      refine ⟨?_, fun _ => isEnd⟩
      rw [DefinitionSet.namedLink?, undefined, isEnd]
      exact ⟨fun _ => rfl, by simp⟩

end Founded

/-- A property that refers to the class that is written, which is found by its number. -/
structure HasLink
    (registry : Registry)
    (written : Option String)
    (property : Property) : Prop where
  absent : written = none → property.linkedClass = none
  resolved :
    ∀ className,
      written = some className →
      ∃ id target,
        property.linkedClass = some (.resolved id className) ∧ id < registry.size ∧
          registry.byId? id = some target ∧ target.name = className ∧
            registry.linkedClass? property = some target

/-- The number of a link is one of a class. -/
theorem HasLink.lt_size
    {registry : Registry}
    {written : Option String}
    {property : Property}
    (hasLink : registry.HasLink written property)
    {id : Nat}
    (isLink : property.linkedClass.bind LinkedClass.id? = some id) :
    id < registry.size := by
  cases written with
  | none =>
      rw [hasLink.absent rfl] at isLink
      cases isLink
  | some className =>
      obtain ⟨target, _, linksTarget, inRange, _⟩ := hasLink.resolved className rfl
      rw [linksTarget] at isLink
      cases isLink
      exact inRange

/--
A property of a class that is declared on it or on a class above it, that has the link of its
definition there, and that is the end of an edge where it has no definition.
-/
structure IsClosed
    (definitions : DefinitionSet)
    (registry : Registry)
    (className name : String)
    (property : Property) : Prop where
  reached : ReflTransGen (Inherits definitions.declarations) className property.declaredOn
  link : registry.HasLink (definitions.namedLink? property.declaredOn name) property
  undefined :
    definitions.definingProperty? property.declaredOn name = none →
    property.unflagged = .endpoint property.declaredOn name

namespace IsLinked

variable
  {definitions : DefinitionSet}
  {base : Foundation}
  {registry : Registry}
  {id : Nat}
  {attached : ClassModel}
  {name : String}
  {property : Property}

/-- A number in the hierarchy is one of a class of the registry. -/
theorem hasLink
    (linked : IsLinked definitions base registry)
    {written : Option String}
    (isResolved : property.IsResolved base.hierarchy written) :
    registry.HasLink written property where
  absent := isResolved.absent
  resolved className isWritten := by
    obtain ⟨targetId, found, isLink⟩ := isResolved.resolved className isWritten
    obtain ⟨definition, entryFound⟩ := linked.founded.declares.idOf?_iff.mp found
    obtain ⟨model, modelFound, _⟩ := linked.founded.models _ _ _ entryFound
    obtain ⟨target, targetFound⟩ := linked.exists_attached modelFound
    have named : registry.get? className = some target := by
      rw [linked.get?_eq, found, Option.bind_some, targetFound]
    obtain ⟨_, _, _, sameName⟩ := linked.exists_id_of_get? named
    refine ⟨targetId, target, isLink, (List.getElem?_eq_some_iff.mp targetFound).1, targetFound,
      sameName, ?_⟩
    rw [linkedClass?, isLink]
    exact targetFound

/-- An own property is declared on its class and closed. -/
theorem isClosed_own
    (linked : IsLinked definitions base registry)
    (found : registry.byId? id = some attached)
    (own : attached.own.get? name = some property) :
    property.declaredOn = attached.name ∧
      IsClosed definitions registry attached.name name property := by
  obtain ⟨model, modelFound, flagged⟩ := linked.origin found
  obtain ⟨draft, draftOwn, isFlagged⟩ := flagged.own.origin own
  have sameName : attached.name = model.name := flagged.name_eq
  have declaredOn : property.declaredOn = attached.name := by
    rw [Property.declaredOn_eq_of_unflagged isFlagged.unflagged, sameName]
    exact linked.founded.declaredOn_own modelFound draftOwn
  obtain ⟨⟨_, isDefining⟩, isResolved⟩ := linked.founded.isResolved_own modelFound draftOwn
  rw [← sameName, ← declaredOn] at isDefining isResolved
  refine ⟨declaredOn, ?_⟩
  exact
    { reached := declaredOn ▸ .refl
      link := linked.hasLink (isResolved.of_unflagged_eq isFlagged.unflagged)
      undefined := fun undefined => by cases isDefining.symm.trans undefined }

/-- An effective property is closed. -/
theorem isClosed_effective
    (linked : IsLinked definitions base registry)
    (found : registry.byId? id = some attached)
    (has : attached.effective.get? name = some property) :
    IsClosed definitions registry attached.name name property := by
  obtain ⟨model, modelFound, flagged⟩ := linked.origin found
  obtain ⟨composed, composedHas, isFlagged⟩ := flagged.effective.origin has
  obtain ⟨isResolved, isEnd⟩ := linked.founded.isResolved_composed composedHas
  have reached := linked.founded.reaches_declaredOn modelFound composedHas
  have sameName : attached.name = model.name := flagged.name_eq
  have declaredOn := Property.declaredOn_eq_of_unflagged isFlagged.unflagged
  rw [← sameName, ← declaredOn] at reached
  rw [← declaredOn] at isResolved isEnd
  exact
    { reached
      link := linked.hasLink (isResolved.of_unflagged_eq isFlagged.unflagged)
      undefined := fun undefined => by
        rw [isFlagged.unflagged, linked.founded.unflagged_composed composedHas]
        exact isEnd undefined }

end IsLinked

/--
Every own and every effective property of a compiled registry is closed: it refers to the
class that its definition names, or to none.
-/
theorem links_closed
    {sets : List DefinitionSet}
    {registry : Registry}
    (accepted : (compile sets).result = .ok registry) :
    ∃ united,
      DefinitionSet.unite .empty sets = .ok united ∧
        ∀ model ∈ registry.classes, ∀ name property,
          (model.own.get? name = some property →
            property.declaredOn = model.name ∧
              IsClosed united.withCarrier registry model.name name property) ∧
            (model.effective.get? name = some property →
              IsClosed united.withCarrier registry model.name name property) := by
  obtain ⟨united, base, unitedAccepted, linked⟩ := compile_ok accepted
  refine ⟨united, unitedAccepted, fun model member name property => ?_⟩
  obtain ⟨id, found⟩ := List.mem_iff_getElem?.mp member
  exact ⟨linked.isClosed_own found, linked.isClosed_effective found⟩

/-- A class with a link, and one that inherits it and comes before it. -/
def residents : List DefinitionSet :=
  [.ofList
    [("Guest", { inherits := ["Owner"] }),
      ("Owner",
        { properties := [.ofType .link "home" (some "Place"), .ofType .link "other" none] }),
      ("Place", {})]]

private theorem residents_observed :
    ((compile residents).result.toOption.bind fun registry =>
      (registry.get? "Guest").bind fun guest =>
        (guest.effective.get? "home").bind fun home =>
          (guest.effective.get? "other").map fun other =>
            (guest.name, home.declaredOn, home.linkedClass.map LinkedClass.name,
              other.declaredOn, other.linkedClass)) =
      some ("Guest", "Owner", some "Place", "Owner", none) := by
  decide +kernel

/-- The link that is inherited is that of its definition, and the other one names no class. -/
theorem links_closed_residents :
    ∃ registry united guest home other,
      (compile residents).result = .ok registry ∧
        DefinitionSet.unite .empty residents = .ok united ∧
          registry.get? "Guest" = some guest ∧
            guest.effective.get? "home" = some home ∧
              guest.effective.get? "other" = some other ∧
                IsClosed united.withCarrier registry "Guest" "home" home ∧
                  IsClosed united.withCarrier registry "Guest" "other" other := by
  have observed := residents_observed
  simp only [Option.bind_eq_some_iff, Option.map_eq_some_iff, Prod.mk.injEq] at observed
  obtain ⟨registry, accepted, guest, found, home, homeHas, other, otherHas, guestName, _⟩ := observed
  have accepted := ok_of_toOption accepted
  obtain ⟨united, unitedAccepted, closed⟩ := links_closed accepted
  have ofGuest := closed guest (mem_classes_of_get? found)
  rw [guestName] at ofGuest
  exact ⟨registry, united, guest, home, other, accepted, unitedAccepted, found, homeHas, otherHas,
    (ofGuest "home" home).2 homeHas, (ofGuest "other" other).2 otherHas⟩

end Registry

end RecordSchema
