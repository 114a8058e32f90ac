import RecordSchema.Proofs.Registry.Linked

namespace RecordSchema

/-!
# Inherited properties and the flags of indices

An inherited property is the one of the class that declares it, except for flags.  An
index flags the copies at and below its target; so a copy has a flag that the
declaring class lacks exactly when an index of a class between the two sets it and no
index of the declaring class does.
-/

open Relation (ReflTransGen TransGen)

namespace Registry

/--
An index flags what a class has under a name when it is over that property alone, its
target is the class or one above it, and the target has the same declaration.
-/
structure FlagsCopy
    (registry : Registry)
    (className name declaredOn : String)
    (index : Index) : Prop where
  single : index.singleProperty? = some name
  reaches :
    index.className = className ∨ registry.isDescendantOf className index.className = true
  sameDeclaration :
    ∃ target property,
      registry.get? index.className = some target ∧
        target.effective.get? name = some property ∧ property.declaredOn = declaredOn

namespace IsLinked

variable
  {definitions : DefinitionSet}
  {base : Foundation}
  {registry : Registry}

/-- A class of a linked registry has a property from the class that declares it there. -/
theorem originOf?_eq_some_iff
    (linked : IsLinked definitions base registry)
    {className name declaredOn : String}
    {id : Nat}
    (idFound : base.hierarchy.idOf? className = some id) :
    originOf? base.composed id name = some declaredOn ↔
      ∃ target property,
        registry.get? className = some target ∧
          target.effective.get? name = some property ∧ property.declaredOn = declaredOn := by
  rw [← linked.attached.originOf?_eq, originOf?, linked.get?_eq, idFound, Option.bind_some,
    Option.map_eq_some_iff]
  constructor
  · rintro ⟨property, has, sameDeclaration⟩
    obtain ⟨target, targetFound, has⟩ := Option.bind_eq_some_iff.mp has
    exact ⟨target, property, targetFound, has, sameDeclaration⟩
  · rintro ⟨target, property, targetFound, has, sameDeclaration⟩
    exact ⟨property, Option.bind_eq_some_iff.mpr ⟨target, targetFound, has⟩, sameDeclaration⟩

/-- A property has the flag of each index that flags this copy of it, and no other. -/
theorem hasFlag_iff
    (linked : IsLinked definitions base registry)
    {id : Nat}
    {attached : ClassModel}
    (found : registry.byId? id = some attached)
    {name : String}
    {property : Property}
    (has : attached.effective.get? name = some property)
    (fulltext : Bool) :
    property.hasFlag fulltext = true ↔
      ∃ index ∈ registry.indices,
        index.kind.isFulltext = fulltext ∧
          FlagsCopy registry attached.name name property.declaredOn index := by
  obtain ⟨model, _, flagged⟩ := linked.origin found
  obtain ⟨composed, composedHas, isFlagged⟩ := flagged.effective.origin has
  obtain ⟨idFound, attachedFound⟩ := linked.get?_name found
  have bare := Property.hasFlag_eq_false (linked.founded.unflagged_composed composedHas) fulltext
  have originHere : originOf? base.composed id name = some property.declaredOn :=
    (linked.originOf?_eq_some_iff idFound).mpr ⟨attached, property, attachedFound, has, rfl⟩
  rw [isFlagged.hasFlag, bare]
  simp only [Bool.false_eq_true, false_or, linked.mem_indices_iff]
  refine exists_congr fun index => and_congr_right fun _ => ?_
  constructor
  · rintro ⟨single, sameKind, target, targetFound, rfl | ⟨descends, sameOrigin⟩⟩
    · exact ⟨sameKind, single, .inl ((linked.idOf?_iff found).mp targetFound),
        (linked.originOf?_eq_some_iff targetFound).mp originHere⟩
    · exact ⟨sameKind, single, .inr ((linked.isDescendantOf_iff idFound targetFound).mpr descends),
        (linked.originOf?_eq_some_iff targetFound).mp (sameOrigin ▸ originHere)⟩
  · rintro ⟨sameKind, flagsCopy⟩
    obtain ⟨target, _, targetAttached, _⟩ := flagsCopy.sameDeclaration
    obtain ⟨targetId, targetFound, _⟩ := linked.exists_id_of_get? targetAttached
    refine ⟨flagsCopy.single, sameKind, targetId, targetFound, ?_⟩
    rcases flagsCopy.reaches with sameName | descends
    · rw [sameName, idFound] at targetFound
      exact .inl (Option.some.inj targetFound)
    · refine .inr ⟨(linked.isDescendantOf_iff idFound targetFound).mp descends, ?_⟩
      rw [originHere, (linked.originOf?_eq_some_iff targetFound).mpr flagsCopy.sameDeclaration]

/-- The declaring class of a property has it, is the class or above it, and is named by it. -/
theorem exists_origin
    (linked : IsLinked definitions base registry)
    {id : Nat}
    {attached : ClassModel}
    (found : registry.byId? id = some attached)
    {name : String}
    {property : Property}
    (has : attached.effective.get? name = some property) :
    ∃ originId origin originProperty,
      registry.byId? originId = some origin ∧ origin.name = property.declaredOn ∧
        ReflTransGen base.hierarchy.Parent id originId ∧
          origin.effective.get? name = some originProperty ∧
            originProperty.unflagged = property.unflagged := by
  obtain ⟨model, _, flagged⟩ := linked.origin found
  obtain ⟨composed, composedHas, isFlagged⟩ := flagged.effective.origin has
  obtain ⟨originId, isOrigin⟩ := linked.founded.exists_origin composedHas
  obtain ⟨originModel, originModelFound, declaredOn, _⟩ := isOrigin.source
  obtain ⟨origin, originFound⟩ := linked.exists_attached originModelFound
  obtain ⟨other, otherFound, originFlagged⟩ := linked.origin originFound
  cases originModelFound.symm.trans otherFound
  obtain ⟨originProperty, originHas, originIsFlagged⟩ :=
    originFlagged.effective.present name composed isOrigin.effective
  refine ⟨originId, origin, originProperty, originFound, ?_, isOrigin.reached, originHas, ?_⟩
  · rw [Property.declaredOn_eq_of_unflagged isFlagged.unflagged, declaredOn]
    exact originFlagged.name_eq
  · rw [originIsFlagged.unflagged, isFlagged.unflagged]

/-- On the class that declares a property only its own indices flag it. -/
theorem flagsCopy_origin_iff
    (linked : IsLinked definitions base registry)
    {id : Nat}
    {origin : ClassModel}
    (found : registry.byId? id = some origin)
    {name : String}
    {property : Property}
    (has : origin.effective.get? name = some property)
    (declared : property.declaredOn = origin.name)
    {index : Index} :
    FlagsCopy registry origin.name name origin.name index ↔
      index.singleProperty? = some name ∧ index.className = origin.name := by
  obtain ⟨idFound, originFound⟩ := linked.get?_name found
  constructor
  · rintro ⟨single, sameName | descends, target, targetProperty, targetAttached, targetHas,
      sameDeclaration⟩
    · exact ⟨single, sameName⟩
    · obtain ⟨targetId, targetFound, targetAt, _⟩ := linked.exists_id_of_get? targetAttached
      have originBelow := (linked.isDescendantOf_iff idFound targetFound).mp descends
      obtain ⟨otherId, other, _, otherAt, otherName, targetBelow, _⟩ :=
        linked.exists_origin targetAt targetHas
      have sameId : some otherId = some id := by
        rw [← (linked.get?_name otherAt).1, ← idFound, otherName, sameDeclaration]
      cases sameId
      -- The class would stand above a class that stands above it.
      have cycle : base.hierarchy.Descends id id :=
        TransGen.trans_left originBelow targetBelow
      have member : id ∈ base.hierarchy.ids :=
        Hierarchy.mem_ids_iff.mpr
          (Hierarchy.lt_size_of_idOf? linked.founded.declares.names_nodup idFound)
      exact absurd cycle (linked.founded.parentsFirst.not_descends_self member)
  · rintro ⟨single, sameName⟩
    exact ⟨single, .inl sameName, origin, property, sameName ▸ originFound, has, declared⟩

end IsLinked

/--
What a class has from another is there in the same form, flags aside.  The flags are the
same exactly when every index that flags the copy has one of its kind on the declaring
class itself.
-/
theorem inherited_eq_declared_iff
    {sets : List DefinitionSet}
    {registry : Registry}
    (accepted : (compile sets).result = .ok registry)
    {model : ClassModel}
    (member : model ∈ registry.classes)
    {name : String}
    {property : Property}
    (has : model.effective.get? name = some property) :
    ∃ origin originProperty,
      registry.get? property.declaredOn = some origin ∧
        origin.effective.get? name = some originProperty ∧
          property.unflagged = originProperty.unflagged ∧
            (property = originProperty ↔
              ∀ index ∈ registry.indices,
                FlagsCopy registry model.name name property.declaredOn index →
                ∃ other ∈ registry.indices,
                  other.kind.isFulltext = index.kind.isFulltext ∧
                    other.singleProperty? = some name ∧
                      other.className = property.declaredOn) := by
  obtain ⟨united, base, _, linked⟩ := compile_ok accepted
  obtain ⟨id, found⟩ := List.mem_iff_getElem?.mp member
  obtain ⟨originId, origin, originProperty, originFound, originName, reached, originHas,
    sameRest⟩ := linked.exists_origin found has
  obtain ⟨originIdFound, originAttached⟩ := linked.get?_name originFound
  have originDeclared : originProperty.declaredOn = origin.name :=
    (Property.declaredOn_eq_of_unflagged sameRest).trans originName.symm
  have flagHere := linked.hasFlag_iff found has
  have flagThere : ∀ fulltext,
      originProperty.hasFlag fulltext = true ↔
        ∃ other ∈ registry.indices,
          other.kind.isFulltext = fulltext ∧ other.singleProperty? = some name ∧
            other.className = property.declaredOn := by
    intro fulltext
    rw [linked.hasFlag_iff originFound originHas, ← originName]
    simp only [originDeclared, linked.flagsCopy_origin_iff originFound originHas originDeclared]
  have inheritsFlags : ∀ fulltext,
      originProperty.hasFlag fulltext = true → property.hasFlag fulltext = true := by
    intro fulltext flagged
    obtain ⟨index, isIndex, sameKind, single, sameName⟩ := (flagThere fulltext).mp flagged
    refine (flagHere fulltext).mpr ⟨index, isIndex, sameKind, single, ?_, origin, originProperty,
      ?_, originHas, ?_⟩
    · obtain ⟨idFound, _⟩ := linked.get?_name found
      rw [sameName, ← originName]
      rcases Relation.reflTransGen_iff_eq_or_transGen.mp reached with rfl | descends
      · cases found.symm.trans originFound
        exact .inl rfl
      · exact .inr ((linked.isDescendantOf_iff idFound originIdFound).mpr descends)
    · rw [sameName, ← originName]
      exact originAttached
    · rw [originDeclared, originName]
  refine ⟨origin, originProperty, originName ▸ originAttached, originHas, sameRest.symm, ?_⟩
  rw [Property.eq_iff_unflagged_and_hasFlag]
  constructor
  · rintro ⟨_, sameFlags⟩ index isIndex flagsCopy
    have flagged := (flagHere _).mpr ⟨index, isIndex, rfl, flagsCopy⟩
    exact (flagThere _).mp (sameFlags _ ▸ flagged)
  · intro covered
    refine ⟨sameRest.symm, fun fulltext => Bool.eq_iff_iff.mpr ⟨fun flagged => ?_,
      inheritsFlags fulltext⟩⟩
    obtain ⟨index, isIndex, rfl, flagsCopy⟩ := (flagHere fulltext).mp flagged
    exact (flagThere _).mpr (covered index isIndex flagsCopy)

/-- A class, and one that inherits from it and indexes what it inherits. -/
def indexedBelow : List DefinitionSet :=
  [.ofList
    [("Base", { properties := [.ofType .string "name" none] }),
      ("Child",
        { inherits := ["Base"]
          indices := [{ name := "Child.name", kind := .unique, properties := ["name"] }] })]]

/-- The copy below is declared on the class above and has a flag that the class lacks. -/
private theorem indexedBelow_flags :
    ((compile indexedBelow).result.toOption.bind fun registry =>
      (registry.get? "Child").bind fun child =>
        (child.effective.get? "name").bind fun property =>
          (registry.get? "Base").bind fun origin =>
            (origin.effective.get? "name").map fun originProperty =>
              (child.name, property.declaredOn, property.indexed, originProperty.indexed)) =
      some ("Child", "Base", true, false) := by
  decide +kernel

/-- The two descriptions of the copy below agree without flags. -/
theorem inherited_eq_declared_iff_indexedBelow :
    ∃ registry child property,
      (compile indexedBelow).result = .ok registry ∧ child ∈ registry.classes ∧
        child.effective.get? "name" = some property ∧
          ∃ origin originProperty,
            registry.get? property.declaredOn = some origin ∧
              origin.effective.get? "name" = some originProperty ∧
                property.unflagged = originProperty.unflagged := by
  have observed := indexedBelow_flags
  simp only [Option.bind_eq_some_iff, Option.map_eq_some_iff, Prod.mk.injEq] at observed
  obtain ⟨registry, accepted, child, childFound, property, has, _⟩ := observed
  have accepted := ok_of_toOption accepted
  have member := mem_classes_of_get? childFound
  obtain ⟨origin, originProperty, originFound, originHas, sameRest, _⟩ :=
    inherited_eq_declared_iff accepted member has
  exact ⟨registry, child, property, accepted, member, has, origin, originProperty, originFound,
    originHas, sameRest⟩

/-- An index of a class below sets a flag there that the declaring class does not get. -/
theorem inherited_ne_declared_indexedBelow :
    ∃ registry child property origin originProperty,
      (compile indexedBelow).result = .ok registry ∧ child ∈ registry.classes ∧
        child.effective.get? "name" = some property ∧ property.declaredOn ≠ child.name ∧
          registry.get? property.declaredOn = some origin ∧
            origin.effective.get? "name" = some originProperty ∧
              property ≠ originProperty := by
  have observed := indexedBelow_flags
  simp only [Option.bind_eq_some_iff, Option.map_eq_some_iff, Prod.mk.injEq] at observed
  obtain ⟨registry, accepted, child, childFound, property, has, origin, originFound,
    originProperty, originHas, childName, declaredOn, flagged, bare⟩ := observed
  refine ⟨registry, child, property, origin, originProperty, ok_of_toOption accepted,
    mem_classes_of_get? childFound, has, ?_, ?_, originHas, ?_⟩
  · rw [declaredOn, childName]
    decide
  · rw [declaredOn, originFound]
  · rintro rfl
    rw [flagged] at bare
    cases bare

end Registry

end RecordSchema
