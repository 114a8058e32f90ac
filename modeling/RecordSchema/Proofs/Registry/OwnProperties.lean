import RecordSchema.Proofs.Registry.Inheritance

namespace RecordSchema

/-!
# Own properties and their effective copies

A class keeps what it declares itself twice: as its own property, and as the effective
one of that name.  Links are resolved before the copy is made, and an index flags both
copies where it is attached.  Below its target it flags effective copies only, but no
class below a target declares what the target has.  So the two copies always agree.
-/

open Declarations (DeclaresProperty ofSets)

theorem Property.synthesized_eq_of_unflagged
    {first second : Property}
    (sameRest : first.unflagged = second.unflagged) :
    first.synthesized = second.synthesized := by
  change first.unflagged.synthesized = second.unflagged.synthesized
  rw [sameRest]

namespace Registry

/-- Own properties are declared, so none of them is the end of an edge that nobody declares. -/
theorem Founded.synthesized_own
    {definitions : DefinitionSet}
    {base : Foundation}
    (founded : Founded definitions base)
    {id : Nat}
    {model : ClassModel}
    (found : base.models[id]? = some model)
    {name : String}
    {property : Property}
    (own : model.own.get? name = some property) :
    property.synthesized = false := by
  obtain ⟨_, _, isFounded⟩ := founded.exists_definition found
  obtain ⟨_, _, _, draft, read, rfl⟩ := (isFounded.own _ _).mp own
  obtain ⟨_, _, rfl⟩ := Property.ofDefinition_eq_ok_iff.mp read
  rw [Property.frame_linkIn]

/-- The own property of a name is the composed one. -/
theorem Founded.composed_own
    {definitions : DefinitionSet}
    {base : Foundation}
    (founded : Founded definitions base)
    {id : Nat}
    {model : ClassModel}
    (found : base.models[id]? = some model)
    {name : String}
    {property : Property}
    (own : model.own.get? name = some property) :
    (composedOf base.composition id).get? name = some property := by
  rw [founded.get?_composed found, own, Option.some_or, Option.some_or]

namespace IsLinked

variable
  {definitions : DefinitionSet}
  {base : Foundation}
  {registry : Registry}
  {id : Nat}
  {attached : ClassModel}
  {name : String}
  {property : Property}

/-- An own property has the flags of the indices over it that its class has, and no others. -/
theorem hasFlag_own_iff
    (linked : IsLinked definitions base registry)
    (found : registry.byId? id = some attached)
    (own : attached.own.get? name = some property)
    (fulltext : Bool) :
    property.hasFlag fulltext = true ↔
      ∃ index ∈ registry.indices,
        index.kind.isFulltext = fulltext ∧
          index.singleProperty? = some name ∧ index.className = attached.name := by
  obtain ⟨model, modelFound, flagged⟩ := linked.origin found
  obtain ⟨declared, declaredOwn, isFlagged⟩ := flagged.own.origin own
  have bare :=
    Property.hasFlag_eq_false (linked.founded.unflagged_own modelFound declaredOwn) fulltext
  rw [isFlagged.hasFlag, bare]
  simp only [Bool.false_eq_true, false_or, FlagsOwn, linked.idOf?_iff found,
    linked.mem_indices_iff]
  exact exists_congr fun index => and_congr_right fun _ => and_left_comm

/-- What a class declares itself is effective there as it is, flags included. -/
theorem effective_own
    (linked : IsLinked definitions base registry)
    (found : registry.byId? id = some attached)
    (own : attached.own.get? name = some property) :
    attached.effective.get? name = some property ∧
      property.declaredOn = attached.name ∧ property.synthesized = false := by
  obtain ⟨model, modelFound, flagged⟩ := linked.origin found
  obtain ⟨declared, declaredOwn, ownFlagged⟩ := flagged.own.origin own
  obtain ⟨effective, has, effectiveFlagged⟩ :=
    flagged.effective.present name declared
      (linked.founded.composed_own modelFound declaredOwn)
  have declaredHere : declared.declaredOn = attached.name :=
    (linked.founded.declaredOn_own modelFound declaredOwn).trans flagged.name_eq.symm
  have effectiveHere : effective.declaredOn = attached.name :=
    (Property.declaredOn_eq_of_unflagged effectiveFlagged.unflagged).trans declaredHere
  have ownHere : property.declaredOn = attached.name :=
    (Property.declaredOn_eq_of_unflagged ownFlagged.unflagged).trans declaredHere
  have sameFlags : ∀ fulltext, property.hasFlag fulltext = effective.hasFlag fulltext := by
    intro fulltext
    rw [Bool.eq_iff_iff, linked.hasFlag_own_iff found own, linked.hasFlag_iff found has,
      effectiveHere]
    simp only [linked.flagsCopy_origin_iff found has effectiveHere]
  have same : property = effective :=
    Property.eq_iff_unflagged_and_hasFlag.mpr
      ⟨ownFlagged.unflagged.trans effectiveFlagged.unflagged.symm, sameFlags⟩
  refine ⟨same ▸ has, ownHere, ?_⟩
  rw [Property.synthesized_eq_of_unflagged ownFlagged.unflagged]
  exact linked.founded.synthesized_own modelFound declaredOwn

/-- What is declared on a class, and is no end of an edge that nobody declares, is its own. -/
theorem own_of_effective
    (linked : IsLinked definitions base registry)
    (found : registry.byId? id = some attached)
    (has : attached.effective.get? name = some property)
    (declaredHere : property.declaredOn = attached.name)
    (isDeclared : property.synthesized = false) :
    attached.own.get? name = some property := by
  obtain ⟨model, modelFound, flagged⟩ := linked.origin found
  obtain ⟨composed, composedHas, isFlagged⟩ := flagged.effective.origin has
  obtain ⟨originId, isOrigin⟩ := linked.founded.exists_origin composedHas
  obtain ⟨origin, originFound, originName, source⟩ := isOrigin.source
  have sameName : origin.name = attached.name := by
    rw [← originName, ← Property.declaredOn_eq_of_unflagged isFlagged.unflagged, declaredHere]
  have isHere : originId = id := by
    have originIdFound := linked.founded.idOf?_name originFound
    rw [(linked.idOf?_iff found).mpr sameName] at originIdFound
    exact (Option.some.inj originIdFound).symm
  subst isHere
  cases modelFound.symm.trans originFound
  rcases source with own | isEnd
  · obtain ⟨property, ownFound, _⟩ := flagged.own.present name composed own
    cases has.symm.trans (linked.effective_own found ownFound).1
    exact ownFound
  · have isSynthesized := Property.synthesized_eq_of_unflagged isFlagged.unflagged
    rw [isDeclared, isEnd] at isSynthesized
    cases isSynthesized

/-- A class has what the definitions declare for it as its own. -/
theorem contains_own_of_declares
    (linked : IsLinked definitions base registry)
    (found : registry.byId? id = some attached)
    {declared : PropertyDefinition}
    (declares : DeclaresProperty definitions.declarations attached.name declared) :
    attached.own.contains declared.name = true := by
  obtain ⟨model, modelFound, flagged⟩ := linked.origin found
  obtain ⟨definition, isDeclared, member⟩ := declares
  rw [flagged.own.contains_eq]
  exact linked.founded.contains_own modelFound (flagged.name_eq ▸ isDeclared) member

end IsLinked

/--
The two views of what a class declares agree.  All that the sets declare for it is there, and
its own property of a name is its effective one, in every part: its own properties are the
effective ones that are declared on it, save for the ends of edges that nobody declares.
-/
theorem own_iff_effective
    {sets : List DefinitionSet}
    {registry : Registry}
    (accepted : (compile sets).result = .ok registry)
    {model : ClassModel}
    (member : model ∈ registry.classes) :
    (∀ definition,
      DeclaresProperty (ofSets sets) model.name definition →
        model.own.contains definition.name = true) ∧
      ∀ name property,
        model.own.get? name = some property ↔
          model.effective.get? name = some property ∧
            property.declaredOn = model.name ∧ property.synthesized = false := by
  obtain ⟨united, base, unitedAccepted, linked⟩ := compile_ok accepted
  obtain ⟨id, found⟩ := List.mem_iff_getElem?.mp member
  constructor
  · intro definition declares
    rw [← DefinitionSet.declarations_of_unite unitedAccepted] at declares
    obtain ⟨_, declared, propertyMember⟩ := declares
    exact linked.contains_own_of_declares found
      ⟨_, DefinitionSet.withCarrier_of_get? declared, List.mem_append_left _ propertyMember⟩
  · intro name property
    exact ⟨fun own => linked.effective_own found own,
      fun ⟨has, declaredHere, isDeclared⟩ =>
        linked.own_of_effective found has declaredHere isDeclared⟩

/-- A class with two indices over its code, and one below that declares and indexes its own. -/
def coded : List DefinitionSet :=
  [.ofList
    [("Item",
        { properties := [.ofType .string "code" none]
          indices :=
            [{ name := "Item.code", kind := .unique, properties := ["code"] },
              { name := "Item.words", kind := .fulltextHash, properties := ["code"] }] }),
      ("Part",
        { inherits := ["Item"], properties := [.ofType .string "code" none]
          indices := [{ name := "Part.code", kind := .unique, properties := ["code"] }] })]]

private theorem coded_observed :
    ((compile coded).result.toOption.bind fun registry =>
      (registry.get? "Part").bind fun part =>
        (part.own.get? "code").map fun own =>
          (own.indexed, own.fulltextIndexed)) =
      some (true, false) := by
  decide +kernel

/-- The code of the class below is flagged for its own index only, in both views. -/
theorem own_iff_effective_coded :
    ∃ registry part property,
      (compile coded).result = .ok registry ∧ part ∈ registry.classes ∧
        part.own.get? "code" = some property ∧ part.effective.get? "code" = some property ∧
          property.indexed = true ∧ property.fulltextIndexed = false := by
  have observed := coded_observed
  simp only [Option.bind_eq_some_iff, Option.map_eq_some_iff, Prod.mk.injEq] at observed
  obtain ⟨registry, accepted, part, partFound, property, own, isIndexed, notFulltext⟩ := observed
  have accepted := ok_of_toOption accepted
  have member := mem_classes_of_get? partFound
  obtain ⟨has, _⟩ := ((own_iff_effective accepted member).2 "code" property).mp own
  exact ⟨registry, part, property, accepted, member, own, has, isIndexed, notFulltext⟩

end Registry

end RecordSchema
