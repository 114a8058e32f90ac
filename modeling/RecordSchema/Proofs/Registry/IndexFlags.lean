import RecordSchema.Proofs.Registry.Inheritance

namespace RecordSchema

/-!
# What declared indices do

A class has the indices that are declared for it, in the order of their declaration.  The
flags of what it has under a name tell exactly which indices over that name alone are
declared for the class, or for one above it that has the same declaration.
-/

open Relation (ReflTransGen)
open Declarations (ofSets Inherits DeclaresIndex)

namespace Registry

/-- Completion adds no index. -/
theorem declaredIndices_withCarrier
    (definitions : DefinitionSet) :
    declaredIndices definitions.withCarrier = declaredIndices definitions := by
  refine SortedMap.flatMap_insertEntry definitions.sorted ?_
  change _ = (definitions.get? DefinitionSet.carrierName).toList.flatMap _
  rw [DefinitionSet.carrier]
  cases definitions.get? DefinitionSet.carrierName <;> simp

/--
An index over one property is declared for a class, or for one above it, that has the
property from the same declaration.
-/
def DeclaresFlag
    (sets : List DefinitionSet)
    (registry : Registry)
    (className name declaredOn : String)
    (fulltext : Bool) : Prop :=
  ∃ declaring definition,
    DeclaresIndex (ofSets sets) declaring definition ∧
      definition.properties = [name] ∧
        definition.kind.isFulltext = fulltext ∧
          ReflTransGen (Inherits (ofSets sets)) className (definition.target declaring) ∧
            ∃ target property,
              registry.get? (definition.target declaring) = some target ∧
                target.effective.get? name = some property ∧ property.declaredOn = declaredOn

namespace IsLinked

variable
  {sets : List DefinitionSet}
  {united : DefinitionSet}
  {base : Foundation}
  {registry : Registry}

/-- A class reaches another along the declared parents if it is it or descends from it. -/
theorem inherits_iff
    (unitedAccepted : DefinitionSet.unite .empty sets = .ok united)
    (linked : IsLinked united.withCarrier base registry)
    {child ancestor : String}
    {childId ancestorId : Nat}
    (childFound : base.hierarchy.idOf? child = some childId)
    (ancestorFound : base.hierarchy.idOf? ancestor = some ancestorId) :
    ReflTransGen (Inherits (ofSets sets)) child ancestor ↔
      ancestor = child ∨ registry.isDescendantOf child ancestor = true := by
  rw [Relation.reflTransGen_iff_eq_or_transGen, linked.isDescendantOf_iff childFound ancestorFound,
    linked.founded.declares.descends_iff childFound ancestorFound,
    DefinitionSet.inherits_withCarrier_eq unitedAccepted]

/-- The flags of a property are the declared ones. -/
theorem hasFlag_iff_declaresFlag
    (unitedAccepted : DefinitionSet.unite .empty sets = .ok united)
    (linked : IsLinked united.withCarrier base registry)
    {id : Nat}
    {model : ClassModel}
    (found : registry.byId? id = some model)
    {name : String}
    {property : Property}
    (has : model.effective.get? name = some property)
    (fulltext : Bool) :
    property.hasFlag fulltext = true ↔
      DeclaresFlag sets registry model.name name property.declaredOn fulltext := by
  obtain ⟨idFound, _⟩ := linked.get?_name found
  have declared :
      ∀ declaring definition,
        DeclaresIndex united.withCarrier.declarations declaring definition ↔
          DeclaresIndex (ofSets sets) declaring definition := by
    intro declaring definition
    rw [DefinitionSet.declaresIndex_withCarrier_iff,
      DefinitionSet.declarations_of_unite unitedAccepted]
  rw [linked.hasFlag_iff found has]
  simp only [linked.mem_indices_iff, indicesOf, List.mem_map, mem_declaredIndices_iff, declared]
  constructor
  · rintro ⟨_, ⟨⟨declaring, definition⟩, declares, rfl⟩, sameKind, flagsCopy⟩
    obtain ⟨target, _, targetAttached, _⟩ := flagsCopy.sameDeclaration
    obtain ⟨targetId, targetFound, _⟩ := linked.exists_id_of_get? targetAttached
    exact ⟨declaring, definition, declares, singleProperty?_eq_some_iff.mp flagsCopy.single,
      sameKind, (linked.inherits_iff unitedAccepted idFound targetFound).mpr flagsCopy.reaches,
      flagsCopy.sameDeclaration⟩
  · rintro ⟨declaring, definition, declares, isSingle, sameKind, reaches, sameDeclaration⟩
    have sameTarget := sameDeclaration
    obtain ⟨target, _, targetAttached, _⟩ := sameTarget
    obtain ⟨targetId, targetFound, _⟩ := linked.exists_id_of_get? targetAttached
    have flagsCopy :
        FlagsCopy registry model.name name property.declaredOn
          (.ofDefinition declaring definition) :=
      { single := singleProperty?_eq_some_iff.mpr isSingle
        reaches := (linked.inherits_iff unitedAccepted idFound targetFound).mp reaches
        sameDeclaration }
    exact ⟨_, ⟨(declaring, definition), declares, rfl⟩, sameKind, flagsCopy⟩

/-- A class has the indices that are declared for it, in order. -/
theorem indices_eq
    (linked : IsLinked united.withCarrier base registry)
    {id : Nat}
    {model : ClassModel}
    (found : registry.byId? id = some model) :
    model.indices =
      (indicesOf united).filter fun index => index.className = model.name := by
  obtain ⟨founded, foundedFound, flagged⟩ := linked.origin found
  obtain ⟨_, _, isFounded⟩ := linked.founded.exists_definition foundedFound
  rw [flagged.indices, isFounded.indices, List.nil_append, indicesOf, declaredIndices_withCarrier]
  refine List.filter_congr fun index _ => ?_
  rw [Bool.eq_iff_iff, decide_eq_true_eq, decide_eq_true_eq]
  exact linked.idOf?_iff found

end IsLinked

/--
Indices set the flags that their declarations say, and each class has the indices that are
declared for it, by the names of the declaring classes and then by position.
-/
theorem index_flags_eq_declared
    {sets : List DefinitionSet}
    {registry : Registry}
    (accepted : (compile sets).result = .ok registry) :
    ∃ united,
      DefinitionSet.unite .empty sets = .ok united ∧ united.declarations = ofSets sets ∧
        ∀ model ∈ registry.classes,
          (model.indices =
            united.entries.flatMap fun entry =>
              (entry.2.indices.filter fun definition =>
                definition.target entry.1 = model.name).map (Index.ofDefinition entry.1)) ∧
            ∀ name property,
              model.effective.get? name = some property →
              (property.indexed = true ↔
                DeclaresFlag sets registry model.name name property.declaredOn false) ∧
                (property.fulltextIndexed = true ↔
                  DeclaresFlag sets registry model.name name property.declaredOn true) := by
  obtain ⟨united, base, unitedAccepted, linked⟩ := compile_ok accepted
  refine ⟨united, unitedAccepted, DefinitionSet.declarations_of_unite unitedAccepted, ?_⟩
  intro model member
  obtain ⟨id, found⟩ := List.mem_iff_getElem?.mp member
  constructor
  · rw [linked.indices_eq found, indicesOf, declaredIndices, List.map_flatMap, List.filter_flatMap]
    refine List.flatMap_congr fun entry _ => ?_
    rw [List.map_map, List.filter_map]
    rfl
  · intro name property has
    exact ⟨linked.hasFlag_iff_declaresFlag unitedAccepted found has false,
      linked.hasFlag_iff_declaresFlag unitedAccepted found has true⟩

/-- A class with an index over two names, one that inherits from it, and one that declares
its own name below it; the catalogue declares an index for the first one. -/
def catalogued : List DefinitionSet :=
  [.ofList
    [("Base",
        { properties := [.ofType .string "code" none, .ofType .string "name" none]
          indices := [{ name := "Base.both", kind := .unique, properties := ["code", "name"] }] }),
      ("Catalogue",
        { indices :=
            [{ name := "Base.name", className := some "Base", kind := .unique
               properties := ["name"] }] }),
      ("Child", { inherits := ["Base"] }),
      ("Renamed", { inherits := ["Base"], properties := [.ofType .string "name" none] })]]

private theorem catalogued_flags :
    ((compile catalogued).result.toOption.bind fun registry =>
      (registry.get? "Child").bind fun child =>
        (child.effective.get? "name").bind fun inherited =>
          (registry.get? "Renamed").bind fun renamed =>
            (renamed.effective.get? "name").map fun own =>
              (child.name, inherited.declaredOn, inherited.indexed,
                renamed.name, own.declaredOn, own.indexed)) =
      some ("Child", "Base", true, "Renamed", "Renamed", false) := by
  decide +kernel

/-- The index is declared for what the child inherits, and not for what is declared anew. -/
theorem index_flags_eq_declared_catalogued :
    ∃ registry child renamed,
      (compile catalogued).result = .ok registry ∧
        registry.get? "Child" = some child ∧ registry.get? "Renamed" = some renamed ∧
          DeclaresFlag catalogued registry "Child" "name" "Base" false ∧
            ¬DeclaresFlag catalogued registry "Renamed" "name" "Renamed" false := by
  have observed := catalogued_flags
  simp only [Option.bind_eq_some_iff, Option.map_eq_some_iff, Prod.mk.injEq] at observed
  obtain ⟨registry, accepted, child, childFound, inherited, inheritedHas, renamed, renamedFound,
    own, ownHas, childName, inheritedFrom, isIndexed, renamedName, ownFrom, notIndexed⟩ := observed
  have accepted := ok_of_toOption accepted
  obtain ⟨_, _, _, declared⟩ := index_flags_eq_declared accepted
  have ofChild :=
    ((declared child (mem_classes_of_get? childFound)).2 "name" inherited inheritedHas).1
  have ofRenamed :=
    ((declared renamed (mem_classes_of_get? renamedFound)).2 "name" own ownHas).1
  rw [childName, inheritedFrom] at ofChild
  rw [renamedName, ownFrom, notIndexed] at ofRenamed
  exact ⟨registry, child, renamed, accepted, childFound, renamedFound, ofChild.mp isIndexed,
    fun declaresFlag => Bool.false_ne_true (ofRenamed.mpr declaresFlag)⟩

end Registry

end RecordSchema
