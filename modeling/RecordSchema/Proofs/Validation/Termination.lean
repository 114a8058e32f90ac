import RecordSchema.Proofs.Registry.Provenance
import RecordSchema.Proofs.Validation.Settling

namespace RecordSchema

/-!
# Checks of records end

The check of a record leads to those of the records in its cast values, each against the
class that a property links.  Links between classes may form cycles, and a class may embed
itself; yet each of these records is less deep than the one around it, unless a cast adds to
its nesting.  So without such casts the check is a total function, and it goes no deeper than
the record.
-/

/-- A cast whose results are nested no deeper than what they are made from. -/
def CustomCast.KeepsDepth (cast : CustomCast) : Prop :=
  ∀ raw value, cast.apply raw = .ok value → value.objectDepth ≤ raw.objectDepth

namespace Property

/-- A property whose cast, if it is a custom one, keeps the depth of values. -/
def CastKeepsDepth (property : Property) : Prop :=
  ∀ custom, property.cast = some (.custom custom) → custom.KeepsDepth

/-- Built-in casts never nest values deeper, so only custom ones are to be asked. -/
theorem CastKeepsDepth.keepsDepth
    {property : Property}
    (keeps : property.CastKeepsDepth) :
    property.KeepsDepth := by
  apply keepsDepth_of_castItem
  intro raw value accepted
  rw [castItem] at accepted
  cases isCast : property.cast with
  | none =>
      rw [isCast] at accepted
      cases accepted
      exact Nat.le_refl _
  | some cast =>
      rw [isCast] at accepted
      cases cast with
      | builtin kind =>
          exact CastKind.objectDepth_le_of_apply accepted
      | custom custom =>
          exact keeps custom isCast raw value accepted

/-- A property has no custom cast but the one that its definition attaches. -/
theorem customCast_of_castOf?
    {definition : PropertyDefinition}
    {custom : CustomCast}
    (isCustom : castOf? definition = some (.custom custom)) :
    definition.customCast = some custom := by
  rw [castOf?] at isCustom
  cases attached : definition.customCast with
  | some other =>
      rw [attached] at isCustom
      cases isCustom
      rfl
  | none =>
      rw [attached] at isCustom
      cases named : definition.cast <;> cases ofType : definition.kind.type.defaultCast? <;>
        simp [named, ofType] at isCustom

end Property

open Declarations (DeclaresProperty ofSets)

/-- Where all casts that sets attach keep depth, those of the compiled properties do. -/
theorem Registry.every_castKeepsDepth_of_compile
    {sets : List DefinitionSet}
    {registry : Registry}
    (compiled : (compile sets).result = .ok registry)
    (keep :
      ∀ className definition custom,
        DeclaresProperty (ofSets sets) className definition →
        definition.customCast = some custom →
        custom.KeepsDepth) :
    registry.Every Property.CastKeepsDepth := by
  intro model member name property has custom isCustom
  rcases declared_or_carried_or_endpoint compiled member has with
    ⟨definition, declares, _, isFrom⟩ | ⟨_, isFrom⟩ | isEnd
  · have attached := Property.customCast_of_castOf? (isFrom.cast.symm.trans isCustom)
    exact keep _ definition custom declares attached
  · cases isFrom.cast.symm.trans isCustom
  · cases (congrArg Property.cast isEnd).symm.trans isCustom

theorem Record.objectDepth_pos
    (record : Record) :
    0 < record.toJson.objectDepth := by
  rw [toJson, Json.objectDepth_object]
  exact Nat.succ_pos _

namespace Validation

variable
  {check other : ClassModel → List Step → Record → Outcome}
  {registry : Registry}
  {draws : Draws}
  {options : Options}
  {model : ClassModel}
  {steps : List Step}
  {input : Record}
  {property : Property}

/-- A record that is checked against a class. -/
structure Call where
  model : ClassModel
  input : Record

/-- A record in a cast value: the value itself, or an item of it. -/
def IsRecordIn (type : PropertyType) (value : Json) (members : List (String × Json)) : Prop :=
  (type = .embedded ∧ value = .object members) ∨
    ∃ items, value = .array items ∧ .object members ∈ items

/--
The check of a record leads to that of another, which is in the cast of a value that the
record brings, and is checked against the class that the property links.
-/
inductive Call.LeadsTo (registry : Registry) (options : Options) (outer inner : Call) : Prop where
  | intro {name : String} {property : Property} {raw value : Json}
      {members : List (String × Json)}
      (has : outer.model.effective.get? name = some property)
      (brought : outer.input.get? name = some raw)
      (writable : ¬(options.mode = .update ∧ property.readOnly = true))
      (present : raw.isNull = false)
      (accepted : property.castValue raw = .ok value)
      (isEmbedded : property.type.isEmbedded = true)
      (linked : registry.linkedClass? property = some inner.model)
      (isRecord : IsRecordIn property.type value members)
      (isInput : inner.input = .ofMembers members)

/-- A record in a value is no deeper than the value. -/
theorem IsRecordIn.objectDepth_le
    {type : PropertyType}
    {value : Json}
    {members : List (String × Json)}
    (isRecord : IsRecordIn type value members) :
    (Record.ofMembers members).toJson.objectDepth ≤ value.objectDepth := by
  refine Nat.le_trans (Record.objectDepth_ofMembers_le members) ?_
  rcases isRecord with ⟨_, rfl⟩ | ⟨items, rfl, member⟩
  · exact Nat.le_refl _
  · exact Json.objectDepth_le_of_mem_items member

namespace Call.LeadsTo

variable
  {outer inner : Call}

theorem mem_classes
    (leads : outer.LeadsTo registry options inner) :
    inner.model ∈ registry.classes := by
  obtain ⟨_, _, _, _, _, _, linked, _, _⟩ := leads
  exact Registry.mem_classes_of_linkedClass? linked

/-- Each step to another record goes to a less deep one. -/
theorem objectDepth_lt
    (keeps : registry.Every Property.CastKeepsDepth)
    (member : outer.model ∈ registry.classes)
    (leads : outer.LeadsTo registry options inner) :
    inner.input.toJson.objectDepth < outer.input.toJson.objectDepth := by
  obtain ⟨has, brought, _, _, accepted, _, _, isRecord, isInput⟩ := leads
  rw [isInput]
  calc
    _ ≤ _ := isRecord.objectDepth_le
    _ ≤ _ := (keeps outer.model member _ _ has).keepsDepth _ _ accepted
    _ < _ := Record.objectDepth_lt_of_get? brought

/-- A chain of records, each in the one before, is shorter than the first of them is deep. -/
theorem length_lt_objectDepth
    (keeps : registry.Every Property.CastKeepsDepth)
    {calls : List Call}
    (member : outer.model ∈ registry.classes)
    (chain : (outer :: calls).IsChain (Call.LeadsTo registry options)) :
    calls.length < outer.input.toJson.objectDepth := by
  induction calls generalizing outer with
  | nil =>
      exact outer.input.objectDepth_pos
  | cons inner rest inductionHypothesis =>
      obtain ⟨leads, restChain⟩ := List.isChain_cons_cons.mp chain
      have shorter := inductionHypothesis leads.mem_classes restChain
      have less := leads.objectDepth_lt keeps member
      rw [List.length_cons]
      omega

end Call.LeadsTo

theorem checkItems_congr
    {check other : List Step → Record → Outcome}
    {items : List Json}
    {position : Nat}
    (same :
      ∀ members,
        .object members ∈ items →
        ∀ place, check place (.ofMembers members) = other place (.ofMembers members)) :
    checkItems check steps position items = checkItems other steps position items := by
  induction items generalizing position with
  | nil =>
      rfl
  | cons first rest inductionHypothesis =>
      have restSame :
          checkItems check steps (position + 1) rest =
            checkItems other steps (position + 1) rest :=
        inductionHypothesis fun members member => same members (List.mem_cons_of_mem _ member)
      cases first with
      | object members =>
          simp only [checkItems, restSame, same members List.mem_cons_self]
      | _ => simp only [checkItems, restSame]

theorem checkNested_congr
    {value : Json}
    (same :
      ∀ linked members,
        property.type.isEmbedded = true →
        registry.linkedClass? property = some linked →
        IsRecordIn property.type value members →
        ∀ place,
          check linked place (.ofMembers members) = other linked place (.ofMembers members)) :
    checkNested check registry property steps value =
      checkNested other registry property steps value := by
  by_cases holds : HoldsRecords registry property value
  · obtain ⟨isEmbedded, isLinked, shape⟩ := holds
    obtain ⟨linked, found⟩ := Option.isSome_iff_exists.mp isLinked
    rcases shape with ⟨items, rfl⟩ | ⟨type, members, rfl⟩
    · have sameItems :
          checkItems (check linked) steps 0 items = checkItems (other linked) steps 0 items :=
        checkItems_congr fun members member =>
          same linked members isEmbedded found (.inr ⟨items, rfl, member⟩)
      rw [checkNested_array isEmbedded found, checkNested_array isEmbedded found, sameItems]
    · rw [checkNested_object type found, checkNested_object type found,
        same linked members isEmbedded found (.inl ⟨type, rfl⟩)]
  · rw [checkNested_of_not_holdsRecords holds, checkNested_of_not_holdsRecords holds]

/-- The passes over a record ask for no other checks than those that it leads to. -/
theorem checkWith_congr
    (same :
      ∀ inner,
        Call.LeadsTo registry options ⟨model, input⟩ inner →
        ∀ place, check inner.model place inner.input = other inner.model place inner.input) :
    checkWith check registry draws options model steps input =
      checkWith other registry draws options model steps input := by
  have sameVerdicts :
      present check registry options model steps input =
        present other registry options model steps input := by
    rw [present, present]
    refine List.filterMap_congr ?_
    rintro ⟨name, property⟩ member
    cases brought : input.get? name with
    | none =>
        rfl
    | some raw =>
        have has := SortedMap.get?_eq_some_iff.mpr member
        simp only [Option.map_some, checkPresent]
        split
        · rfl
        · rename_i writable
          split
          · rfl
          · rename_i present
            split
            · rfl
            · rename_i value accepted
              rw [checkNested_congr fun linked members isEmbedded found isRecord =>
                same ⟨linked, .ofMembers members⟩
                  (.intro has brought (by simpa using writable) (by simpa using present) accepted
                    isEmbedded found isRecord rfl)]
  rw [checkWith, checkWith, sameVerdicts]

/-- A record checked with as many levels as it is deep. -/
def checkInFull (registry : Registry) (draws : Draws) (options : Options) (model : ClassModel)
    (steps : List Step) (input : Record) : Outcome :=
  checkRecord registry draws options input.toJson.objectDepth model steps input

/-- A check of the classes of a registry that asks itself for the records in a record. -/
def IsRecursive (registry : Registry) (draws : Draws) (options : Options)
    (check : ClassModel → List Step → Record → Outcome) : Prop :=
  ∀ model ∈ registry.classes, ∀ steps input,
    check model steps input = checkWith check registry draws options model steps input

section Ending

variable
  {levels : Nat}

theorem settled_checkInFull
    (keeps : registry.Every Property.CastKeepsDepth)
    (member : model ∈ registry.classes) :
    Settled (checkInFull registry draws options model steps input).failures :=
  settled_checkRecord (keeps.imp Property.CastKeepsDepth.keepsDepth) member (Nat.le_refl _)

/-- More levels than a record is deep make no difference. -/
theorem checkRecord_eq_checkInFull
    (keeps : registry.Every Property.CastKeepsDepth)
    (member : model ∈ registry.classes)
    (enough : input.toJson.objectDepth ≤ levels) :
    checkRecord registry draws options levels model steps input =
      checkInFull registry draws options model steps input :=
  checkRecord_of_settled (settled_checkInFull keeps member) enough

theorem isRecursive_checkInFull
    (keeps : registry.Every Property.CastKeepsDepth) :
    IsRecursive registry draws options (checkInFull registry draws options) := by
  intro model member steps input
  obtain ⟨depth, isDepth⟩ := Nat.exists_eq_succ_of_ne_zero (Nat.ne_of_gt input.objectDepth_pos)
  rw [checkInFull, isDepth, checkRecord]
  -- One level less is enough for the records that the check leads to.
  refine checkWith_congr fun inner leads place => ?_
  have less : inner.input.toJson.objectDepth < input.toJson.objectDepth :=
    leads.objectDepth_lt keeps member
  exact checkRecord_eq_checkInFull keeps leads.mem_classes (by omega)

/-- The recursion has one solution, by induction on the depth of the record. -/
theorem IsRecursive.eq_checkInFull
    (recursive : IsRecursive registry draws options check)
    (keeps : registry.Every Property.CastKeepsDepth)
    (member : model ∈ registry.classes)
    (steps : List Step)
    (input : Record) :
    check model steps input = checkInFull registry draws options model steps input := by
  induction isDepth : input.toJson.objectDepth using Nat.strongRecOn
    generalizing model steps input with
  | ind depth inductionHypothesis =>
      rw [recursive model member, isRecursive_checkInFull keeps model member]
      refine checkWith_congr fun inner leads place => ?_
      have less : inner.input.toJson.objectDepth < input.toJson.objectDepth :=
        leads.objectDepth_lt keeps member
      exact inductionHypothesis _ (by omega) leads.mem_classes place inner.input rfl

end Ending

/-- The checks of all records against the classes of a registry end. -/
structure Ends (registry : Registry) (draws : Draws) (options : Options) : Prop where
  /-- No check leads from record to record without end. -/
  wellFounded :
    WellFounded fun inner outer : Call =>
      outer.model ∈ registry.classes ∧ outer.LeadsTo registry options inner
  /-- A check asks for no others than those that it leads to. -/
  asks :
    ∀ (check other : ClassModel → List Step → Record → Outcome) model steps input,
      (∀ inner,
        Call.LeadsTo registry options ⟨model, input⟩ inner →
        ∀ place, check inner.model place inner.input = other inner.model place inner.input) →
      checkWith check registry draws options model steps input =
        checkWith other registry draws options model steps input
  /-- As many checks as the first record is deep are under way at most. -/
  bounded :
    ∀ outer calls,
      outer.model ∈ registry.classes →
      (outer :: calls).IsChain (Call.LeadsTo registry options) →
      (outer :: calls).length ≤ outer.input.toJson.objectDepth
  /-- The recursion has a solution, a total function. -/
  recursive : IsRecursive registry draws options (checkInFull registry draws options)
  /-- It has no other one. -/
  unique :
    ∀ check,
      IsRecursive registry draws options check →
      ∀ model ∈ registry.classes, ∀ steps input,
        check model steps input = checkInFull registry draws options model steps input
  /-- The levels of a check leave it alone if they are as many as the record is deep. -/
  levels :
    ∀ model ∈ registry.classes, ∀ steps input levels,
      input.toJson.objectDepth ≤ levels →
      checkRecord registry draws options levels model steps input =
        checkInFull registry draws options model steps input
  /-- The check has an outcome, in which no record stands too deep. -/
  outcome :
    ∀ model ∈ registry.classes, ∀ steps input,
      check? registry draws options model steps input =
          some (checkInFull registry draws options model steps input) ∧
        Settled (checkInFull registry draws options model steps input).failures

/--
The check of every record against every class ends, also where classes embed each other or
themselves, if custom casts nest no objects deeper; built-in casts never do.  The recursion
is well-founded, has one solution, and goes no deeper than the record is, whatever the links
between classes.
-/
theorem check_ends
    (keeps : registry.Every Property.CastKeepsDepth)
    (draws : Draws)
    (options : Options) :
    (∀ (kind : CastKind) raw value,
        kind.apply raw = .ok value → value.objectDepth ≤ raw.objectDepth) ∧
      Ends registry draws options := by
  refine ⟨fun kind raw value => CastKind.objectDepth_le_of_apply, ?_⟩
  exact {
    wellFounded :=
      Subrelation.wf (fun ⟨member, leads⟩ => leads.objectDepth_lt keeps member)
        (measure fun call : Call => call.input.toJson.objectDepth).wf
    asks := fun check other model steps input same => checkWith_congr same
    bounded := fun outer calls member chain =>
      Call.LeadsTo.length_lt_objectDepth keeps member chain
    recursive := isRecursive_checkInFull keeps
    unique := fun check recursive model member steps input =>
      recursive.eq_checkInFull keeps member steps input
    levels := fun model member steps input levels enough =>
      checkRecord_eq_checkInFull keeps member enough
    outcome := fun model member steps input =>
      ⟨check?_of_keepsDepth (keeps.imp Property.CastKeepsDepth.keepsDepth) member
          (Nat.le_refl _),
        settled_checkInFull keeps member⟩
  }

/-- A cast that takes the first item of an array for a value. -/
def firstItem : CustomCast where
  identity := 0
  name := "first"
  apply
    | .array (item :: _) => .ok item
    | value => .ok value

theorem firstItem_keepsDepth : firstItem.KeepsDepth := by
  intro raw value accepted
  cases raw with
  | array items =>
      cases items with
      | nil =>
          cases accepted
          exact Nat.le_refl _
      | cons first rest =>
          cases accepted
          exact Json.objectDepth_le_of_mem_items List.mem_cons_self
  | _ =>
      cases accepted
      exact Nat.le_refl _

/-- A class of records each of which may embed the next one. -/
def nodes : DefinitionSet :=
  .ofList
    [("Node", {
      properties :=
        [{ PropertyDefinition.ofType .embedded "next" (some "Node") with
            customCast := some firstItem }] })]

private theorem firstItem_of_nodes
    {className : String}
    {definition : PropertyDefinition}
    {custom : CustomCast}
    (declares : DeclaresProperty (ofSets [nodes]) className definition)
    (attached : definition.customCast = some custom) :
    custom = firstItem := by
  obtain ⟨_, ⟨set, setMember, declared⟩, propertyMember⟩ := declares
  cases List.mem_singleton.mp setMember
  cases List.mem_singleton.mp (SortedMap.mem_of_get?_ofList declared)
  cases List.mem_singleton.mp propertyMember
  cases attached
  rfl

/-- A node with a list for its next one, which has another node after it. -/
def nodeChain : Record :=
  .ofMembers [("next", .array [.object [("next", .object [])]])]

private theorem nodes_observed :
    ((Registry.compile [nodes]).result.toOption.bind fun registry =>
      (registry.get? "Node").bind fun model =>
        (model.effective.get? "next").bind fun next =>
          (registry.linkedClass? next).map fun linked =>
            (linked.name,
              (checkInFull registry ⟨fun _ => "", fun _ => 0⟩ {} model [] nodeChain).record,
              (checkInFull registry ⟨fun _ => "", fun _ => 0⟩ {} model [] nodeChain).failures)) =
      some ("Node", .ofMembers [("next", .object [("next", .object [])])], []) := by
  with_unfolding_all rfl

/-- The nodes in a node are checked although their class embeds itself through a custom cast. -/
theorem check_ends_nodes :
    ∃ registry model next linked,
      (Registry.compile [nodes]).result = .ok registry ∧
        registry.get? "Node" = some model ∧
          model.effective.get? "next" = some next ∧
            registry.linkedClass? next = some linked ∧
              linked.name = "Node" ∧
                registry.Every Property.CastKeepsDepth ∧
                  (∀ calls : List Call,
                    (⟨model, nodeChain⟩ :: calls).IsChain (Call.LeadsTo registry {}) →
                    calls.length < 3) ∧
                    ∃ outcome,
                      check? registry ⟨fun _ => "", fun _ => 0⟩ {} model [] nodeChain =
                          some outcome ∧
                        outcome.record = .ofMembers [("next", .object [("next", .object [])])] ∧
                          outcome.failures = [] := by
  have observed := nodes_observed
  simp only [Option.bind_eq_some_iff, Option.map_eq_some_iff, Prod.mk.injEq] at observed
  obtain ⟨registry, compiled, model, found, next, has, linked, isLinked, linkedName, record,
    failures⟩ := observed
  have compiled := Registry.ok_of_toOption compiled
  have member := Registry.mem_classes_of_get? found
  have keeps : registry.Every Property.CastKeepsDepth :=
    Registry.every_castKeepsDepth_of_compile compiled fun _ _ custom declares attached =>
      firstItem_of_nodes declares attached ▸ firstItem_keepsDepth
  obtain ⟨_, ends⟩ := check_ends keeps ⟨fun _ => "", fun _ => 0⟩ {}
  have isDepth : nodeChain.toJson.objectDepth = 3 := by
    rfl
  refine ⟨registry, model, next, linked, compiled, found, has, isLinked, linkedName, keeps,
    fun calls chain => ?_, _, (ends.outcome model member [] nodeChain).1, record, failures⟩
  have bounded := ends.bounded _ calls member chain
  rw [isDepth] at bounded
  exact bounded

end Validation

end RecordSchema
