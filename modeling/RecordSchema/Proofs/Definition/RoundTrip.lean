import RecordSchema.Definition.Printer
import RecordSchema.Proofs.Definition.Loaded
import RecordSchema.Proofs.Json.NormalForm
import RecordSchema.Registry.Linking

namespace RecordSchema

/-!
# Definitions are read back as they are written

A definition without functions is written in normal form and read back as it was.  What a
document may write is such a definition, so one that was read is read back from what it is
written as, and everything made of the two is the same.
-/

open Json (Document Fields IsNormal optionalMember ofMembers ofStrings)

theorem DefaultGenerator.ofDocument?_name
    (generator : DefaultGenerator) :
    ofDocument? (.ofJson (.string generator.name)) = some generator := by
  cases generator <;> decide

theorem CastKind.ofDocument?_name
    (cast : CastKind) :
    ofDocument? (.ofJson (.string cast.name)) = some cast := by
  cases cast <;> decide

theorem IndexKind.ofDocument?_name
    (kind : IndexKind) :
    ofDocument? (.ofJson (.string kind.name)) = some kind := by
  cases kind <;> decide

/-- Also the operation that nothing is known about has a name that is not a known one. -/
theorem Operation.ofDocument?_name
    (operation : Operation) :
    ofDocument? (.ofJson (.string operation.name)) = some operation := by
  cases operation <;> decide

theorem PropertyType.ofDocument?_name
    (type : PropertyType) :
    ofDocument? (.ofJson (.string type.name)) = some type := by
  cases type <;> decide

namespace PropertyKind

/-- The names of constraints. -/
def constraintNames : List String :=
  ["nonEmpty", "choices", "pattern", "min", "max", "linkedClass", "minItems"]

theorem get?_members_of_notMem
    (kind : PropertyKind)
    {name : String}
    (other : name ∉ constraintNames) :
    (SortedMap.ofList kind.members).get? name = none := by
  simp only [constraintNames, List.mem_cons, List.not_mem_nil, or_false, not_or] at other
  cases kind <;> simp [members, other]

/-- The constraints of a type are found among fields that have them as they are written. -/
theorem ofFields?_ofMap
    (kind : PropertyKind)
    {fields : SortedMap Json}
    (agree :
      ∀ name ∈ constraintNames, fields.get? name = (SortedMap.ofList kind.members).get? name) :
    ofFields? (.ofMap fields) kind.type = some kind := by
  simp only [constraintNames, List.forall_mem_cons] at agree
  obtain ⟨nonEmptyFound, choicesFound, patternFound, minFound, maxFound, classFound,
    minItemsFound, _⟩ := agree
  cases kind with
  | string nonEmpty choices pattern =>
      have nonEmptyWritten : fields.get? "nonEmpty" = some (.bool nonEmpty) := by
        simpa [members] using nonEmptyFound
      have choicesWritten : fields.get? "choices" = choices.map ofStrings := by
        simpa [members] using choicesFound
      have patternWritten : fields.get? "pattern" = pattern.map .string := by
        simpa [members] using patternFound
      have choicesRead :=
        Fields.optional?_ofMap choicesWritten fun texts _ =>
          ⟨rfl, Document.toList?_ofStrings texts⟩
      simp [ofFields?, type, Fields.flag?_ofMap nonEmptyWritten, choicesRead,
        Fields.optionalText?_ofMap patternWritten]
  | integer min max choices =>
      have minWritten : fields.get? "min" = min.map .ofInt64 := by
        simpa [members] using minFound
      have maxWritten : fields.get? "max" = max.map .ofInt64 := by
        simpa [members] using maxFound
      have choicesWritten :
          fields.get? "choices" = choices.map fun values => .array (values.map .ofInt64) := by
        simpa [members] using choicesFound
      have choicesRead :=
        Fields.optional?_ofMap choicesWritten fun values _ =>
          ⟨rfl, Document.toList?_array fun value _ => Document.toInt64?_ofInt64 value⟩
      simp [ofFields?, type, Fields.optionalInt64?_ofMap minWritten,
        Fields.optionalInt64?_ofMap maxWritten, choicesRead]
  | boolean => rfl
  | link linkedClass | embedded linkedClass =>
      have classWritten : fields.get? "linkedClass" = linkedClass.map .string := by
        simpa [members] using classFound
      simp [ofFields?, type, Fields.optionalText?_ofMap classWritten]
  | linkset linkedClass minItems | embeddedlist linkedClass minItems
  | embeddedset linkedClass minItems =>
      have classWritten : fields.get? "linkedClass" = linkedClass.map .string := by
        simpa [members] using classFound
      have minItemsWritten :
          fields.get? "minItems" = minItems.map fun bound => .ofNat bound.toNat := by
        simpa [members] using minItemsFound
      have minItemsRead :=
        Fields.optional?_ofMap minItemsWritten fun bound _ =>
          ⟨rfl, Document.toUInt64?_ofNat bound⟩
      simp [ofFields?, type, Fields.optionalText?_ofMap classWritten, minItemsRead]

theorem isNormal_of_mem_members
    (kind : PropertyKind)
    {member : String × Json}
    (inMembers : member ∈ kind.members) :
    member.2.IsNormal := by
  have number : ∀ value : Int64, (Json.ofInt64 value).IsNormal := fun _ => .number _
  have bound : ∀ value : UInt64, (Json.ofNat value.toNat).IsNormal := fun _ => .number _
  cases kind with
  | string nonEmpty choices pattern =>
      rcases List.mem_cons.mp inMembers with rfl | later
      · exact .bool nonEmpty
      · rcases List.mem_append.mp later with inChoices | inPattern
        · exact Json.isNormal_of_mem_optionalMember_map Json.isNormal_ofStrings inChoices
        · exact Json.isNormal_of_mem_optionalMember_map .string inPattern
  | integer min max choices =>
      rcases List.mem_append.mp inMembers with inBounds | inChoices
      · rcases List.mem_append.mp inBounds with inMin | inMax
        · exact Json.isNormal_of_mem_optionalMember_map number inMin
        · exact Json.isNormal_of_mem_optionalMember_map number inMax
      · refine Json.isNormal_of_mem_optionalMember_map (fun values => .array ?_) inChoices
        exact List.forall_mem_map.mpr fun value _ => number value
  | boolean => cases inMembers
  | link linkedClass | embedded linkedClass =>
      exact Json.isNormal_of_mem_optionalMember_map .string inMembers
  | linkset linkedClass minItems | embeddedlist linkedClass minItems
  | embeddedset linkedClass minItems =>
      rcases List.mem_append.mp inMembers with inClass | inMinItems
      · exact Json.isNormal_of_mem_optionalMember_map .string inClass
      · exact Json.isNormal_of_mem_optionalMember_map bound inMinItems

end PropertyKind

namespace PropertyDefinition

/--
A property that is read back: a document may write it, and its default is a value whose
objects have each key once, in order.
-/
structure IsRestorable (definition : PropertyDefinition) : Prop extends IsWritten definition where
  normal : ∀ value, definition.default = some value → value.IsNormal

variable
  {definition : PropertyDefinition}

theorem isNormal_toJson
    (restorable : definition.IsRestorable) :
    definition.toJson.IsNormal := by
  refine Json.isNormal_ofMembers fun member inMembers => ?_
  simp only [List.mem_append, or_assoc] at inMembers
  rcases inMembers with inFields | inKind | inDefault | inGenerator | inCast | inDescription
  · simp only [List.mem_cons, List.not_mem_nil, or_false] at inFields
    rcases inFields with rfl | rfl | rfl | rfl | rfl | rfl
    all_goals first | exact .string _ | exact .bool _
  · exact definition.kind.isNormal_of_mem_members inKind
  · exact Json.isNormal_of_mem_optionalMember restorable.normal inDefault
  · exact Json.isNormal_of_mem_optionalMember_map (fun _ => .string _) inGenerator
  · exact Json.isNormal_of_mem_optionalMember_map (fun _ => .string _) inCast
  · exact Json.isNormal_of_mem_optionalMember_map .string inDescription

/-- The members of a written property. -/
structure IsWrittenIn (definition : PropertyDefinition) (members : SortedMap Json) : Prop where
  name : members.get? "name" = some (.string definition.name)
  type : members.get? "type" = some (.string definition.kind.type.name)
  mandatory : members.get? "mandatory" = some (.bool definition.mandatory)
  nullable : members.get? "nullable" = some (.bool definition.nullable)
  generated : members.get? "generated" = some (.bool definition.generated)
  readOnly : members.get? "readOnly" = some (.bool definition.readOnly)
  kind :
    ∀ name ∈ PropertyKind.constraintNames,
      members.get? name = (SortedMap.ofList definition.kind.members).get? name
  default : members.get? "default" = definition.default
  defaultGenerator :
    members.get? "defaultGenerator" =
      definition.defaultGenerator.map fun generator => .string generator.name
  cast : members.get? "cast" = definition.cast.map fun kind => .string kind.name
  description : members.get? "description" = definition.description.map .string

theorem exists_isWrittenIn
    (definition : PropertyDefinition) :
    ∃ members : SortedMap Json,
      definition.toJson = .object members.entries ∧ definition.IsWrittenIn members := by
  have absent :
      ∀ name, name ∉ PropertyKind.constraintNames →
        (SortedMap.ofList definition.kind.members).get? name = none :=
    fun _ => definition.kind.get?_members_of_notMem
  simp only [PropertyKind.constraintNames, List.mem_cons, List.not_mem_nil, or_false] at absent
  refine ⟨_, rfl, ?_⟩
  constructor
  case kind =>
    simp only [PropertyKind.constraintNames, List.forall_mem_cons]
    simp
  all_goals simp [absent]

/-- A property without functions is read back as it was. -/
theorem ofDocument?_toJson
    (restorable : definition.IsRestorable) :
    ofDocument? (.ofJson definition.toJson) = some definition := by
  obtain ⟨members, shape, written⟩ := definition.exists_isWrittenIn
  have kindRead := definition.kind.ofFields?_ofMap written.kind
  have defaultRead :
      Fields.optional? (.ofMap members) "default" Document.toJson? = some definition.default :=
    Fields.optionalValue?_ofMap written.default fun value isDefault =>
      ⟨restorable.default value isDefault,
        Document.toJson?_ofJson (restorable.normal value isDefault)⟩
  have generatorRead :=
    Fields.optional?_ofMap written.defaultGenerator fun generator _ =>
      ⟨rfl, DefaultGenerator.ofDocument?_name generator⟩
  have castRead :=
    Fields.optional?_ofMap written.cast fun cast _ => ⟨rfl, CastKind.ofDocument?_name cast⟩
  have fieldsRead :
      ofFields? (.ofMap members) =
        some { definition with customCast := none, defaultFunction := none } := by
    rw [ofFields?, Fields.requiredText?_ofMap written.name,
      Fields.required?_ofMap written.type (PropertyType.ofDocument?_name _)]
    simp [kindRead, defaultRead, generatorRead, castRead, Fields.flag?_ofMap written.mandatory,
      Fields.flag?_ofMap written.nullable, Fields.flag?_ofMap written.generated,
      Fields.flag?_ofMap written.readOnly, Fields.optionalText?_ofMap written.description]
  -- A property is read only if its whole object has a value.
  have whole := Document.toJson?_ofJson (isNormal_toJson restorable)
  have isSelf :
      { definition with customCast := none, defaultFunction := none } = definition := by
    rw [← restorable.customCast, ← restorable.defaultFunction]
  have fields := Document.fields?_object [] members.entries
  rw [shape] at whole ⊢
  rw [Document.ofJson] at whole fields ⊢
  rw [ofDocument?, whole, fields]
  exact fieldsRead.trans (congrArg some isSelf)

end PropertyDefinition

theorem ignoreNullValues?_object
    (flag : Bool) :
    ignoreNullValues? (.ofJson (.object [("ignoreNullValues", .bool flag)])) = some flag := by
  cases flag <;> decide

namespace IndexDefinition

theorem isNormal_toJson
    (definition : IndexDefinition) :
    definition.toJson.IsNormal := by
  refine Json.isNormal_ofMembers fun member inMembers => ?_
  simp only [List.mem_append, List.mem_cons, List.not_mem_nil, or_false] at inMembers
  rcases inMembers with (rfl | rfl | rfl | rfl) | inClass
  · exact .string _
  · exact .string _
  · exact Json.isNormal_ofStrings _
  · exact .object (List.pairwise_singleton _ _) (by simp [IsNormal.bool])
  · exact Json.isNormal_of_mem_optionalMember_map .string inClass

/-- The members of a written index. -/
structure IsWrittenIn (definition : IndexDefinition) (members : SortedMap Json) : Prop where
  name : members.get? "name" = some (.string definition.name)
  className : members.get? "class" = definition.className.map .string
  kind : members.get? "type" = some (.string definition.kind.name)
  properties : members.get? "properties" = some (ofStrings definition.properties)
  ignoreNullValues :
    members.get? "metadata" =
      some (.object [("ignoreNullValues", .bool definition.ignoreNullValues)])

theorem exists_isWrittenIn
    (definition : IndexDefinition) :
    ∃ members : SortedMap Json,
      definition.toJson = .object members.entries ∧ definition.IsWrittenIn members :=
  ⟨_, rfl, by constructor <;> simp⟩

/-- An index is read back as it was. -/
theorem ofDocument?_toJson
    (definition : IndexDefinition) :
    ofDocument? (.ofJson definition.toJson) = some definition := by
  obtain ⟨members, shape, written⟩ := definition.exists_isWrittenIn
  have fields : (Document.ofJson definition.toJson).fields? fieldNames =
      some (Fields.ofMap members) := by
    rw [shape]
    exact Document.fields?_object _ _
  have nameRead := Fields.requiredText?_ofMap written.name
  have kindRead := Fields.required?_ofMap written.kind (IndexKind.ofDocument?_name _)
  have propertiesRead :=
    Fields.required?_ofMap written.properties (Document.toList?_ofStrings _)
  have metadataRead :=
    Fields.withDefault?_ofMap false written.ignoreNullValues (ignoreNullValues?_object _)
  simp [ofDocument?, fields, nameRead, Fields.optionalText?_ofMap written.className, kindRead,
    propertiesRead, metadataRead]

end IndexDefinition

namespace ClassDefinition

/-- A class whose properties are read back. -/
def IsRestorable (definition : ClassDefinition) : Prop :=
  ∀ property ∈ definition.properties, property.IsRestorable

variable
  {definition : ClassDefinition}

theorem isNormal_toJson
    (restorable : definition.IsRestorable) :
    definition.toJson.IsNormal := by
  refine Json.isNormal_ofMembers fun member inMembers => ?_
  simp only [List.mem_append, List.mem_cons, List.not_mem_nil, or_false, or_assoc] at inMembers
  rcases inMembers with
    rfl | rfl | rfl | rfl | rfl | rfl | rfl | inPermissions | inDescription
  · exact .bool _
  · exact .bool _
  · exact .bool _
  · exact Json.isNormal_ofStrings _
  · exact .array (List.forall_mem_map.mpr fun property isDeclared =>
      PropertyDefinition.isNormal_toJson (restorable property isDeclared))
  · exact .array (List.forall_mem_map.mpr fun index _ => index.isNormal_toJson)
  · exact Json.isNormal_ofStrings _
  · refine Json.isNormal_of_mem_optionalMember_map (fun masks => .ofMap ?_) inPermissions
    intro role mask isMask
    rw [SortedMap.get?_mapValues, Option.map_eq_some_iff] at isMask
    obtain ⟨bits, _, rfl⟩ := isMask
    exact .number _
  · exact Json.isNormal_of_mem_optionalMember_map .string inDescription

/-- The members of a written class. -/
structure IsWrittenIn (definition : ClassDefinition) (members : SortedMap Json) : Prop where
  isAbstract : members.get? "isAbstract" = some (.bool definition.isAbstract)
  isEdge : members.get? "isEdge" = some (.bool definition.isEdge)
  embedded : members.get? "embedded" = some (.bool definition.embedded)
  inherits : members.get? "inherits" = some (ofStrings definition.inherits)
  properties :
    members.get? "properties" =
      some (.array (definition.properties.map PropertyDefinition.toJson))
  indices :
    members.get? "indices" = some (.array (definition.indices.map IndexDefinition.toJson))
  permissions :
    members.get? "permissions" =
      definition.permissions.map fun masks =>
        .object (masks.mapValues fun _ bits => .ofNat bits.toNat).entries
  expose : members.get? "expose" = some (ofStrings (definition.expose.map Operation.name))
  description : members.get? "description" = definition.description.map .string

theorem exists_isWrittenIn
    (definition : ClassDefinition) :
    ∃ members : SortedMap Json,
      definition.toJson = .object members.entries ∧ definition.IsWrittenIn members :=
  ⟨_, rfl, by constructor <;> simp⟩

/-- A class without functions is read back as it was. -/
theorem ofJson?_toJson
    (restorable : definition.IsRestorable) :
    ofJson? definition.toJson = some definition := by
  obtain ⟨members, shape, written⟩ := definition.exists_isWrittenIn
  have fields : (Document.ofJson definition.toJson).fields? fieldNames =
      some (Fields.ofMap members) := by
    rw [shape]
    exact Document.fields?_object _ _
  have inheritsRead :=
    Fields.withDefault?_ofMap [] written.inherits (Document.toList?_ofStrings _)
  have propertiesRead :=
    Fields.withDefault?_ofMap [] written.properties
      (Document.toList?_array fun property isDeclared =>
        PropertyDefinition.ofDocument?_toJson (restorable property isDeclared))
  have indicesRead :=
    Fields.withDefault?_ofMap [] written.indices
      (Document.toList?_array fun index _ => index.ofDocument?_toJson)
  have permissionsRead :=
    Fields.optional?_ofMap written.permissions fun masks _ =>
      ⟨rfl, Document.toMap?_object fun _ bits _ => Document.toUInt8?_ofNat bits⟩
  have exposeWritten :
      ofStrings (definition.expose.map Operation.name) =
        .array (definition.expose.map fun operation => .string operation.name) := by
    rw [ofStrings, List.map_map]
    rfl
  have exposeRead :=
    Fields.withDefault?_ofMap [] (written.expose.trans (congrArg some exposeWritten))
      (Document.toList?_array fun operation _ => operation.ofDocument?_name)
  simp [ofJson?, ofDocument?, fields, Fields.flag?_ofMap written.isAbstract,
    Fields.flag?_ofMap written.isEdge, Fields.flag?_ofMap written.embedded, inheritsRead,
    propertiesRead, indicesRead, permissionsRead, exposeRead,
    Fields.optionalText?_ofMap written.description]

end ClassDefinition

namespace DefinitionSet

/-- Classes that are read back, each of them. -/
def IsRestorable (definitions : DefinitionSet) : Prop :=
  ∀ name definition, definitions.get? name = some definition → definition.IsRestorable

variable
  {definitions : DefinitionSet}

theorem isNormal_toJson
    (restorable : definitions.IsRestorable) :
    definitions.toJson.IsNormal := by
  refine .ofMap fun name value found => ?_
  rw [SortedMap.get?_mapValues, Option.map_eq_some_iff] at found
  obtain ⟨definition, isDeclared, rfl⟩ := found
  exact ClassDefinition.isNormal_toJson (restorable name definition isDeclared)

/-- Definitions without functions are read back as they were. -/
theorem ofJson?_toJson
    (restorable : definitions.IsRestorable) :
    ofJson? definitions.toJson = some definitions :=
  Document.toMap?_object fun name definition isDeclared =>
    ClassDefinition.ofJson?_toJson (restorable name definition isDeclared)

end DefinitionSet

/-- The property of a document is read back. -/
theorem PropertyDefinition.isRestorable_of_ofDocument?
    {document : Document}
    (apart : document.IsTakenApart)
    {definition : PropertyDefinition}
    (isRead : ofDocument? document = some definition) :
    definition.IsRestorable := by
  obtain ⟨_, _, ofDefault⟩ := ofDocument?_eq_some isRead
  refine ⟨isWritten_of_ofDocument? isRead, fun value isDefault => ?_⟩
  obtain ⟨part, isPart, _, partRead⟩ := ofDefault value isDefault
  exact Document.isNormal_of_toJson? (apart.of_isPartOf isPart) partRead

/-- The class of a document is read back. -/
theorem ClassDefinition.isRestorable_of_ofDocument?
    {document : Document}
    (apart : document.IsTakenApart)
    {definition : ClassDefinition}
    (isRead : ofDocument? document = some definition) :
    definition.IsRestorable := by
  intro property member
  obtain ⟨list, part, isPart, isItem, partRead⟩ := exists_of_ofDocument? isRead member
  exact PropertyDefinition.isRestorable_of_ofDocument?
    ((apart.of_isPartOf isPart).of_isPartOf isItem) partRead

/-- The classes of a document are read back. -/
theorem DefinitionSet.isRestorable_of_ofDocument?
    {document : Document}
    (apart : document.IsTakenApart)
    {definitions : DefinitionSet}
    (isRead : ofDocument? document = some definitions) :
    definitions.IsRestorable := by
  intro name definition isDeclared
  obtain ⟨part, isPart, partRead⟩ := Document.exists_of_toMap? isRead isDeclared
  exact ClassDefinition.isRestorable_of_ofDocument? (apart.of_isPartOf isPart) partRead

/--
Classes and sets of classes without functions are read back as they were written.  What was
read from a value or from a text is written to one that reads as the same once more, and is
linked to the same classes.
-/
theorem DefinitionSet.written_as_read :
    (∀ definition : ClassDefinition,
      definition.IsRestorable →
      ClassDefinition.ofJson? definition.toJson = some definition) ∧
    (∀ definitions : DefinitionSet,
      definitions.IsRestorable →
      ofJson? definitions.toJson = some definitions) ∧
    (∀ value definition,
      ClassDefinition.ofJson? value = some definition →
      ∃ again,
        ClassDefinition.ofJson? definition.toJson = some again ∧
          again.toJson = definition.toJson ∧
          ∀ id name, ClassModel.ofDefinition id name again =
            ClassModel.ofDefinition id name definition) ∧
    ∀ definitions,
      ((∃ value, ofJson? value = some definitions) ∨ ∃ text, read? text = some definitions) →
      ∃ again,
        ofJson? definitions.toJson = some again ∧
          again.toJson = definitions.toJson ∧
          ∀ before after, Registry.compile (before ++ again :: after) =
            Registry.compile (before ++ definitions :: after) := by
  refine ⟨fun _ => ClassDefinition.ofJson?_toJson, fun _ => ofJson?_toJson, ?_, ?_⟩
  · intro value definition isRead
    have restorable :=
      ClassDefinition.isRestorable_of_ofDocument? (Document.isTakenApart_ofJson value) isRead
    exact ⟨definition, ClassDefinition.ofJson?_toJson restorable, rfl, fun _ _ => rfl⟩
  · intro definitions isRead
    have restorable : definitions.IsRestorable := by
      rcases isRead with ⟨value, ofValue⟩ | ⟨text, ofText⟩
      · exact isRestorable_of_ofDocument? (Document.isTakenApart_ofJson value) ofValue
      · obtain ⟨document, documentRead, ofDocument⟩ := Option.bind_eq_some_iff.mp ofText
        exact isRestorable_of_ofDocument? (Document.isTakenApart_of_read? documentRead) ofDocument
    exact ⟨definitions, ofJson?_toJson restorable, rfl, fun _ _ => rfl⟩

/-- People with an age that defaults to an object, and an operation that nothing is known of. -/
def people : ClassDefinition where
  properties := [
    {
      name := "age"
      kind := .integer (some 0) none (some [18, 21])
      default := some (.object [("days", .bool true), ("years", .array [.string "7"])])
      cast := some .integer
    }
  ]
  permissions := some (.ofList [("user", 3), ("guest", 1)])
  expose := [.get, .other]

/-- People again, with an alias of a type, and with keys that are not sorted. -/
def peopleText : String :=
  "\x7b\"Person\":\x7b\"expose\":[\"GET\",\"PURGE\"],\"properties\":[\x7b\"type\":\"long\"," ++
    "\"default\":\x7b\"years\":[7],\"days\":1\x7d,\"name\":\"age\"\x7d]\x7d\x7d"

/-- What the text is written as once it is read. -/
def peopleRewritten : String :=
  "\x7b\"Person\":\x7b\"embedded\":false,\"expose\":[\"GET\",\"OTHER\"],\"indices\":[]," ++
    "\"inherits\":[],\"isAbstract\":false,\"isEdge\":false,\"properties\":[" ++
    "\x7b\"default\":\x7b\"days\":1,\"years\":[7]\x7d,\"generated\":false," ++
    "\"mandatory\":false,\"name\":\"age\",\"nullable\":true,\"readOnly\":false," ++
    "\"type\":\"integer\"\x7d]\x7d\x7d"

theorem people_restorable :
    people.IsRestorable := by
  intro property declared
  rw [List.mem_singleton.mp declared]
  refine ⟨⟨rfl, rfl, fun value isDefault => ?_⟩, fun value isDefault => ?_⟩
  · cases isDefault
    rfl
  · cases isDefault
    exact .object (List.pairwise_pair.mpr (by decide))
      (by simp [IsNormal.bool, IsNormal.array, IsNormal.string])

private theorem peopleText_observed :
    ((DefinitionSet.read? peopleText).map fun definitions => definitions.toJson.render) =
      some peopleRewritten := by
  decide +kernel

/-- The class is read back as it is; the text is read back from what it is written as. -/
theorem DefinitionSet.written_as_read_people :
    ClassDefinition.ofJson? people.toJson = some people ∧
      ofJson? (toJson (.ofList [("Person", people)])) = some (.ofList [("Person", people)]) ∧
      (∃ again,
        ClassDefinition.ofJson? people.toJson = some again ∧ again.toJson = people.toJson) ∧
      ∃ definitions again,
        read? peopleText = some definitions ∧
          ofJson? definitions.toJson = some again ∧
          again.toJson.render = peopleRewritten ∧
          Registry.compile [again] = Registry.compile [definitions] := by
  obtain ⟨ofClass, ofSet, ofClassValue, ofWritten⟩ := written_as_read
  have classRead := ofClass people people_restorable
  have setRead :=
    ofSet (.ofList [("Person", people)]) fun name definition declared => by
      cases List.mem_singleton.mp (SortedMap.mem_of_get?_ofList declared)
      exact people_restorable
  obtain ⟨again, againRead, sameValue, _⟩ := ofClassValue people.toJson people classRead
  obtain ⟨definitions, isRead, written⟩ := Option.map_eq_some_iff.mp peopleText_observed
  obtain ⟨readAgain, isReadAgain, sameWritten, sameCompiled⟩ :=
    ofWritten definitions (.inr ⟨peopleText, isRead⟩)
  exact ⟨classRead, setRead, ⟨again, againRead, sameValue⟩, definitions, readAgain, isRead,
    isReadAgain, (congrArg Json.render sameWritten).trans written, sameCompiled [] []⟩

end RecordSchema
