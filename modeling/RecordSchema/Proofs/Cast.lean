import RecordSchema.Proofs.RecordId
import RecordSchema.Proofs.Text.CaseMapping
import RecordSchema.Property

namespace RecordSchema

/-!
# Canonical forms

What the built-in casts accept comes out in a canonical form: a text in normal form, an
integer of 64 bits, a truth value, the text of a record id, or an object.  None of them
gives null.  A property without a cast of its own therefore holds a value of its type.
-/

theorem exists_of_map_ok
    {outcome : Except ε α}
    {change : α → β}
    {result : β}
    (accepted : outcome.map change = .ok result) :
    ∃ value, outcome = .ok value ∧ change value = result := by
  cases outcome with
  | error error =>
      cases accepted
  | ok value =>
      cases accepted
      exact ⟨value, rfl, rfl⟩

namespace Cast

/-- The text of a scalar is in normal form. -/
theorem isNormal_toStringValue
    {value : Json}
    {text : String}
    (accepted : toStringValue value = .ok text) :
    Text.IsNormal text := by
  cases value with
  | string source =>
      cases accepted
      exact Text.isNormal_normalizeBlanks _
  | number source =>
      cases accepted
      exact Text.isNormal_normalizeBlanks _
  | bool source =>
      cases accepted
      cases source
      · exact ⟨[['f', 'a', 'l', 's', 'e']], by simp [Text.IsWord]; decide, rfl⟩
      · exact ⟨[['t', 'r', 'u', 'e']], by simp [Text.IsWord]; decide, rfl⟩
  | null =>
      cases accepted
  | array items =>
      cases accepted
  | object members =>
      cases accepted

/-- A text that has to hold something is in normal form and not empty. -/
theorem toNonEmptyString_ok
    {value : Json}
    {text : String}
    (accepted : toNonEmptyString value = .ok text) :
    Text.IsNormal text ∧ text ≠ "" := by
  rw [toNonEmptyString] at accepted
  split at accepted
  · cases accepted
  · rename_i found isText
    split at accepted
    · cases accepted
    · rename_i isPresent
      cases accepted
      refine ⟨isNormal_toStringValue isText, ?_⟩
      rintro rfl
      exact isPresent rfl

theorem exists_of_toObject
    {value result : Json}
    (accepted : toObject value = .ok result) :
    ∃ members, result = .object members := by
  cases value with
  | object members =>
      cases accepted
      exact ⟨members, rfl⟩
  | _ => cases accepted

end Cast

namespace CastKind

/-- The values in the canonical form of a built-in cast. -/
def IsCanonical : CastKind → Json → Prop
  | .string, value => ∃ text, Text.IsNormal text ∧ value = .string text
  | .lowercase, value =>
      ∃ text, Text.IsNormal text ∧ Text.lowercase text = text ∧ value = .string text
  | .nonEmptyString, value => ∃ text, Text.IsNormal text ∧ text ≠ "" ∧ value = .string text
  | .lowercaseNonEmpty, value =>
      ∃ text,
        Text.IsNormal text ∧ text ≠ "" ∧ Text.lowercase text = text ∧ value = .string text
  | .integer, value => ∃ number : Int64, value = .ofInt64 number
  | .boolean, value => ∃ flag, value = .bool flag
  | .recordId, value | .recordIdStrict, value => RecordId.IsText value
  | .object, value => ∃ members, value = .object members

/-- A built-in cast gives its canonical form. -/
theorem isCanonical_of_apply
    {kind : CastKind}
    {value result : Json}
    (accepted : kind.apply value = .ok result) :
    kind.IsCanonical result := by
  cases kind with
  | string =>
      obtain ⟨text, isText, rfl⟩ := exists_of_map_ok accepted
      exact ⟨text, Cast.isNormal_toStringValue isText, rfl⟩
  | lowercase =>
      obtain ⟨text, isText, rfl⟩ := exists_of_map_ok accepted
      have normal := Text.isNormal_lowercase (Cast.isNormal_toStringValue isText)
      exact ⟨Text.lowercase text, normal, Text.lowercase_lowercase text, rfl⟩
  | nonEmptyString =>
      obtain ⟨text, isText, rfl⟩ := exists_of_map_ok accepted
      obtain ⟨normal, isPresent⟩ := Cast.toNonEmptyString_ok isText
      exact ⟨text, normal, isPresent, rfl⟩
  | lowercaseNonEmpty =>
      obtain ⟨text, isText, rfl⟩ := exists_of_map_ok accepted
      obtain ⟨normal, isPresent⟩ := Cast.toNonEmptyString_ok isText
      exact ⟨Text.lowercase text, Text.isNormal_lowercase normal,
        isPresent ∘ Text.lowercase_eq_empty_iff.mp, Text.lowercase_lowercase text, rfl⟩
  | integer =>
      obtain ⟨number, _, rfl⟩ := exists_of_map_ok accepted
      exact ⟨number, rfl⟩
  | boolean =>
      obtain ⟨flag, _, rfl⟩ := exists_of_map_ok accepted
      exact ⟨flag, rfl⟩
  | recordId =>
      obtain ⟨id, isId, rfl⟩ := exists_of_map_ok accepted
      exact ⟨id, RecordId.isValid_ofJson isId, rfl⟩
  | recordIdStrict =>
      obtain ⟨id, isId, rfl⟩ := exists_of_map_ok accepted
      exact ⟨id, RecordId.isValid_ofJson isId, rfl⟩
  | object =>
      exact Cast.exists_of_toObject accepted

/-- No built-in cast gives null. -/
theorem isNull_of_apply
    {kind : CastKind}
    {value result : Json}
    (accepted : kind.apply value = .ok result) :
    result.isNull = false := by
  cases kind with
  | object =>
      obtain ⟨members, rfl⟩ := Cast.exists_of_toObject accepted
      rfl
  | _ =>
      obtain ⟨_, _, rfl⟩ := exists_of_map_ok accepted
      rfl

end CastKind

theorem PropertyType.isCollection_of_isSet
    {type : PropertyType}
    (isSet : type.isSet = true) :
    type.isCollection = true := by
  cases type <;> simp_all [PropertyType.isSet, PropertyType.isCollection]

theorem PropertyType.eq_embeddedset
    {type : PropertyType}
    (isSet : type.isSet = true)
    (isEmbedded : type.isEmbedded = true) :
    type = .embeddedset := by
  cases type <;> simp_all [PropertyType.isSet, PropertyType.isEmbedded]

/-- The values of a type in their canonical form. -/
def PropertyType.Holds : PropertyType → Json → Prop
  | .string, value => ∃ text, Text.IsNormal text ∧ value = .string text
  | .integer, value => ∃ number : Int64, value = .ofInt64 number
  | .boolean, value => ∃ flag, value = .bool flag
  | .link, value => RecordId.IsText value
  | .linkset, value =>
      ∃ items, value = .array items ∧ (∀ item ∈ items, RecordId.IsText item) ∧ items.Nodup
  | .embedded, value => ∃ members, value = .object members
  | .embeddedlist, value | .embeddedset, value => ∃ items, value = .array items

/-- The canonical form of its cast is that of a type. -/
theorem PropertyType.holds_of_isCanonical
    {type : PropertyType}
    {kind : CastKind}
    {value : Json}
    (isKind : type.defaultCast? = some kind)
    (single : type.isCollection = false)
    (canonical : kind.IsCanonical value) :
    type.Holds value := by
  cases type with
  | linkset | embeddedlist | embeddedset => cases single
  | _ =>
      cases isKind
      exact canonical

namespace Property

/-- A property whose cast is the one of its type. -/
def HasDefaultCast (property : Property) : Prop :=
  property.cast = property.type.defaultCast?.map .builtin

/-- A property whose cast is a built-in one, or which is a collection without a cast. -/
def HasBuiltinCast (property : Property) : Prop :=
  (∃ kind, property.cast = some (.builtin kind)) ∨
    property.cast = none ∧ property.type.isCollection = true

theorem dropRepeated_sublist
    {kept items : List Json} :
    (dropRepeated kept items).Sublist items := by
  induction items generalizing kept with
  | nil =>
      exact .slnil
  | cons first rest inductionHypothesis =>
      rw [dropRepeated]
      split
      · exact inductionHypothesis.cons first
      · exact inductionHypothesis.cons_cons first

theorem mem_of_mem_dropRepeated
    {kept items : List Json}
    {item : Json}
    (member : item ∈ dropRepeated kept items) :
    item ∈ items :=
  dropRepeated_sublist.mem member

/-- Kept items equal no earlier one. -/
theorem pairwise_dropRepeated
    (kept items : List Json) :
    (∀ item ∈ dropRepeated kept items, kept.contains item = false) ∧
      (dropRepeated kept items).Pairwise fun first second => (second == first) = false := by
  induction items generalizing kept with
  | nil =>
      simp [dropRepeated]
  | cons first rest inductionHypothesis =>
      rw [dropRepeated]
      split
      · exact inductionHypothesis kept
      · rename_i isNew
        obtain ⟨fresh, distinct⟩ := inductionHypothesis (kept ++ [first])
        have freshLater :
            ∀ item ∈ dropRepeated (kept ++ [first]) rest,
              kept.contains item = false ∧ (item == first) = false := by
          intro item member
          have absent := fresh item member
          rw [List.contains_append, Bool.or_eq_false_iff] at absent
          simpa using absent
        refine ⟨fun item member => ?_, List.pairwise_cons.mpr ⟨?_, distinct⟩⟩
        · rcases List.mem_cons.mp member with rfl | later
          · simpa using isNew
          · exact (freshLater item later).1
        · intro item member
          exact (freshLater item member).2

/-- Texts of which none is repeated are different. -/
theorem nodup_dropRepeated
    {items : List Json}
    (texts : ∀ item ∈ items, ∃ text, item = .string text) :
    (dropRepeated [] items).Nodup := by
  refine (pairwise_dropRepeated [] items).2.imp_of_mem ?_
  intro first second firstMember _ different same
  subst same
  obtain ⟨text, rfl⟩ := texts first (mem_of_mem_dropRepeated firstMember)
  change (text == text) = false at different
  simp at different

theorem exists_of_castItems
    {property : Property}
    {items values : List Json}
    (accepted : property.castItems items = .ok values)
    {value : Json}
    (member : value ∈ values) :
    ∃ item ∈ items, property.castItem item = .ok value := by
  induction items generalizing values with
  | nil =>
      cases accepted
      cases member
  | cons first rest inductionHypothesis =>
      rw [castItems] at accepted
      split at accepted
      · cases accepted
      · rename_i firstValue firstAccepted
        split at accepted
        · cases accepted
        · rename_i restValues restAccepted
          cases accepted
          rcases List.mem_cons.mp member with rfl | later
          · exact ⟨first, List.mem_cons_self, firstAccepted⟩
          · obtain ⟨item, itemMember, itemAccepted⟩ := inductionHypothesis restAccepted later
            exact ⟨item, List.mem_cons_of_mem _ itemMember, itemAccepted⟩

theorem castValue_array
    {property : Property}
    (isCollection : property.type.isCollection = true)
    (items : List Json) :
    property.castValue (.array items) =
      (property.castItems items).map fun values =>
        .array (if property.type.isSet then dropRepeated [] values else values) := by
  unfold castValue
  rw [if_pos isCollection]

theorem castValue_of_single
    {property : Property}
    (single : property.type.isCollection = false)
    (value : Json) :
    property.castValue value = property.castItem value := by
  unfold castValue
  rw [if_neg (by simp [single])]

/-- Nothing but an array is cast to a collection. -/
theorem exists_array_of_castValue
    {property : Property}
    {raw value : Json}
    (isCollection : property.type.isCollection = true)
    (accepted : property.castValue raw = .ok value) :
    ∃ items, raw = .array items := by
  cases raw with
  | array items =>
      exact ⟨items, rfl⟩
  | _ =>
      unfold castValue at accepted
      rw [if_pos isCollection] at accepted
      cases accepted

/-- A cast collection is an array of cast items, or of those that are not repeated. -/
theorem exists_of_castValue_collection
    {property : Property}
    {raw value : Json}
    (isCollection : property.type.isCollection = true)
    (accepted : property.castValue raw = .ok value) :
    ∃ items values,
      property.castItems items = .ok values ∧
        value = .array (if property.type.isSet then dropRepeated [] values else values) := by
  obtain ⟨items, rfl⟩ := exists_array_of_castValue isCollection accepted
  rw [castValue_array isCollection] at accepted
  obtain ⟨values, castItems, rfl⟩ := exists_of_map_ok accepted
  exact ⟨items, values, castItems, rfl⟩

/-- What is no collection is cast as a whole. -/
theorem castItem_of_castValue
    {property : Property}
    {raw value : Json}
    (single : property.type.isCollection = false)
    (accepted : property.castValue raw = .ok value) :
    property.castItem raw = .ok value := by
  rwa [castValue_of_single single] at accepted

/-- A property with a built-in cast makes no value null. -/
theorem isNull_of_castValue
    {property : Property}
    {raw value : Json}
    (builtin : property.HasBuiltinCast)
    (accepted : property.castValue raw = .ok value) :
    value.isNull = false := by
  cases isCollection : property.type.isCollection with
  | true =>
      obtain ⟨_, _, _, rfl⟩ := exists_of_castValue_collection isCollection accepted
      rfl
  | false =>
      have castAccepted := castItem_of_castValue isCollection accepted
      rcases builtin with ⟨kind, isKind⟩ | ⟨_, collection⟩
      · rw [castItem, isKind] at castAccepted
        exact CastKind.isNull_of_apply castAccepted
      · rw [isCollection] at collection
        cases collection

/-- A cast of the type is the one that the items of the property get. -/
theorem castItem_eq_apply
    {property : Property}
    (default : property.HasDefaultCast)
    (kind : CastKind)
    (isKind : property.type.defaultCast? = some kind)
    (item : Json) :
    property.castItem item = kind.apply item := by
  rw [castItem, default, isKind]
  rfl

/-- Items that are cast to record ids are texts of different ids once none is repeated. -/
theorem isText_dropRepeated
    {property : Property}
    {items values : List Json}
    (castsIds : ∀ item, property.castItem item = CastKind.recordId.apply item)
    (accepted : property.castItems items = .ok values) :
    (∀ item ∈ dropRepeated [] values, RecordId.IsText item) ∧ (dropRepeated [] values).Nodup := by
  have valueIds : ∀ item ∈ values, RecordId.IsText item := by
    intro item member
    obtain ⟨source, _, sourceAccepted⟩ := exists_of_castItems accepted member
    rw [castsIds] at sourceAccepted
    obtain ⟨id, idAccepted, rfl⟩ := exists_of_map_ok sourceAccepted
    exact ⟨id, RecordId.isValid_ofJson idAccepted, rfl⟩
  constructor
  · intro item member
    exact valueIds item (mem_of_mem_dropRepeated member)
  · apply nodup_dropRepeated
    intro item member
    obtain ⟨id, _, isText⟩ := valueIds item member
    exact ⟨id.toText, isText⟩

/-- A property with the cast of its type gives values of its type. -/
theorem holds_of_castValue
    {property : Property}
    {raw value : Json}
    (default : property.HasDefaultCast)
    (accepted : property.castValue raw = .ok value) :
    property.type.Holds value := by
  by_cases isCollection : property.type.isCollection = true
  · obtain ⟨items, values, castAccepted, rfl⟩ :=
      exists_of_castValue_collection isCollection accepted
    cases type : property.type with
    | linkset =>
        have castsIds := castItem_eq_apply default .recordId (by rw [type]; rfl)
        obtain ⟨ids, distinct⟩ := isText_dropRepeated castsIds castAccepted
        exact ⟨dropRepeated [] values, rfl, ids, distinct⟩
    | embeddedlist | embeddedset =>
        exact ⟨_, rfl⟩
    | _ =>
        rw [type] at isCollection
        cases isCollection
  · have single : property.type.isCollection = false := by
      simpa using isCollection
    have castAccepted := castItem_of_castValue single accepted
    obtain ⟨kind, isKind⟩ : ∃ kind, property.type.defaultCast? = some kind := by
      cases type : property.type <;>
        simp_all [PropertyType.isCollection, PropertyType.defaultCast?]
    rw [castItem_eq_apply default kind isKind] at castAccepted
    exact PropertyType.holds_of_isCanonical isKind single
      (CastKind.isCanonical_of_apply castAccepted)

end Property

end RecordSchema
