import RecordSchema.Proofs.Cast
import RecordSchema.Proofs.Validation.Constraints

namespace RecordSchema

/-!
# Canonical forms are kept

A value that a built-in cast gives is cast to itself, and the text of an id as well where a
hash is required.  The same holds of the values of a property with a built-in cast: the items
of a collection are canonical one by one, and a set that has lost its repeated items has none
to lose.
-/

namespace Cast

theorem toStringValue_of_isNormal
    {text : String}
    (normal : Text.IsNormal text) :
    toStringValue (.string text) = .ok text := by
  rw [toStringValue, Text.normalizeBlanks_of_isNormal normal]

theorem toNonEmptyString_of_isNormal
    {text : String}
    (normal : Text.IsNormal text)
    (isPresent : text ≠ "") :
    toNonEmptyString (.string text) = .ok text := by
  have notEmpty : ¬text.isEmpty = true := by
    simpa using isPresent
  rw [toNonEmptyString, toStringValue_of_isNormal normal]
  dsimp only
  rw [if_neg notEmpty]

theorem toInteger_ofInt64
    (number : Int64) :
    toInteger (.ofInt64 number) = .ok number := by
  have isNumber : (Number.integer number.toInt).toInt64? = some number :=
    Json.toInt64?_eq_some_iff.mpr rfl
  rw [Json.ofInt64, Json.ofInt, toInteger, isNumber]

end Cast

namespace CastKind

/-- The text of an id is kept whether a hash is required or not. -/
theorem apply_of_isText
    {kind : CastKind}
    (castsIds : kind = .recordId ∨ kind = .recordIdStrict)
    {value : Json}
    (isText : RecordId.IsText value) :
    kind.apply value = .ok value := by
  obtain ⟨id, valid, rfl⟩ := isText
  rcases castsIds with rfl | rfl
  all_goals
    rw [apply, RecordId.ofJson, RecordId.parse_toText valid]
    rfl

/-- A value in the canonical form of a built-in cast is cast to itself. -/
theorem apply_of_isCanonical
    {kind : CastKind}
    {value : Json}
    (canonical : kind.IsCanonical value) :
    kind.apply value = .ok value := by
  cases kind with
  | string =>
      obtain ⟨text, normal, rfl⟩ := canonical
      rw [apply, Cast.toStringValue_of_isNormal normal]
      rfl
  | lowercase =>
      obtain ⟨text, normal, isLower, rfl⟩ := canonical
      rw [apply, Cast.toStringValue_of_isNormal normal, Except.map, isLower]
  | nonEmptyString =>
      obtain ⟨text, normal, isPresent, rfl⟩ := canonical
      rw [apply, Cast.toNonEmptyString_of_isNormal normal isPresent]
      rfl
  | lowercaseNonEmpty =>
      obtain ⟨text, normal, isPresent, isLower, rfl⟩ := canonical
      rw [apply, Cast.toNonEmptyString_of_isNormal normal isPresent, Except.map, isLower]
  | integer =>
      obtain ⟨number, rfl⟩ := canonical
      rw [apply, Cast.toInteger_ofInt64]
      rfl
  | boolean =>
      obtain ⟨flag, rfl⟩ := canonical
      rfl
  | recordId =>
      exact apply_of_isText (.inl rfl) canonical
  | recordIdStrict =>
      exact apply_of_isText (.inr rfl) canonical
  | object =>
      obtain ⟨members, rfl⟩ := canonical
      rfl

/-- What a built-in cast gives is cast to itself. -/
theorem apply_of_apply
    {kind : CastKind}
    {value result : Json}
    (accepted : kind.apply value = .ok result) :
    kind.apply result = .ok result :=
  apply_of_isCanonical (isCanonical_of_apply accepted)

/-- A cast to record ids casts a value as it casts the objects that carry it. -/
theorem apply_of_isCarriedBy
    {kind : CastKind}
    (castsIds : kind = .recordId ∨ kind = .recordIdStrict)
    {value carrier : Json}
    (carried : RecordId.IsCarriedBy value carrier) :
    kind.apply carrier = kind.apply value := by
  rcases castsIds with rfl | rfl
  all_goals
    rw [apply, RecordId.ofJson_of_isCarriedBy carried]
    rfl

/--
A built-in cast takes what it accepts to its canonical form, which is never null and which it
leaves as it is.  An id is cast to a text that is kept where a hash is required, and the
objects that carry a value are cast as the value is, or refused as it is.
-/
theorem apply_projects
    (kind : CastKind)
    (value : Json) :
    (∀ result,
      kind.apply value = .ok result →
        kind.IsCanonical result ∧ result ≠ .null ∧ kind.apply result = .ok result) ∧
      (kind = .recordId ∨ kind = .recordIdStrict →
        (∀ result,
          kind.apply value = .ok result → recordIdStrict.apply result = .ok result) ∧
          ∀ carrier,
            RecordId.IsCarriedBy value carrier → kind.apply carrier = kind.apply value) := by
  constructor
  · intro result accepted
    have notNull := isNull_of_apply accepted
    refine ⟨isCanonical_of_apply accepted, ?_, apply_of_apply accepted⟩
    rintro rfl
    cases notNull
  · intro castsIds
    refine ⟨fun result accepted => ?_, fun carrier => apply_of_isCarriedBy castsIds⟩
    have isText : RecordId.IsText result := by
      have canonical := isCanonical_of_apply accepted
      rcases castsIds with rfl | rfl
      · exact canonical
      · exact canonical
    exact apply_of_isText (.inr rfl) isText

/-- An id with zeros in front is cast to its plain text behind two objects as by itself. -/
theorem apply_projects_carried :
    RecordId.IsCarriedBy (.string " 12:007 ")
        (.object [("@rid", .object [("name", .null), ("@rid", .string " 12:007 ")])]) ∧
      recordId.apply (.object [("@rid", .object [("name", .null), ("@rid", .string " 12:007 ")])]) =
        .ok (.string "#12:7") ∧
        recordIdStrict.apply (.string "#12:7") = .ok (.string "#12:7") := by
  obtain ⟨_, forIds⟩ := apply_projects .recordId (.string " 12:007 ")
  obtain ⟨strict, carries⟩ := forIds (.inl rfl)
  have carried :
      RecordId.IsCarriedBy (.string " 12:007 ")
        (.object [("@rid", .object [("name", .null), ("@rid", .string " 12:007 ")])]) :=
    .member rfl (.member rfl .itself)
  have accepted : recordId.apply (.string " 12:007 ") = .ok (.string "#12:7") :=
    rfl
  exact ⟨carried, (carries _ carried).trans accepted, strict _ accepted⟩

/-- A built-in cast that gives an object has not changed it. -/
theorem eq_object_of_apply
    {kind : CastKind}
    {value : Json}
    {members : List (String × Json)}
    (accepted : kind.apply value = .ok (.object members)) :
    kind = .object := by
  cases kind with
  | object =>
      rfl
  | _ =>
      obtain ⟨_, _, isObject⟩ := exists_of_map_ok accepted
      cases isObject

theorem apply_ne_array
    {kind : CastKind}
    {value : Json}
    {items : List Json} :
    kind.apply value ≠ .ok (.array items) := by
  intro accepted
  cases kind with
  | object =>
      obtain ⟨_, isObject⟩ := Cast.exists_of_toObject accepted
      cases isObject
  | _ =>
      obtain ⟨_, _, isArray⟩ := exists_of_map_ok accepted
      cases isArray

end CastKind

namespace Property

variable
  {property : Property}

theorem castItem_of_castItem
    (builtin : property.HasBuiltinCast)
    {raw value : Json}
    (accepted : property.castItem raw = .ok value) :
    property.castItem value = .ok value := by
  rcases builtin with ⟨kind, isKind⟩ | ⟨noCast, _⟩
  · rw [castItem, isKind] at accepted ⊢
    exact CastKind.apply_of_apply accepted
  · rw [castItem, noCast]

/-- A property that gives an object casts every object to itself. -/
theorem castItem_object
    (builtin : property.HasBuiltinCast)
    {raw : Json}
    {members : List (String × Json)}
    (accepted : property.castItem raw = .ok (.object members))
    (others : List (String × Json)) :
    property.castItem (.object others) = .ok (.object others) := by
  rcases builtin with ⟨kind, isKind⟩ | ⟨noCast, _⟩
  · rw [castItem, isKind] at accepted ⊢
    cases CastKind.eq_object_of_apply accepted
    rfl
  · rw [castItem, noCast]

/-- Items that are cast to themselves stay as they are. -/
theorem castItems_of_fixed
    {items : List Json}
    (fixed : ∀ item ∈ items, property.castItem item = .ok item) :
    property.castItems items = .ok items := by
  induction items with
  | nil =>
      rfl
  | cons first rest inductionHypothesis =>
      rw [castItems, fixed first List.mem_cons_self,
        inductionHypothesis fun item member => fixed item (List.mem_cons_of_mem _ member)]

/-- Items of which none is repeated are all kept. -/
theorem dropRepeated_of_pairwise
    {kept items : List Json}
    (fresh : ∀ item ∈ items, kept.contains item = false)
    (distinct : items.Pairwise fun first second => (second == first) = false) :
    dropRepeated kept items = items := by
  induction items generalizing kept with
  | nil =>
      rfl
  | cons first rest inductionHypothesis =>
      obtain ⟨fromFirst, restDistinct⟩ := List.pairwise_cons.mp distinct
      have firstFresh : ¬kept.contains first = true := by
        simp [fresh first List.mem_cons_self]
      rw [dropRepeated, if_neg firstFresh, inductionHypothesis ?_ restDistinct]
      intro item member
      rw [List.contains_append, fresh item (List.mem_cons_of_mem _ member), Bool.false_or]
      simpa using fromFirst item member

/-- A second removal of repeated items changes nothing. -/
theorem dropRepeated_dropRepeated
    (items : List Json) :
    dropRepeated [] (dropRepeated [] items) = dropRepeated [] items :=
  dropRepeated_of_pairwise (fun _ _ => rfl) (pairwise_dropRepeated [] items).2

/-- An array whose items are cast to themselves only loses what is repeated in a set. -/
theorem castValue_array_of_fixed
    (isCollection : property.type.isCollection = true)
    {items : List Json}
    (fixed : ∀ item ∈ items, property.castItem item = .ok item) :
    property.castValue (.array items) =
      .ok (.array (if property.type.isSet then dropRepeated [] items else items)) := by
  rw [castValue_array isCollection, castItems_of_fixed fixed]
  rfl

/-- A value of a property with a built-in cast is cast to itself. -/
theorem castValue_of_castValue
    (builtin : property.HasBuiltinCast)
    {raw value : Json}
    (accepted : property.castValue raw = .ok value) :
    property.castValue value = .ok value := by
  cases isCollection : property.type.isCollection with
  | true =>
      obtain ⟨items, values, castAccepted, rfl⟩ :=
        exists_of_castValue_collection isCollection accepted
      have fixed : ∀ item ∈ values, property.castItem item = .ok item := by
        intro item member
        obtain ⟨source, _, sourceAccepted⟩ := exists_of_castItems castAccepted member
        exact castItem_of_castItem builtin sourceAccepted
      cases isSet : property.type.isSet with
      | true =>
          have keptFixed : ∀ item ∈ dropRepeated [] values, property.castItem item = .ok item :=
            fun item member => fixed item (mem_of_mem_dropRepeated member)
          rw [if_pos rfl, castValue_array_of_fixed isCollection keptFixed, isSet, if_pos rfl,
            dropRepeated_dropRepeated]
      | false =>
          rw [if_neg (by simp), castValue_array_of_fixed isCollection fixed, isSet,
            if_neg (by simp)]
  | false =>
      rw [castValue_of_single isCollection] at accepted ⊢
      exact castItem_of_castItem builtin accepted

/-- A property with a built-in cast makes an object only of an object. -/
theorem exists_of_castValue_object
    (builtin : property.HasBuiltinCast)
    {raw : Json}
    {members : List (String × Json)}
    (accepted : property.castValue raw = .ok (.object members)) :
    ∃ others, raw = .object others := by
  cases isCollection : property.type.isCollection with
  | true =>
      obtain ⟨_, _, _, isArray⟩ := exists_of_castValue_collection isCollection accepted
      cases isArray
  | false =>
      rw [castValue_of_single isCollection, castItem] at accepted
      rcases builtin with ⟨kind, isKind⟩ | ⟨_, collection⟩
      · rw [isKind] at accepted
        cases CastKind.eq_object_of_apply accepted
        cases raw with
        | object others => exact ⟨others, rfl⟩
        | _ => cases accepted
      · rw [isCollection] at collection
        cases collection

/-- A property with a built-in cast makes an array only of an array, and is a collection then. -/
theorem exists_of_castValue_array
    (builtin : property.HasBuiltinCast)
    {raw : Json}
    {items : List Json}
    (accepted : property.castValue raw = .ok (.array items)) :
    property.type.isCollection = true ∧ ∃ sources, raw = .array sources := by
  cases isCollection : property.type.isCollection with
  | true =>
      exact ⟨rfl, exists_array_of_castValue isCollection accepted⟩
  | false =>
      rw [castValue_of_single isCollection, castItem] at accepted
      rcases builtin with ⟨kind, isKind⟩ | ⟨_, collection⟩
      · rw [isKind] at accepted
        exact absurd accepted CastKind.apply_ne_array
      · rw [isCollection] at collection
        cases collection

/-- Where an array is made with an object among its items, objects are kept as items. -/
theorem castItem_object_of_mem
    (builtin : property.HasBuiltinCast)
    {raw : Json}
    {items : List Json}
    (accepted : property.castValue raw = .ok (.array items))
    {members : List (String × Json)}
    (member : Json.object members ∈ items)
    (others : List (String × Json)) :
    property.castItem (.object others) = .ok (.object others) := by
  obtain ⟨isCollection, _⟩ := exists_of_castValue_array builtin accepted
  obtain ⟨sources, values, castAccepted, same⟩ :=
    exists_of_castValue_collection isCollection accepted
  have isCast : Json.object members ∈ values := by
    cases same
    split at member
    · exact mem_of_mem_dropRepeated member
    · exact member
  obtain ⟨_, _, itemAccepted⟩ := exists_of_castItems castAccepted isCast
  exact castItem_object builtin itemAccepted others

end Property

end RecordSchema
