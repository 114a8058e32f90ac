import RecordSchema.Json.Field
import RecordSchema.Json.Object
import RecordSchema.Proofs.SortedMap

namespace RecordSchema

/-!
# Fields that are read as they are written

What is read of a document is read of its parts.  An object is built from members, of which
each is found under its key.  A reader of fields gets what the value under its name is read
as, so a field that is written is read back as soon as its value is.
-/

theorem uint64OfInt?_toNat
    (value : UInt64) :
    uint64OfInt? value.toNat = some value := by
  have bounded := value.toNat_lt
  have fits : (0 ≤ (value.toNat : Int) && (value.toNat : Int) < Int.ofNat UInt64.size) = true := by
    simp only [UInt64.size, Int.ofNat_eq_natCast, Bool.and_eq_true, decide_eq_true_eq]
    omega
  rw [uint64OfInt?, fits, if_pos rfl, Int.toNat_natCast, UInt64.ofNat_toNat]

theorem uint8OfInt?_toNat
    (value : UInt8) :
    uint8OfInt? value.toNat = some value := by
  have bounded := value.toNat_lt
  have fits : (0 ≤ (value.toNat : Int) && (value.toNat : Int) < Int.ofNat UInt8.size) = true := by
    simp only [UInt8.size, Int.ofNat_eq_natCast, Bool.and_eq_true, decide_eq_true_eq]
    omega
  rw [uint8OfInt?, fits, if_pos rfl, Int.toNat_natCast, UInt8.ofNat_toNat]

namespace SortedMap

variable
  {α : Type u}

@[simp] theorem get?_ofList_append
    (first second : List (String × α))
    (key : String) :
    (ofList (first ++ second)).get? key =
      ((ofList second).get? key).or ((ofList first).get? key) := by
  rw [get?_ofList, get?_ofList, get?_ofList, List.reverse_append, List.lookup_append]

@[simp] theorem get?_ofList_cons
    (first : String × α)
    (rest : List (String × α))
    (key : String) :
    (ofList (first :: rest)).get? key =
      ((ofList rest).get? key).or (if key = first.1 then some first.2 else none) := by
  rw [get?_ofList, get?_ofList, List.reverse_cons, List.lookup_append, lookup_cons_eq]
  rfl

@[simp] theorem get?_ofList_nil
    (key : String) :
    (ofList ([] : List (String × α))).get? key = none :=
  rfl

end SortedMap

namespace Json

@[simp] theorem get?_ofList_optionalMember
    (name : String)
    (value : Option Json)
    (key : String) :
    (SortedMap.ofList (optionalMember name value)).get? key =
      if key = name then value else none := by
  cases value with
  | none => simp [optionalMember]
  | some value => simp [optionalMember, SortedMap.get?_ofList_cons]

namespace Document

/-- An item of an array, or what an object has under a key. -/
inductive IsPartOf : Document → Document → Prop where
  | item
      {part : Document}
      {items : List Document} :
      part ∈ items →
      IsPartOf part (.array items)
  | member
      {member : Option String × Document}
      {members : List (Option String × Document)} :
      member ∈ members →
      IsPartOf member.2 (.object members)

theorem exists_of_collect?
    {read : α → Option β}
    {items : List α}
    {values : List β}
    (collected : collect? read items = some values)
    {value : β}
    (member : value ∈ values) :
    ∃ item ∈ items, read item = some value := by
  induction items generalizing values with
  | nil =>
      cases collected
      cases member
  | cons first rest inductionHypothesis =>
      rw [collect?] at collected
      split at collected
      · rename_i firstValue restValues firstRead restRead
        cases collected
        rcases List.mem_cons.mp member with rfl | later
        · exact ⟨first, List.mem_cons_self, firstRead⟩
        · obtain ⟨item, itemMember, itemRead⟩ := inductionHypothesis restRead later
          exact ⟨item, List.mem_cons_of_mem _ itemMember, itemRead⟩
      · cases collected

theorem toMember?_eq_some_iff
    {read : Document → Option α}
    {member : Option String × Document}
    {entry : String × α} :
    toMember? read member = some entry ↔
      member.1 = some entry.1 ∧ read member.2 = some entry.2 := by
  rw [toMember?]
  cases member.1 <;> cases read member.2 <;> simp [Prod.ext_iff]

variable
  {read : Document → Option α}
  {document : Document}
  {value : α}

/-- Each value of a list is read of a part. -/
theorem exists_of_toList?
    {values : List α}
    (isRead : document.toList? read = some values)
    (member : value ∈ values) :
    ∃ part, part.IsPartOf document ∧ read part = some value := by
  cases document with
  | array items =>
      obtain ⟨item, inItems, itemRead⟩ := exists_of_collect? isRead member
      exact ⟨item, .item inItems, itemRead⟩
  | scalar _ => cases isRead
  | object _ => cases isRead

/-- Each value of a map is read of a part. -/
theorem exists_of_toMap?
    {map : SortedMap α}
    (isRead : document.toMap? read = some map)
    {key : String}
    (found : map.get? key = some value) :
    ∃ part, part.IsPartOf document ∧ read part = some value := by
  cases document with
  | object members =>
      obtain ⟨entries, collected, rfl⟩ := Option.map_eq_some_iff.mp isRead
      obtain ⟨member, inMembers, memberRead⟩ :=
        exists_of_collect? collected (SortedMap.mem_of_get?_ofList found)
      exact ⟨member.2, .member inMembers, (toMember?_eq_some_iff.mp memberRead).2⟩
  | scalar _ => cases isRead
  | array _ => cases isRead

/-- Each field is a part. -/
theorem isPartOf_of_fields?
    {names : List String}
    {fields : List (String × Document)}
    (isRead : document.fields? names = some fields)
    {field : String × Document}
    (member : field ∈ fields) :
    field.2.IsPartOf document := by
  cases document with
  | scalar _ => cases isRead
  | array items =>
      rw [fields?] at isRead
      split at isRead
      · cases isRead
        exact .item (List.of_mem_zip member).2
      · cases isRead
  | object members =>
      obtain ⟨source, inMembers, sourceRead⟩ := exists_of_collect? isRead member
      rw [← Option.some.inj (toMember?_eq_some_iff.mp sourceRead).2]
      exact .member inMembers

/-- An optional value that is there is read of a document other than null. -/
theorem toOptional?_eq_some
    (isRead : document.toOptional? read = some (some value)) :
    document ≠ .scalar (some .null) ∧ read document = some value := by
  rw [toOptional?.eq_def] at isRead
  split at isRead
  · cases isRead
  · rename_i notNull
    obtain ⟨other, otherRead, same⟩ := Option.map_eq_some_iff.mp isRead
    cases same
    exact ⟨notNull, otherRead⟩

end Document

/-- What a field has is its default or read of one of the fields. -/
theorem Fields.withDefault?_eq_some
    {fields : Fields}
    {name : String}
    {absent value : α}
    {read : Document → Option α}
    (isRead : fields.withDefault? name absent read = some value) :
    value = absent ∨ ∃ field ∈ fields, read field.2 = some value := by
  rw [withDefault?] at isRead
  split at isRead
  · cases isRead
    exact .inl rfl
  · rename_i document isWritten
    have inWritten : document ∈ fields.written name := by simp [isWritten]
    obtain ⟨field, inFields, chosen⟩ := List.mem_filterMap.mp inWritten
    split at chosen
    · cases chosen
      exact .inr ⟨field, inFields, isRead⟩
    · cases chosen
  · cases isRead

namespace Document

theorem collect?_map
    {read : β → Option γ}
    {write : α → β}
    {result : α → γ}
    {items : List α}
    (isRead : ∀ item ∈ items, read (write item) = some (result item)) :
    collect? read (items.map write) = some (items.map result) := by
  induction items with
  | nil =>
      rfl
  | cons first rest inductionHypothesis =>
      rw [List.map_cons, collect?, isRead first List.mem_cons_self,
        inductionHypothesis fun item member => isRead item (List.mem_cons_of_mem _ member)]
      rfl

theorem ofItems_eq_map
    (items : List Json) :
    ofItems items = items.map ofJson := by
  induction items with
  | nil =>
      rfl
  | cons first rest inductionHypothesis =>
      rw [ofItems, inductionHypothesis, List.map_cons]

theorem ofMembers_eq_map
    (members : List (String × Json)) :
    ofMembers members = members.map fun member => (some member.1, ofJson member.2) := by
  induction members with
  | nil =>
      rfl
  | cons first rest inductionHypothesis =>
      rw [ofMembers, inductionHypothesis, List.map_cons]

/-- The items of an array are read back if each of them is. -/
theorem toList?_array
    {read : Document → Option α}
    {write : α → Json}
    {items : List α}
    (isRead : ∀ item ∈ items, read (ofJson (write item)) = some item) :
    toList? read (ofJson (.array (items.map write))) = some items := by
  have read : collect? read (items.map (ofJson ∘ write)) = some (items.map id) :=
    collect?_map isRead
  rw [ofJson, toList?, ofItems_eq_map, List.map_map, read, List.map_id]

theorem toList?_ofStrings
    (texts : List String) :
    toList? toText? (ofJson (ofStrings texts)) = some texts :=
  toList?_array fun _ _ => rfl

/-- The members of an object are read back if each of them is. -/
theorem toMap?_object
    {read : Document → Option α}
    {write : String → α → Json}
    {map : SortedMap α}
    (isRead :
      ∀ key value, map.get? key = some value → read (ofJson (write key value)) = some value) :
    toMap? read (ofJson (.object (map.mapValues write).entries)) = some map := by
  have entries :
      collect? (toMember? read)
          (map.entries.map fun entry => (some entry.1, ofJson (write entry.1 entry.2))) =
        some (map.entries.map id) :=
    collect?_map fun entry member =>
      toMember?_eq_some_iff.mpr ⟨rfl, isRead _ _ (SortedMap.get?_eq_some_iff.mpr member)⟩
  rw [ofJson, toMap?, ofMembers_eq_map, SortedMap.mapValues, List.map_map]
  exact (congrArg (Option.map SortedMap.ofList) entries).trans
    (by rw [List.map_id, Option.map_some, SortedMap.ofList_entries])

theorem toInt64?_ofInt64
    (value : Int64) :
    toInt64? (ofJson (.ofInt64 value)) = some value :=
  int64OfInt?_toInt value

theorem toInteger?_ofNat
    (value : Nat) :
    toInteger? (ofJson (.ofNat value)) = some (value : Int) :=
  rfl

theorem toUInt64?_ofNat
    (value : UInt64) :
    toUInt64? (ofJson (.ofNat value.toNat)) = some value := by
  rw [toUInt64?, toInteger?_ofNat, Option.bind_some, uint64OfInt?_toNat]

theorem toUInt8?_ofNat
    (value : UInt8) :
    toUInt8? (ofJson (.ofNat value.toNat)) = some value := by
  rw [toUInt8?, toInteger?_ofNat, Option.bind_some, uint8OfInt?_toNat]

/-- A value other than null is read where it may be left out. -/
theorem toOptional?_ofJson
    {read : Document → Option α}
    {value : Json}
    (isPresent : value.isNull = false) :
    toOptional? read (ofJson value) = (read (ofJson value)).map some := by
  cases value with
  | null => cases isPresent
  | _ => rfl

/-- The fields of an object with the names of its members. -/
theorem fields?_object
    (names : List String)
    (members : List (String × Json)) :
    fields? names (ofJson (.object members)) =
      some (members.map fun member => (member.1, ofJson member.2)) := by
  rw [ofJson, fields?, ofMembers_eq_map]
  exact collect?_map fun _ _ => rfl

end Document

namespace Fields

/-- The fields that a map of members is read as. -/
def ofMap (members : SortedMap Json) : Fields :=
  members.entries.map fun member => (member.1, .ofJson member.2)

variable
  {members : SortedMap Json}
  {name : String}
  {value : Json}

/-- What is written for a field is the member of its name. -/
theorem written_ofMap
    (members : SortedMap Json)
    (name : String) :
    (ofMap members).written name = ((members.get? name).map Document.ofJson).toList := by
  have chosen :
      (ofMap members).written name =
        ((members.entries.filter fun entry => entry.1 = name).map Prod.snd).map
          Document.ofJson := by
    rw [written, ofMap, List.filterMap_map, List.map_map, ← List.filterMap_eq_map,
      List.filterMap_filter]
    simp [Function.comp_def]
  rw [chosen, SortedMap.map_filter_entries]
  cases members.get? name <;> rfl

theorem required?_ofMap
    {read : Document → Option α}
    {result : α}
    (found : members.get? name = some value)
    (isRead : read (.ofJson value) = some result) :
    required? (ofMap members) name read = some result := by
  rw [required?, written_ofMap, found]
  exact isRead

theorem withDefault?_ofMap
    {read : Document → Option α}
    {result : α}
    (absent : α)
    (found : members.get? name = some value)
    (isRead : read (.ofJson value) = some result) :
    withDefault? (ofMap members) name absent read = some result := by
  rw [withDefault?, written_ofMap, found]
  exact isRead

/-- An optional field is read back, also where it is left out. -/
theorem optional?_ofMap
    {read : Document → Option α}
    {write : α → Json}
    {result : Option α}
    (found : members.get? name = result.map write)
    (isRead :
      ∀ value, result = some value →
        (write value).isNull = false ∧ read (.ofJson (write value)) = some value) :
    optional? (ofMap members) name read = some result := by
  rw [optional?, withDefault?, written_ofMap, found]
  cases result with
  | none =>
      rfl
  | some value =>
      obtain ⟨isPresent, valueRead⟩ := isRead value rfl
      change Document.toOptional? read (.ofJson (write value)) = _
      rw [Document.toOptional?_ofJson isPresent, valueRead, Option.map_some]

theorem requiredText?_ofMap
    {text : String}
    (found : members.get? name = some (.string text)) :
    required? (ofMap members) name Document.toText? = some text :=
  required?_ofMap found rfl

theorem flag?_ofMap
    {absent flag : Bool}
    (found : members.get? name = some (.bool flag)) :
    withDefault? (ofMap members) name absent Document.toBool? = some flag :=
  withDefault?_ofMap absent found rfl

theorem optionalText?_ofMap
    {text : Option String}
    (found : members.get? name = text.map .string) :
    optional? (ofMap members) name Document.toText? = some text :=
  optional?_ofMap found fun _ _ => ⟨rfl, rfl⟩

theorem optionalInt64?_ofMap
    {number : Option Int64}
    (found : members.get? name = number.map .ofInt64) :
    optional? (ofMap members) name Document.toInt64? = some number :=
  optional?_ofMap found fun value _ => ⟨rfl, Document.toInt64?_ofInt64 value⟩

theorem optionalValue?_ofMap
    {value : Option Json}
    (found : members.get? name = value)
    (isRead :
      ∀ set, value = some set → set.isNull = false ∧ (Document.ofJson set).toJson? = some set) :
    optional? (ofMap members) name Document.toJson? = some value := by
  refine optional?_ofMap (found.trans ?_) isRead
  rw [Option.map_id']

end Fields

end Json

end RecordSchema
