import Mathlib.Data.List.Forall2
import RecordSchema.Proofs.Cast
import RecordSchema.Proofs.Json.Equality

namespace RecordSchema

/-!
# Collections that are cast

The items of a collection are cast one after the other, and the first one that has no form
refuses the whole.  A list keeps the forms of all its items.  A set keeps of equal forms the one
that stands first.
-/

/-- The items that equal no earlier one, in their order. -/
def Json.firstOccurrences (items : List Json) : List Json :=
  (items.zipIdx.filter fun entry => !(items.take entry.2).contains entry.1).map Prod.fst

namespace Property

variable
  {property : Property}
  {items values kept earlier : List Json}
  {error : CastError}

/-- Items of which one is refused for a reason, while all before it are cast. -/
def FirstRefused (property : Property) (items : List Json) (error : CastError) : Prop :=
  ∃ before item after,
    items = before ++ item :: after ∧
      (∀ other ∈ before, ∃ value, property.castItem other = .ok value) ∧
        property.castItem item = .error error

/-- The forms of items, each at the place of its item. -/
def AreForms (property : Property) (items values : List Json) : Prop :=
  List.Forall₂ (fun item value => property.castItem item = .ok value) items values

theorem not_firstRefused_nil :
    ¬property.FirstRefused [] error := by
  rintro ⟨before, item, after, isNothing, _⟩
  cases before <;> cases isNothing

theorem firstRefused_cons_iff
    {first : Json} :
    property.FirstRefused (first :: items) error ↔
      property.castItem first = .error error ∨
        (∃ value, property.castItem first = .ok value) ∧ property.FirstRefused items error := by
  constructor
  · rintro ⟨before, item, after, shape, accepted, refused⟩
    cases before with
    | nil =>
        cases shape
        exact .inl refused
    | cons head before =>
        cases shape
        obtain ⟨firstAccepted, beforeAccepted⟩ := List.forall_mem_cons.mp accepted
        exact .inr ⟨firstAccepted, before, item, after, rfl, beforeAccepted, refused⟩
  · rintro (refused | ⟨firstAccepted, before, item, after, rfl, accepted, refused⟩)
    · exact ⟨[], first, items, rfl, by simp, refused⟩
    · exact ⟨first :: before, item, after, rfl,
        List.forall_mem_cons.mpr ⟨firstAccepted, accepted⟩, refused⟩

/-- Some item is the first that is refused, if any is refused. -/
theorem exists_firstRefused_iff :
    (∃ error, property.FirstRefused items error) ↔
      ∃ item ∈ items, ∃ error, property.castItem item = .error error := by
  induction items with
  | nil =>
      simp [not_firstRefused_nil]
  | cons first rest inductionHypothesis =>
      simp only [firstRefused_cons_iff, List.exists_mem_cons_iff, ← inductionHypothesis]
      cases property.castItem first <;> simp

/-- Items are refused for the reason of the first one that is. -/
theorem castItems_eq_error_iff :
    property.castItems items = .error error ↔ property.FirstRefused items error := by
  induction items with
  | nil =>
      simp [castItems, not_firstRefused_nil]
  | cons first rest inductionHypothesis =>
      rw [firstRefused_cons_iff, ← inductionHypothesis, castItems]
      cases property.castItem first with
      | error reason =>
          simp
      | ok value =>
          cases property.castItems rest <;> simp

theorem areForms_cons_iff
    {first : Json} :
    property.AreForms (first :: items) values ↔
      ∃ value others,
        property.castItem first = .ok value ∧
          property.AreForms items others ∧ values = value :: others :=
  List.forall₂_cons_left_iff

theorem castItems_eq_ok_iff :
    property.castItems items = .ok values ↔ property.AreForms items values := by
  induction items generalizing values with
  | nil =>
      simp [castItems, AreForms, eq_comm]
  | cons first rest inductionHypothesis =>
      rw [areForms_cons_iff, castItems]
      simp only [← inductionHypothesis]
      cases property.castItem first with
      | error reason =>
          simp
      | ok value =>
          cases property.castItems rest <;> simp [eq_comm]

/-- One more item that equals one of the others is no new member. -/
theorem contains_append_repeated
    {repeated : Json}
    (contained : kept.contains repeated = true)
    (item : Json) :
    (kept ++ [repeated]).contains item = kept.contains item := by
  rw [List.contains_append, List.contains_cons, List.contains_nil, Bool.or_false]
  cases isRepeated : item == repeated with
  | true => rw [List.contains_congr isRepeated, contained, Bool.or_true]
  | false => rw [Bool.or_false]

/-- Whether an item is dropped depends on the items before it, no matter which of them are kept. -/
theorem dropRepeated_eq
    (sameItems : ∀ item : Json, kept.contains item = earlier.contains item) :
    dropRepeated kept items =
      ((items.zipIdx earlier.length).filter fun entry =>
        !((earlier ++ items).take entry.2).contains entry.1).map Prod.fst := by
  induction items generalizing kept earlier with
  | nil =>
      rfl
  | cons first rest inductionHypothesis =>
      have step
          {next : List Json}
          (sameNext : ∀ item : Json, next.contains item = (earlier ++ [first]).contains item) :
          dropRepeated next rest =
            ((rest.zipIdx (earlier.length + 1)).filter fun entry =>
              !((earlier ++ first :: rest).take entry.2).contains entry.1).map Prod.fst := by
        simpa using inductionHypothesis sameNext
      have before : (earlier ++ first :: rest).take earlier.length = earlier :=
        List.take_left
      rw [dropRepeated, List.zipIdx_cons, List.filter_cons, before, ← sameItems]
      cases repeated : kept.contains first with
      | true =>
          refine step fun item => ?_
          rw [List.contains_append, ← sameItems, ← List.contains_append,
            contains_append_repeated repeated]
      | false =>
          refine congrArg (first :: ·) (step fun item => ?_)
          rw [List.contains_append, List.contains_append, sameItems]

/-- What is dropped equals something that is kept. -/
theorem contains_dropRepeated
    (item : Json) :
    (kept ++ dropRepeated kept items).contains item = (kept ++ items).contains item := by
  induction items generalizing kept with
  | nil =>
      rfl
  | cons first rest inductionHypothesis =>
      rw [dropRepeated]
      split
      · rename_i repeated
        rw [inductionHypothesis, List.append_cons, List.contains_append, List.contains_append,
          contains_append_repeated repeated]
      · simpa using @inductionHypothesis (kept ++ [first])

/-- Of equal items one is left. -/
theorem distinct_dropRepeated
    (items : List Json) :
    Json.Distinct (dropRepeated [] items) := by
  apply (pairwise_dropRepeated [] items).2.imp
  intro first second different
  rw [Json.same_comm]
  exact different

/-- What is left of items when each is dropped that equals an earlier one. -/
structure KeepsFirst (items kept : List Json) : Prop where
  first : kept = Json.firstOccurrences items
  ordered : kept.Sublist items
  distinct : Json.Distinct kept
  members : ∀ item : Json, kept.contains item = items.contains item

theorem keepsFirst_dropRepeated
    (items : List Json) :
    KeepsFirst items (dropRepeated [] items) where
  first := dropRepeated_eq fun _ => rfl
  ordered := dropRepeated_sublist
  distinct := distinct_dropRepeated items
  members item := by
    simpa using @contains_dropRepeated items [] item

/-- Which forms are kept is told by the forms alone. -/
theorem keepsFirst_iff :
    KeepsFirst items kept ↔ kept = dropRepeated [] items := by
  constructor
  · intro keeps
    rw [keeps.first, (keepsFirst_dropRepeated items).first]
  · rintro rfl
    exact keepsFirst_dropRepeated items

/-- What a collection holds of the forms of its items: all of them, or in a set each one once. -/
def Keeps (property : Property) (values kept : List Json) : Prop :=
  if property.type = .embeddedlist then kept = values else KeepsFirst values kept

theorem keeps_iff
    (isCollection : property.type.isCollection = true) :
    property.Keeps values kept ↔
      kept = if property.type.isSet then dropRepeated [] values else values := by
  rw [Keeps, keepsFirst_iff]
  cases type : property.type <;> simp_all [PropertyType.isCollection, PropertyType.isSet]

/--
An array is refused exactly if one of its items is, and then for the reason of the first such
item.  Otherwise its value holds the forms of the items, in a set without those that equal an
earlier one.  Nothing but an array is a collection.
-/
theorem collections_cast_itemwise
    (isCollection : property.type.isCollection = true) :
    (∀ items,
      ((∃ error, property.castValue (.array items) = .error error) ↔
          ∃ item ∈ items, ∃ error, property.castItem item = .error error) ∧
        (∀ error,
          property.castValue (.array items) = .error error ↔ property.FirstRefused items error) ∧
          ∀ value,
            property.castValue (.array items) = .ok value ↔
              ∃ values kept,
                property.AreForms items values ∧ property.Keeps values kept ∧
                  value = .array kept) ∧
      ∀ raw,
        (∀ items, raw ≠ .array items) →
        property.castValue raw =
          .error ⟨property.type.name, raw.typeName ++ " is not an array"⟩ := by
  constructor
  · intro items
    have refused_iff (error : CastError) :
        property.castValue (.array items) = .error error ↔ property.FirstRefused items error := by
      rw [castValue_array isCollection, ← castItems_eq_error_iff]
      cases property.castItems items <;> simp [Except.map]
    refine ⟨?_, refused_iff, fun value => ?_⟩
    · simp only [refused_iff]
      exact exists_firstRefused_iff
    · rw [castValue_array isCollection]
      simp only [← castItems_eq_ok_iff, keeps_iff isCollection]
      cases property.castItems items with
      | error error =>
          simp [Except.map]
      | ok values =>
          simpa [Except.map] using eq_comm
  · intro raw notArray
    unfold castValue
    rw [if_pos isCollection]
    cases raw with
    | array items => exact absurd rfl (notArray items)
    | _ => rfl

/-- A set of tags in lower case. -/
def tags : Property where
  name := "tags"
  type := .embeddedset
  cast := some (.builtin .lowercase)
  declaredOn := "Post"

/-- Two spellings of one tag are kept once, and the first item that is no scalar is reported. -/
theorem collections_cast_itemwise_tags :
    tags.type.isCollection = true ∧
      tags.castValue (.array [.string "A", .string " a ", .string "B"]) =
          .ok (.array [.string "a", .string "b"]) ∧
        tags.castValue (.array [.string "A", .null, .array []]) =
            .error ⟨"string", "null"⟩ ∧
          tags.castValue (.string "A") = .error ⟨"embeddedset", "string is not an array"⟩ := by
  have isCollection : tags.type.isCollection = true := rfl
  obtain ⟨arrays, others⟩ := collections_cast_itemwise isCollection
  obtain ⟨_, _, accepted_iff⟩ := arrays [.string "A", .string " a ", .string "B"]
  obtain ⟨_, refused_iff, _⟩ := arrays [.string "A", .null, .array []]
  refine ⟨isCollection, ?_, ?_, others (.string "A") (by simp)⟩
  · refine (accepted_iff _).mpr
      ⟨[.string "a", .string "a", .string "b"], [.string "a", .string "b"], ?_, ?_, rfl⟩
    · exact .cons rfl (.cons rfl (.cons rfl .nil))
    · exact (keeps_iff isCollection).mpr rfl
  · exact (refused_iff _).mpr
      ⟨[.string "A"], .null, [.array []], rfl, by simpa using ⟨.string "a", rfl⟩, rfl⟩

end Property

end RecordSchema
