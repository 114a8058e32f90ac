import RecordSchema.Proofs.SortedMap
import RecordSchema.Registry.Linking

namespace RecordSchema

/-!
# Flags of indices

A property has two flags, which indices set.  What further flags a property or a map
of properties has got is said by a condition, and nothing but the flags has changed.
-/

namespace Property

/-- Whether the flag of full text indices, or that of the others, is set. -/
def hasFlag (fulltext : Bool) (property : Property) : Bool :=
  if fulltext then property.fulltextIndexed else property.indexed

/-- The property without the flags of indices. -/
def unflagged (property : Property) : Property :=
  { property with indexed := false, fulltextIndexed := false }

/-- A property is what it is without flags, and its flags. -/
theorem eq_iff_unflagged_and_hasFlag
    {first second : Property} :
    first = second ↔
      first.unflagged = second.unflagged ∧
        ∀ fulltext, first.hasFlag fulltext = second.hasFlag fulltext := by
  constructor
  · rintro rfl
    exact ⟨rfl, fun _ => rfl⟩
  · rintro ⟨sameRest, sameFlags⟩
    have sameIndexed : first.indexed = second.indexed := sameFlags false
    have sameFulltext : first.fulltextIndexed = second.fulltextIndexed := sameFlags true
    cases first
    cases second
    simp_all [unflagged]

theorem declaredOn_eq_of_unflagged
    {first second : Property}
    (sameRest : first.unflagged = second.unflagged) :
    first.declaredOn = second.declaredOn := by
  change first.unflagged.declaredOn = second.unflagged.declaredOn
  rw [sameRest]

theorem hasFlag_eq_false
    {property : Property}
    (bare : property.unflagged = property)
    (fulltext : Bool) :
    property.hasFlag fulltext = false := by
  rw [← bare, hasFlag]
  split <;> rfl

/-- A property with further flags: those for which a condition holds, and no others. -/
structure Flagged (condition : Bool → Prop) (before after : Property) : Prop where
  unflagged : after.unflagged = before.unflagged
  hasFlag :
    ∀ fulltext,
      after.hasFlag fulltext = true ↔ before.hasFlag fulltext = true ∨ condition fulltext

namespace Flagged

theorem refl
    {condition : Bool → Prop}
    (never : ∀ fulltext, ¬condition fulltext)
    (property : Property) :
    Flagged condition property property :=
  ⟨rfl, fun fulltext => by simp [never]⟩

theorem trans
    {first second both : Bool → Prop}
    {before between after : Property}
    (either : ∀ fulltext, both fulltext ↔ first fulltext ∨ second fulltext)
    (earlier : Flagged first before between)
    (later : Flagged second between after) :
    Flagged both before after where
  unflagged := later.unflagged.trans earlier.unflagged
  hasFlag fulltext := by
    rw [later.hasFlag, earlier.hasFlag, either, or_assoc]

theorem congr
    {first second : Bool → Prop}
    {before after : Property}
    (same : ∀ fulltext, first fulltext ↔ second fulltext)
    (flagged : Flagged first before after) :
    Flagged second before after :=
  ⟨flagged.unflagged, fun fulltext => by rw [flagged.hasFlag, same]⟩

end Flagged

theorem flagged_markIndexed
    (fulltext : Bool)
    (property : Property) :
    Flagged (· = fulltext) property (property.markIndexed fulltext) where
  unflagged := by
    cases fulltext <;> rfl
  hasFlag other := by
    cases fulltext <;> cases other <;> simp [Property.hasFlag, markIndexed]

end Property

open Property (Flagged)

/-- Maps whose properties differ by the flags that a condition on their names gives them. -/
structure FlaggedMap
    (condition : String → Bool → Prop)
    (before after : SortedMap Property) : Prop where
  absent : ∀ name, before.get? name = none → after.get? name = none
  present :
    ∀ name property,
      before.get? name = some property →
      ∃ flagged, after.get? name = some flagged ∧ Flagged (condition name) property flagged

namespace FlaggedMap

theorem refl
    {condition : String → Bool → Prop}
    (never : ∀ name fulltext, ¬condition name fulltext)
    (map : SortedMap Property) :
    FlaggedMap condition map map where
  absent _ missing := missing
  present name property found := ⟨property, found, .refl (never name) property⟩

theorem trans
    {first second both : String → Bool → Prop}
    {before between after : SortedMap Property}
    (either :
      ∀ name fulltext, both name fulltext ↔ first name fulltext ∨ second name fulltext)
    (earlier : FlaggedMap first before between)
    (later : FlaggedMap second between after) :
    FlaggedMap both before after where
  absent name missing := later.absent name (earlier.absent name missing)
  present name property found := by
    obtain ⟨middle, middleFound, earlierFlagged⟩ := earlier.present name property found
    obtain ⟨flagged, flaggedFound, laterFlagged⟩ := later.present name middle middleFound
    exact ⟨flagged, flaggedFound, earlierFlagged.trans (either name) laterFlagged⟩

theorem congr
    {first second : String → Bool → Prop}
    {before after : SortedMap Property}
    (same : ∀ name fulltext, first name fulltext ↔ second name fulltext)
    (flaggedMap : FlaggedMap first before after) :
    FlaggedMap second before after where
  absent := flaggedMap.absent
  present name property found := by
    obtain ⟨flagged, flaggedFound, isFlagged⟩ := flaggedMap.present name property found
    exact ⟨flagged, flaggedFound, isFlagged.congr (same name)⟩

/-- Each property afterwards was there before, without the further flags. -/
theorem origin
    {condition : String → Bool → Prop}
    {before after : SortedMap Property}
    (flaggedMap : FlaggedMap condition before after)
    {name : String}
    {flagged : Property}
    (found : after.get? name = some flagged) :
    ∃ property, before.get? name = some property ∧ Flagged (condition name) property flagged := by
  cases earlier : before.get? name with
  | none =>
      rw [flaggedMap.absent name earlier] at found
      cases found
  | some property =>
      obtain ⟨other, otherFound, isFlagged⟩ := flaggedMap.present name property earlier
      rw [otherFound] at found
      cases found
      exact ⟨property, rfl, isFlagged⟩

theorem unflagged_eq
    {condition : String → Bool → Prop}
    {before after : SortedMap Property}
    (flaggedMap : FlaggedMap condition before after)
    (name : String) :
    (after.get? name).map Property.unflagged = (before.get? name).map Property.unflagged := by
  cases earlier : before.get? name with
  | none =>
      rw [flaggedMap.absent name earlier]
  | some property =>
      obtain ⟨flagged, found, isFlagged⟩ := flaggedMap.present name property earlier
      rw [found, Option.map_some, Option.map_some, isFlagged.unflagged]

theorem declaredOn_eq
    {condition : String → Bool → Prop}
    {before after : SortedMap Property}
    (flaggedMap : FlaggedMap condition before after)
    (name : String) :
    (after.get? name).map Property.declaredOn = (before.get? name).map Property.declaredOn := by
  have sameRest := congrArg (Option.map Property.declaredOn) (flaggedMap.unflagged_eq name)
  rwa [Option.map_map, Option.map_map] at sameRest

theorem contains_eq
    {condition : String → Bool → Prop}
    {before after : SortedMap Property}
    (flaggedMap : FlaggedMap condition before after)
    (name : String) :
    after.contains name = before.contains name := by
  have sameRest := congrArg Option.isSome (flaggedMap.unflagged_eq name)
  rwa [Option.isSome_map, Option.isSome_map] at sameRest

/-- The modification of one property flags it alone. -/
theorem modify
    {condition : Bool → Prop}
    (map : SortedMap Property)
    (modified : String)
    (change : Property → Property)
    (changes :
      ∀ property, map.get? modified = some property → Flagged condition property (change property)) :
    FlaggedMap (fun name fulltext => name = modified ∧ condition fulltext) map
      (map.modify modified change) where
  absent name missing := by
    rw [SortedMap.get?_modify, missing]
    simp
  present name property found := by
    rw [SortedMap.get?_modify, found]
    by_cases atModified : name = modified
    · subst atModified
      exact ⟨change property, by simp, (changes property found).congr fun _ => by simp⟩
    · exact ⟨property, by simp [atModified], .refl (by simp [atModified]) property⟩

end FlaggedMap

end RecordSchema
