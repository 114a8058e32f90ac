namespace RecordSchema

/-!
# Maps sorted by name

A map from names to values is a list of entries whose keys increase strictly by
code point.  The order is part of every answer, and two maps with the same
look-ups are equal.
-/

/-- Entries whose keys increase strictly. -/
structure SortedMap (α : Type u) where
  entries : List (String × α)
  sorted : entries.Pairwise fun first second => first.1 < second.1

namespace SortedMap

variable {α β : Type u}

/-- Put a value under a key, in place of an earlier one. -/
def insertEntry (key : String) (value : α) : List (String × α) → List (String × α)
  | [] => [(key, value)]
  | (firstKey, first) :: rest =>
      if key < firstKey then
        (key, value) :: (firstKey, first) :: rest
      else if key = firstKey then
        (key, value) :: rest
      else
        (firstKey, first) :: insertEntry key value rest

/-- An entry after an insertion is the inserted one or an earlier one. -/
theorem mem_insertEntry
    {key : String} {value : α} {entry : String × α} {entries : List (String × α)}
    (member : entry ∈ insertEntry key value entries) :
    entry = (key, value) ∨ entry ∈ entries := by
  induction entries with
  | nil => simpa [insertEntry] using member
  | cons first rest inductionHypothesis =>
      obtain ⟨firstKey, first⟩ := first
      rw [insertEntry] at member
      split at member
      · simpa using member
      · split at member
        · rcases List.mem_cons.mp member with rfl | later
          · exact .inl rfl
          · exact .inr (List.mem_cons_of_mem _ later)
        · rcases List.mem_cons.mp member with rfl | later
          · exact .inr List.mem_cons_self
          · rcases inductionHypothesis later with rfl | earlier
            · exact .inl rfl
            · exact .inr (List.mem_cons_of_mem _ earlier)

/-- Insertion keeps the keys in order. -/
theorem sorted_insertEntry
    (key : String) (value : α) {entries : List (String × α)}
    (sorted : entries.Pairwise fun first second => first.1 < second.1) :
    (insertEntry key value entries).Pairwise fun first second => first.1 < second.1 := by
  induction entries with
  | nil => simp [insertEntry]
  | cons first rest inductionHypothesis =>
      obtain ⟨firstKey, first⟩ := first
      obtain ⟨before, restSorted⟩ := List.pairwise_cons.mp sorted
      rw [insertEntry]
      split
      · rename_i smaller
        refine List.pairwise_cons.mpr ⟨fun entry member => ?_, sorted⟩
        rcases List.mem_cons.mp member with rfl | later
        · exact smaller
        · exact String.lt_trans smaller (before entry later)
      · split
        · rename_i equal
          subst equal
          exact List.pairwise_cons.mpr ⟨before, restSorted⟩
        · rename_i notSmaller notEqual
          refine List.pairwise_cons.mpr ⟨fun entry member => ?_, inductionHypothesis restSorted⟩
          rcases mem_insertEntry member with rfl | earlier
          · exact Std.lt_of_le_of_ne (String.not_lt.mp notSmaller) fun equal => notEqual equal.symm
          · exact before entry earlier

/-- The map without entries. -/
def empty : SortedMap α :=
  ⟨[], List.Pairwise.nil⟩

instance : Inhabited (SortedMap α) :=
  ⟨empty⟩

instance : EmptyCollection (SortedMap α) :=
  ⟨empty⟩

instance [Repr α] : Repr (SortedMap α) :=
  ⟨fun map precedence => reprPrec map.entries precedence⟩

/-- Put a value under a key, in place of an earlier one. -/
def insert (map : SortedMap α) (key : String) (value : α) : SortedMap α :=
  ⟨insertEntry key value map.entries, sorted_insertEntry key value map.sorted⟩

/-- The value under a key. -/
def get? (map : SortedMap α) (key : String) : Option α :=
  map.entries.lookup key

/-- Whether a key has a value. -/
def contains (map : SortedMap α) (key : String) : Bool :=
  (map.get? key).isSome

/-- The keys in order. -/
def keys (map : SortedMap α) : List String :=
  map.entries.map Prod.fst

/-- The values in the order of their keys. -/
def values (map : SortedMap α) : List α :=
  map.entries.map Prod.snd

/-- How many entries there are. -/
def size (map : SortedMap α) : Nat :=
  map.entries.length

/-- The map of a list of entries; of a repeated key the last value counts. -/
def ofList (entries : List (String × α)) : SortedMap α :=
  entries.foldl (fun map entry => map.insert entry.1 entry.2) empty

/-- A changed value under every key. -/
def mapValues (change : String → α → β) (map : SortedMap α) : SortedMap β :=
  ⟨map.entries.map fun entry => (entry.1, change entry.1 entry.2),
    List.pairwise_map.mpr map.sorted⟩

/-- A changed value under one key, if there is one. -/
def modify (map : SortedMap α) (key : String) (change : α → α) : SortedMap α :=
  map.mapValues fun candidate value => if candidate = key then change value else value

end SortedMap

end RecordSchema
