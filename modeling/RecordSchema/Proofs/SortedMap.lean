import RecordSchema.SortedMap

namespace RecordSchema

/-!
# Look-ups in sorted maps

Every operation on a sorted map is described by what the look-ups afterwards
give.  The entries are exactly the successful look-ups.
-/

namespace SortedMap

variable {α β : Type u}

/-- A look-up stops at the first entry with its key. -/
theorem lookup_cons_eq
    (query : String)
    (first : String × α)
    (rest : List (String × α)) :
    (first :: rest).lookup query =
      if query = first.1 then some first.2 else rest.lookup query := by
  obtain ⟨key, value⟩ := first
  rw [List.lookup_cons]
  by_cases atFirst : query = key
  · simp [atFirst]
  · have different : (query == key) = false :=
      beq_false_of_ne atFirst
    simp [different, atFirst]

/-- The keys increase strictly. -/
theorem keys_pairwise
    (map : SortedMap α) :
    map.keys.Pairwise (· < ·) :=
  List.pairwise_map.mpr map.sorted

theorem keys_nodup
    (map : SortedMap α) :
    map.keys.Nodup :=
  map.keys_pairwise.imp fun less => String.ne_of_lt less

theorem entries_nodup
    (map : SortedMap α) :
    map.entries.Nodup :=
  map.sorted.imp fun less same => String.ne_of_lt less (congrArg Prod.fst same)

/-- A list of entries with strictly increasing keys gives each entry on look-up. -/
private theorem lookup_eq_some_of_mem
    {entries : List (String × α)}
    (sorted : entries.Pairwise fun first second => first.1 < second.1)
    {key : String}
    {value : α}
    (member : (key, value) ∈ entries) :
    entries.lookup key = some value := by
  induction entries with
  | nil =>
      simp at member
  | cons first rest inductionHypothesis =>
      obtain ⟨before, restSorted⟩ := List.pairwise_cons.mp sorted
      rcases List.mem_cons.mp member with rfl | later
      · simp
      · have different : key ≠ first.1 :=
          (String.ne_of_lt (before _ later)).symm
        rw [lookup_cons_eq, if_neg different]
        exact inductionHypothesis restSorted later

/-- The entries are the successful look-ups. -/
theorem get?_eq_some_iff
    {map : SortedMap α}
    {key : String}
    {value : α} :
    map.get? key = some value ↔ (key, value) ∈ map.entries := by
  constructor
  · intro found
    obtain ⟨before, after, shape, _⟩ := List.lookup_eq_some_iff.mp found
    rw [shape]
    simp
  · exact lookup_eq_some_of_mem map.sorted

theorem get?_eq_none_iff
    {map : SortedMap α}
    {key : String} :
    map.get? key = none ↔ key ∉ map.keys := by
  rw [get?, List.lookup_eq_none_iff, keys, List.mem_map]
  constructor
  · rintro absent ⟨entry, member, rfl⟩
    simpa using absent entry member
  · intro absent entry member
    exact bne_iff_ne.mpr fun same => absent ⟨entry, member, same.symm⟩

theorem mem_keys_iff
    {map : SortedMap α}
    {key : String} :
    key ∈ map.keys ↔ ∃ value, map.get? key = some value := by
  rw [← Option.isSome_iff_exists, ← Option.ne_none_iff_isSome, ne_eq,
    get?_eq_none_iff, Decidable.not_not]

theorem contains_iff
    {map : SortedMap α}
    {key : String} :
    map.contains key = true ↔ ∃ value, map.get? key = some value :=
  Option.isSome_iff_exists

theorem contains_eq_false_iff
    {map : SortedMap α}
    {key : String} :
    map.contains key = false ↔ map.get? key = none := by
  simp [contains]

theorem mem_values_iff
    {map : SortedMap α}
    {value : α} :
    value ∈ map.values ↔ ∃ key, map.get? key = some value := by
  simp [values, get?_eq_some_iff]

/-- The values of the entries with a key are the one that the look-up gives. -/
theorem map_filter_entries
    (map : SortedMap α)
    (key : String) :
    (map.entries.filter fun entry => entry.1 = key).map Prod.snd = (map.get? key).toList := by
  have among :
      ∀ entries : List (String × α),
        (entries.Pairwise fun first second => first.1 < second.1) →
          (entries.filter fun entry => entry.1 = key).map Prod.snd =
            (entries.lookup key).toList := by
    intro entries sorted
    induction entries with
    | nil =>
        rfl
    | cons first rest inductionHypothesis =>
        obtain ⟨before, restSorted⟩ := List.pairwise_cons.mp sorted
        rw [List.filter_cons, lookup_cons_eq]
        by_cases atFirst : first.1 = key
        · have noOther : (rest.filter fun entry => entry.1 = key) = [] := by
            rw [List.filter_eq_nil_iff]
            intro entry member
            simpa [atFirst] using (String.ne_of_lt (before entry member)).symm
          simp [atFirst, noOther]
        · simp [atFirst, Ne.symm atFirst, inductionHypothesis restSorted]
  exact among map.entries map.sorted

@[simp] theorem get?_empty
    (key : String) :
    (empty : SortedMap α).get? key = none :=
  rfl

theorem get?_insert
    (map : SortedMap α)
    (key query : String)
    (value : α) :
    (map.insert key value).get? query =
      if query = key then some value else map.get? query := by
  obtain ⟨entries, sorted⟩ := map
  change List.lookup query (insertEntry key value entries) =
    if query = key then some value else List.lookup query entries
  clear sorted
  induction entries with
  | nil =>
      rw [insertEntry, lookup_cons_eq]
  | cons first rest inductionHypothesis =>
      rw [insertEntry]
      split
      · rw [lookup_cons_eq]
      · split
        · rename_i sameKey
          rw [lookup_cons_eq, lookup_cons_eq]
          split
          · rfl
          · rename_i otherKey
            rw [if_neg (sameKey ▸ otherKey)]
        · rename_i otherKey
          rw [lookup_cons_eq, lookup_cons_eq, inductionHypothesis]
          by_cases atFirst : query = first.1
          · simp [atFirst, Ne.symm otherKey]
          · simp [atFirst]

/-- Insertion changes nothing of what only the other entries, or the earlier value, give. -/
theorem flatMap_insertEntry
    {pieces : String × α → List β}
    {key : String}
    {value : α}
    {entries : List (String × α)}
    (sorted : entries.Pairwise fun first second => first.1 < second.1)
    (same :
      pieces (key, value) =
        (entries.lookup key).toList.flatMap fun earlier => pieces (key, earlier)) :
    (insertEntry key value entries).flatMap pieces = entries.flatMap pieces := by
  induction entries with
  | nil =>
      simpa [insertEntry] using same
  | cons first rest inductionHypothesis =>
      obtain ⟨firstKey, first⟩ := first
      obtain ⟨before, restSorted⟩ := List.pairwise_cons.mp sorted
      rw [lookup_cons_eq] at same
      rw [insertEntry]
      split
      · rename_i smaller
        have absent : rest.lookup key = none := by
          rw [List.lookup_eq_none_iff]
          intro entry member
          simpa using String.ne_of_lt (String.lt_trans smaller (before entry member))
        rw [if_neg (String.ne_of_lt smaller), absent] at same
        rw [List.flatMap_cons, same]
        rfl
      · split
        · rename_i sameKey
          subst sameKey
          rw [if_pos rfl] at same
          rw [List.flatMap_cons, List.flatMap_cons, same]
          simp
        · rename_i otherKey
          rw [if_neg otherKey] at same
          rw [List.flatMap_cons, List.flatMap_cons, inductionHypothesis restSorted same]

@[simp] theorem get?_insert_self
    (map : SortedMap α)
    (key : String)
    (value : α) :
    (map.insert key value).get? key = some value := by
  simp [get?_insert]

theorem get?_insert_of_ne
    (map : SortedMap α)
    {key query : String}
    (different : query ≠ key)
    (value : α) :
    (map.insert key value).get? query = map.get? query := by
  simp [get?_insert, different]

@[simp] theorem get?_mapValues
    (change : String → α → β)
    (map : SortedMap α)
    (key : String) :
    (map.mapValues change).get? key = (map.get? key).map (change key) := by
  obtain ⟨entries, sorted⟩ := map
  change List.lookup key (entries.map fun entry => (entry.1, change entry.1 entry.2)) =
    (List.lookup key entries).map (change key)
  clear sorted
  induction entries with
  | nil =>
      rfl
  | cons first rest inductionHypothesis =>
      rw [List.map_cons, lookup_cons_eq, lookup_cons_eq, inductionHypothesis]
      by_cases atFirst : key = first.1 <;> simp [atFirst]

theorem get?_modify
    (map : SortedMap α)
    (key query : String)
    (change : α → α) :
    (map.modify key change).get? query =
      if query = key then (map.get? query).map change else map.get? query := by
  rw [modify, get?_mapValues]
  split <;> simp

/-- After the insertion of several entries the last one with a key counts. -/
theorem get?_foldl_insert
    (map : SortedMap α)
    (entries : List (String × α))
    (key : String) :
    (entries.foldl (fun map entry => map.insert entry.1 entry.2) map).get? key =
      (entries.reverse.lookup key).or (map.get? key) := by
  induction entries generalizing map with
  | nil =>
      simp
  | cons first rest inductionHypothesis =>
      rw [List.foldl_cons, inductionHypothesis, get?_insert, List.reverse_cons,
        List.lookup_append, lookup_cons_eq, Option.or_assoc]
      by_cases atFirst : key = first.1 <;> simp [atFirst]

/-- A list of entries without a repeated key gives the same on look-up in reverse order. -/
private theorem lookup_reverse
    {entries : List (String × α)}
    (sorted : entries.Pairwise fun first second => first.1 < second.1)
    (key : String) :
    entries.reverse.lookup key = entries.lookup key := by
  induction entries with
  | nil =>
      rfl
  | cons first rest inductionHypothesis =>
      obtain ⟨before, restSorted⟩ := List.pairwise_cons.mp sorted
      rw [List.reverse_cons, List.lookup_append, lookup_cons_eq,
        inductionHypothesis restSorted, lookup_cons_eq]
      by_cases atFirst : key = first.1
      · have absent : rest.lookup key = none := by
          rw [List.lookup_eq_none_iff]
          intro entry member
          simpa [atFirst] using String.ne_of_lt (before entry member)
        simp [absent]
      · simp [atFirst]

/-- Insertion of all entries of a second map lets its values prevail. -/
theorem get?_insertAll
    (map other : SortedMap α)
    (key : String) :
    (other.entries.foldl (fun map entry => map.insert entry.1 entry.2) map).get? key =
      (other.get? key).or (map.get? key) := by
  rw [get?_foldl_insert, lookup_reverse other.sorted]
  rfl

/-- Of the entries that make up a map the last one with a key counts. -/
theorem get?_ofList
    (entries : List (String × α))
    (key : String) :
    (ofList entries).get? key = entries.reverse.lookup key := by
  rw [ofList, get?_foldl_insert]
  simp

theorem mem_of_get?_ofList
    {entries : List (String × α)}
    {key : String}
    {value : α}
    (found : (ofList entries).get? key = some value) :
    (key, value) ∈ entries := by
  rw [get?_ofList] at found
  obtain ⟨before, after, shape, _⟩ := List.lookup_eq_some_iff.mp found
  rw [← List.mem_reverse, shape]
  simp

theorem contains_ofList
    {entries : List (String × α)}
    {key : String}
    {value : α}
    (member : (key, value) ∈ entries) :
    (ofList entries).contains key = true := by
  rw [contains, get?_ofList, ← Option.ne_none_iff_isSome, ne_eq, List.lookup_eq_none_iff]
  intro absent
  simpa using absent (key, value) (List.mem_reverse.mpr member)

/-- Maps with the same look-ups are equal. -/
theorem ext_get?
    {first second : SortedMap α}
    (same : ∀ key, first.get? key = second.get? key) :
    first = second := by
  have sameEntries : first.entries.Perm second.entries := by
    rw [List.perm_ext_iff_of_nodup (entries_nodup first) (entries_nodup second)]
    rintro ⟨key, value⟩
    rw [← get?_eq_some_iff, ← get?_eq_some_iff, same]
  have asymmetric :
      ∀ left right : String × α,
        left ∈ first.entries → right ∈ second.entries →
          left.1 < right.1 → right.1 < left.1 → left = right :=
    fun _ _ _ _ less greater => absurd (String.lt_trans less greater) (String.lt_irrefl _)
  have equal := sameEntries.eq_of_pairwise asymmetric first.sorted second.sorted
  cases first
  cases second
  cases equal
  rfl

/-- The entries of a map make up that map. -/
theorem ofList_entries
    (map : SortedMap α) :
    ofList map.entries = map := by
  refine ext_get? fun key => ?_
  rw [get?_ofList, lookup_reverse map.sorted]
  rfl

/-- A map made of some values of another one, each under its key. -/
theorem get?_ofList_filterMap
    (map : SortedMap α)
    (choose : String → α → Option β)
    (key : String) :
    (ofList (map.entries.filterMap fun entry =>
      (choose entry.1 entry.2).map fun value => (entry.1, value))).get? key =
      (map.get? key).bind (choose key) := by
  have memberIff :
      ∀ value : β,
        (key, value) ∈ (map.entries.filterMap fun entry =>
          (choose entry.1 entry.2).map fun value => (entry.1, value)) ↔
          (map.get? key).bind (choose key) = some value := by
    intro value
    simp only [List.mem_filterMap, Option.map_eq_some_iff, Option.bind_eq_some_iff,
      get?_eq_some_iff, Prod.exists, Prod.mk.injEq]
    constructor
    · rintro ⟨_, source, member, chosen, isChosen, rfl, rfl⟩
      exact ⟨source, member, isChosen⟩
    · rintro ⟨source, member, isChosen⟩
      exact ⟨key, source, member, value, isChosen, rfl, rfl⟩
  cases found : (ofList (map.entries.filterMap fun entry =>
      (choose entry.1 entry.2).map fun value => (entry.1, value))).get? key with
  | some value =>
      exact ((memberIff value).mp (mem_of_get?_ofList found)).symm
  | none =>
      cases expected : (map.get? key).bind (choose key) with
      | none =>
          rfl
      | some value =>
          have contained := contains_ofList ((memberIff value).mpr expected)
          rw [contains, found] at contained
          cases contained

/-- Two maps without a common key. -/
def Disjoint (first second : SortedMap α) : Prop :=
  ∀ key, first.get? key = none ∨ second.get? key = none

/-- The entries of two maps; of a common key the second value counts. -/
def union (first second : SortedMap α) : SortedMap α :=
  second.entries.foldl (fun map entry => map.insert entry.1 entry.2) first

variable
  {first second : SortedMap α}

theorem get?_union
    (key : String) :
    (first.union second).get? key = (second.get? key).or (first.get? key) :=
  get?_insertAll first second key

/-- Maps are disjoint when no key of the first one is found in the second. -/
theorem disjoint_iff :
    first.Disjoint second ↔ ∀ key ∈ first.keys, second.contains key = false := by
  simp only [Disjoint, contains_eq_false_iff, get?_eq_none_iff]
  exact forall_congr' fun key => Decidable.imp_iff_not_or.symm

instance : Decidable (first.Disjoint second) :=
  decidable_of_iff _ disjoint_iff.symm

/-- The entries of disjoint maps are those of their union. -/
theorem perm_entries_union
    (disjoint : Disjoint first second) :
    (first.union second).entries.Perm (first.entries ++ second.entries) := by
  have apart :
      ∀ entry ∈ first.entries, ∀ other ∈ second.entries, entry ≠ other := by
    rintro ⟨key, value⟩ inFirst other inSecond rfl
    rw [← get?_eq_some_iff] at inFirst inSecond
    rcases disjoint key with absent | absent
    · cases absent.symm.trans inFirst
    · cases absent.symm.trans inSecond
  have nodup : (first.entries ++ second.entries).Nodup :=
    List.nodup_append.mpr ⟨entries_nodup first, entries_nodup second, apart⟩
  rw [List.perm_ext_iff_of_nodup (entries_nodup _) nodup]
  rintro ⟨key, value⟩
  rw [List.mem_append, ← get?_eq_some_iff, ← get?_eq_some_iff, ← get?_eq_some_iff, get?_union]
  rcases disjoint key with absent | absent <;> simp [absent]

end SortedMap

end RecordSchema
