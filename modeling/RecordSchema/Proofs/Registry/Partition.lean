import RecordSchema.Proofs.Registry.Linked

namespace RecordSchema

/-!
# Splitting definitions into sets

What is compiled is the union of the sets.  How its classes are split into sets, and in
which order the sets come, makes no difference as long as no class is in two of them.  As
soon as one is, the sets are refused in every order, with the name of such a class.
-/

open Declarations (ofSets)

/-- Several sets declare what is among the entries of all of them. -/
theorem Declarations.ofSets_iff_mem_entries
    {sets : List DefinitionSet}
    {className : String}
    {definition : ClassDefinition} :
    ofSets sets className definition ↔
      (className, definition) ∈ sets.flatMap SortedMap.entries := by
  simp [ofSets, SortedMap.get?_eq_some_iff]

namespace DefinitionSet

/-- Sets are disjoint when no class is in two of them. -/
theorem pairwise_disjoint_iff
    {sets : List DefinitionSet} :
    sets.Pairwise SortedMap.Disjoint ↔
      ∀ className, (sets.countP fun set => set.contains className) ≤ 1 := by
  induction sets with
  | nil =>
      simp
  | cons set rest inductionHypothesis =>
      have apart :
          (∀ other ∈ rest, set.Disjoint other) ↔
            ∀ className, set.contains className = true →
              (rest.countP fun other => other.contains className) = 0 := by
        simp only [SortedMap.Disjoint, ← SortedMap.contains_eq_false_iff, List.countP_eq_zero]
        grind
      rw [List.pairwise_cons, inductionHypothesis, apart, ← forall_and]
      refine forall_congr' fun className => ?_
      rw [List.countP_cons]
      split
      · rename_i inSet
        simp only [inSet, forall_const]
        omega
      · rename_i notInSet
        simp [notInSet]

/-- Disjoint sets are united. -/
theorem exists_unite
    {sets : List DefinitionSet}
    (disjoint : sets.Pairwise SortedMap.Disjoint) :
    ∃ united, unite .empty sets = .ok united := by
  cases outcome : unite .empty sets with
  | ok united =>
      exact ⟨united, rfl⟩
  | error error =>
      obtain ⟨className, _, twice⟩ := unite_error outcome
      have once := pairwise_disjoint_iff.mp disjoint className
      rw [countP_cons_empty] at twice
      omega

/-- Sets are refused in the name of a class that two of them have. -/
theorem exists_unite_error
    {sets : List DefinitionSet}
    {className : String}
    (repeated : 2 ≤ sets.countP fun set => set.contains className) :
    ∃ reported,
      unite .empty sets = .error (.duplicateClass reported) ∧
        2 ≤ sets.countP fun set => set.contains reported := by
  cases outcome : unite .empty sets with
  | ok united =>
      have once := (unite_ok outcome).2 className
      rw [countP_cons_empty] at once
      omega
  | error error =>
      obtain ⟨reported, rfl, twice⟩ := unite_error outcome
      rw [countP_cons_empty] at twice
      exact ⟨reported, rfl, twice⟩

/-- The union of disjoint sets is their declarations, however these are split. -/
theorem unite_eq_of_ofSets_eq
    {first second : List DefinitionSet}
    (firstDisjoint : first.Pairwise SortedMap.Disjoint)
    (secondDisjoint : second.Pairwise SortedMap.Disjoint)
    (sameUnion : ofSets first = ofSets second) :
    unite .empty first = unite .empty second := by
  obtain ⟨firstUnited, firstAccepted⟩ := exists_unite firstDisjoint
  obtain ⟨secondUnited, secondAccepted⟩ := exists_unite secondDisjoint
  have sameDeclarations : firstUnited.declarations = secondUnited.declarations := by
    rw [declarations_of_unite firstAccepted, declarations_of_unite secondAccepted, sameUnion]
  have sameUnited : firstUnited = secondUnited :=
    SortedMap.ext_get? fun className => Option.ext fun definition =>
      iff_of_eq (congrFun (congrFun sameDeclarations className) definition)
  rw [firstAccepted, secondAccepted, sameUnited]

end DefinitionSet

namespace Registry

/--
Disjoint sets with the same union are compiled to the same registry, or refused with the
same error, and the same is logged.  Sets that are not disjoint are refused in every order
in the name of a class that two of them have.
-/
theorem compile_determined_by_union :
    (∀ first second : List DefinitionSet,
      first.Pairwise SortedMap.Disjoint →
      second.Pairwise SortedMap.Disjoint →
      ofSets first = ofSets second →
      compile first = compile second) ∧
    ∀ (sets permuted : List DefinitionSet) (className : String),
      2 ≤ (sets.countP fun set => set.contains className) →
      sets.Perm permuted →
      ∃ reported,
        (compile permuted).result = .error (.duplicateClass reported) ∧
          2 ≤ sets.countP fun set => set.contains reported := by
  constructor
  · intro first second firstDisjoint secondDisjoint sameUnion
    have sameUnited := DefinitionSet.unite_eq_of_ofSets_eq firstDisjoint secondDisjoint sameUnion
    rw [compile, compile, linkSets, linkSets, sameUnited]
  · intro sets permuted className repeated permutation
    rw [permutation.countP_eq] at repeated
    obtain ⟨reported, refused, twice⟩ := DefinitionSet.exists_unite_error repeated
    rw [← permutation.countP_eq] at twice
    refine ⟨reported, ?_, twice⟩
    change (linkSets permuted).result = _
    rw [linkSets, refused]

/-- A class, its child and its grandchild in one set. -/
def gathered : List DefinitionSet :=
  [.ofList [("Apex", { inherits := ["Base"] }), ("Base", {}), ("Leaf", { inherits := ["Apex"] })]]

/-- The same classes in sets of their own, and a set without classes. -/
def scattered : List DefinitionSet :=
  [.ofList [("Leaf", { inherits := ["Apex"] })], .empty, .ofList [("Base", {})],
    .ofList [("Apex", { inherits := ["Base"] })]]

private theorem scattered_entries :
    gathered.flatMap SortedMap.entries = (scattered.flatMap SortedMap.entries).reverse := by
  rfl

/-- The sets of single classes are compiled to what the one set is, and both together to nothing. -/
theorem compile_determined_by_union_scattered :
    compile scattered = compile gathered ∧
      ∃ reported,
        (compile (scattered ++ gathered)).result = .error (.duplicateClass reported) ∧
          2 ≤ (gathered ++ scattered).countP fun set => set.contains reported := by
  obtain ⟨ofUnion, ofPermuted⟩ := compile_determined_by_union
  constructor
  · refine ofUnion scattered gathered (by decide) (by decide) ?_
    funext className definition
    rw [eq_iff_iff, Declarations.ofSets_iff_mem_entries, Declarations.ofSets_iff_mem_entries,
      scattered_entries, List.mem_reverse]
  · exact ofPermuted (gathered ++ scattered) (scattered ++ gathered) "Base" (by decide)
      List.perm_append_comm

end Registry

end RecordSchema
