import Mathlib.Logic.Relation
import RecordSchema.Hierarchy

namespace RecordSchema

/-!
# What walks visit

A walk visits exactly the unseen classes that some path of unseen classes leads to.
When it begins with all classes unseen, these are all classes that can be reached,
so the ancestors and the descendants of a class are what the two relations give
transitively.
-/

namespace Hierarchy

open Relation (ReflTransGen TransGen)

/-- One edge, to a class that has not been seen. -/
def UnseenEdge
    (edges : Nat → List Nat)
    (unseen : List Nat)
    (first second : Nat) : Prop :=
  second ∈ edges first ∧ second ∈ unseen

/-- A path stays one when fewer classes have been seen. -/
theorem UnseenEdge.path_mono
    {edges : Nat → List Nat}
    {fewer more : List Nat}
    (included : fewer ⊆ more)
    {start target : Nat}
    (path : ReflTransGen (UnseenEdge edges fewer) start target) :
    ReflTransGen (UnseenEdge edges more) start target :=
  Relation.ReflTransGen.mono (fun _ _ edge => ⟨edge.1, included edge.2⟩) _ _ path

/--
A path to another class than a given one either avoids the given class, or it
contains a path that begins right behind the last visit there.
-/
theorem UnseenEdge.path_avoids_or_leaves
    {edges : Nat → List Nat}
    {unseen : List Nat}
    {avoided start target : Nat}
    (different : target ≠ avoided)
    (path : ReflTransGen (UnseenEdge edges unseen) start target) :
    (start ≠ avoided ∧
        ReflTransGen (UnseenEdge edges (unseen.erase avoided)) start target) ∨
      ∃ next,
        UnseenEdge edges (unseen.erase avoided) avoided next ∧
          ReflTransGen (UnseenEdge edges (unseen.erase avoided)) next target := by
  induction path using ReflTransGen.head_induction_on with
  | refl =>
      exact .inl ⟨different, .refl⟩
  | @head current next edge _ inductionHypothesis =>
      rcases inductionHypothesis with ⟨nextDifferent, rest⟩ | leaves
      · have unseenNext : next ∈ unseen.erase avoided :=
          (List.mem_erase_of_ne nextDifferent).mpr edge.2
        by_cases atAvoided : current = avoided
        · subst atAvoided
          exact .inr ⟨next, ⟨edge.1, unseenNext⟩, rest⟩
        · exact .inl ⟨atAvoided, .head ⟨edge.1, unseenNext⟩ rest⟩
      · exact .inr leaves

theorem walk_eq_nil
    {edges : Nat → List Nat}
    {unseen stack : List Nat}
    (exhausted : stack.find? unseen.contains = none) :
    walk edges unseen stack = [] := by
  rw [walk]
  split
  · rfl
  · rename_i found
    cases exhausted.symm.trans found

theorem walk_eq_cons
    {edges : Nat → List Nat}
    {unseen stack : List Nat}
    {next : Nat}
    (found : stack.find? unseen.contains = some next) :
    walk edges unseen stack =
      next :: walk edges (unseen.erase next) (edges next ++ stack) := by
  rw [walk]
  split
  · rename_i exhausted
    cases exhausted.symm.trans found
  · rename_i other foundOther
    rw [found] at foundOther
    cases foundOther
    rfl

/-- A walk visits the unseen classes on paths of unseen classes from its stack. -/
theorem mem_walk_iff
    {edges : Nat → List Nat}
    {unseen stack : List Nat}
    {target : Nat} :
    target ∈ walk edges unseen stack ↔
      ∃ start,
        start ∈ stack ∧ start ∈ unseen ∧
          ReflTransGen (UnseenEdge edges unseen) start target := by
  induction unseen, stack using walk.induct edges with
  | case1 unseen stack exhausted =>
      have noneUnseen := List.find?_eq_none.mp exhausted
      rw [walk_eq_nil exhausted]
      simp only [List.not_mem_nil, false_iff, not_exists, not_and]
      intro start onStack isUnseen
      exact absurd (List.contains_iff_mem.mpr isUnseen) (noneUnseen start onStack)
  | case2 unseen stack next found inductionHypothesis =>
      have nextUnseen : next ∈ unseen :=
        List.contains_iff_mem.mp (List.find?_some found)
      have nextOnStack : next ∈ stack :=
        List.mem_of_find?_eq_some found
      rw [walk_eq_cons found, List.mem_cons, inductionHypothesis]
      constructor
      · rintro (rfl | ⟨start, onStack, isUnseen, path⟩)
        · exact ⟨target, nextOnStack, nextUnseen, .refl⟩
        · have startUnseen := List.mem_of_mem_erase isUnseen
          have widerPath := UnseenEdge.path_mono List.erase_subset path
          rcases List.mem_append.mp onStack with behindNext | onStack
          · exact ⟨next, nextOnStack, nextUnseen,
              .head ⟨behindNext, startUnseen⟩ widerPath⟩
          · exact ⟨start, onStack, startUnseen, widerPath⟩
      · rintro ⟨start, onStack, isUnseen, path⟩
        by_cases atNext : target = next
        · exact .inl atNext
        · right
          rcases UnseenEdge.path_avoids_or_leaves atNext path with
            ⟨startDifferent, rest⟩ | ⟨behindNext, edge, rest⟩
          · exact ⟨start, List.mem_append_right _ onStack,
              (List.mem_erase_of_ne startDifferent).mpr isUnseen, rest⟩
          · exact ⟨behindNext, List.mem_append_left _ edge.1, edge.2, rest⟩

/-- One class is a direct parent of another. -/
def Parent (hierarchy : Hierarchy) (child parent : Nat) : Prop :=
  parent ∈ hierarchy.parentsOf child

/-- A class inherits, directly or not, from another. -/
def Descends (hierarchy : Hierarchy) : Nat → Nat → Prop :=
  TransGen hierarchy.Parent

/-- From the neighbours of a class, and with nothing seen, a walk visits what the class reaches. -/
theorem mem_walk_neighbours_iff
    {edges : Nat → List Nat}
    {unseen : List Nat}
    (closed : ∀ first, edges first ⊆ unseen)
    {start target : Nat} :
    target ∈ walk edges unseen (edges start) ↔
      TransGen (fun first second => second ∈ edges first) start target := by
  have sameEdges :
      UnseenEdge edges unseen = fun first second => second ∈ edges first := by
    funext first second
    exact propext ⟨And.left, fun edge => ⟨edge, closed first edge⟩⟩
  rw [mem_walk_iff, sameEdges, Relation.TransGen.head'_iff]
  constructor
  · rintro ⟨next, edge, _, path⟩
    exact ⟨next, edge, path⟩
  · rintro ⟨next, edge, path⟩
    exact ⟨next, edge, closed start edge, path⟩

theorem mem_ancestors_iff
    {hierarchy : Hierarchy}
    (closed : ∀ id, hierarchy.parentsOf id ⊆ hierarchy.ids)
    {id ancestor : Nat} :
    ancestor ∈ hierarchy.ancestors id ↔ hierarchy.Descends id ancestor :=
  mem_walk_neighbours_iff closed

theorem mem_descendants_iff
    {hierarchy : Hierarchy}
    (closed : ∀ id, hierarchy.childrenOf id ⊆ hierarchy.ids)
    (mirrored :
      ∀ {child parent}, child ∈ hierarchy.childrenOf parent ↔ parent ∈ hierarchy.parentsOf child)
    {id descendant : Nat} :
    descendant ∈ hierarchy.descendants id ↔ hierarchy.Descends descendant id := by
  have childIsSwappedParent :
      (fun parent child => child ∈ hierarchy.childrenOf parent) =
        Function.swap hierarchy.Parent := by
    funext parent child
    exact propext mirrored
  rw [descendants, mem_walk_neighbours_iff closed, childIsSwappedParent,
    Relation.transGen_swap]
  rfl

end Hierarchy

end RecordSchema
