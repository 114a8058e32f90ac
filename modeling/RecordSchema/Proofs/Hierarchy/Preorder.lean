import Mathlib.Logic.Function.Iterate
import RecordSchema.Proofs.Hierarchy.Construction

namespace RecordSchema

/-!
# The order of walks

A walk visits classes in the order of a recursive visit: a class that has not been seen,
all that is new behind its neighbours, and then the classes next to it.  A loop over a
stack does the same.  Neighbours may stand on the stack more than once and a cycle leads
back to what has been seen, so each turn either drops a class or visits a new one.
-/

namespace Hierarchy

open Relation (TransGen)

/--
What a recursive visit of some classes meets that has not been seen before, each class with
what it leads to directly behind it.
-/
inductive IsPreorder (edges : Nat → List Nat) : (seen classes visited : List Nat) → Prop where
  | nil {seen : List Nat} : IsPreorder edges seen [] []
  | skip {seen rest visited : List Nat} {next : Nat}
      (isSeen : next ∈ seen)
      (later : IsPreorder edges seen rest visited) :
      IsPreorder edges seen (next :: rest) visited
  | visit {seen rest below later : List Nat} {next : Nat}
      (isNew : next ∉ seen)
      (deeper : IsPreorder edges (seen ++ [next]) (edges next) below)
      (behind : IsPreorder edges (seen ++ next :: below) rest later) :
      IsPreorder edges seen (next :: rest) (next :: (below ++ later))

/-- The classes that have not been seen. -/
def unseenIn (ids seen : List Nat) : List Nat :=
  ids.filter fun id => id ∉ seen

@[simp] theorem mem_unseenIn_iff
    {ids seen : List Nat}
    {id : Nat} :
    id ∈ unseenIn ids seen ↔ id ∈ ids ∧ id ∉ seen := by
  simp [unseenIn]

theorem unseenIn_append
    (ids seen more : List Nat) :
    unseenIn ids (seen ++ more) = (unseenIn ids seen).filter fun id => id ∉ more := by
  simp [unseenIn, List.filter_filter, Bool.and_comm]

@[simp] theorem unseenIn_nil
    (ids : List Nat) :
    unseenIn ids [] = ids := by
  simp [unseenIn]

theorem nodup_unseenIn
    {ids : List Nat}
    (distinct : ids.Nodup)
    (seen : List Nat) :
    (unseenIn ids seen).Nodup :=
  distinct.filter _

theorem erase_unseenIn
    {ids : List Nat}
    (distinct : ids.Nodup)
    (seen : List Nat)
    (next : Nat) :
    (unseenIn ids seen).erase next = unseenIn ids (seen ++ [next]) := by
  have erased := (nodup_unseenIn distinct seen).erase_eq_filter next
  rw [unseenIn_append]
  exact erased.trans (List.filter_congr fun id _ => by simp [bne, beq_eq_decide])

/-- Fewer classes are left when a new one has been seen. -/
theorem length_unseenIn_lt
    {ids seen more : List Nat}
    {next : Nat}
    (isClass : next ∈ ids)
    (isNew : next ∉ seen)
    (isAdded : next ∈ more) :
    (unseenIn ids (seen ++ more)).length < (unseenIn ids seen).length := by
  rw [unseenIn_append, List.length_filter_lt_length_iff_exists]
  exact ⟨next, mem_unseenIn_iff.mpr ⟨isClass, isNew⟩, by simpa using isAdded⟩

section Visits

variable
  {edges : Nat → List Nat}
  {ids seen classes visited : List Nat}

/-- A recursive visit ends, for each class that it enters leaves fewer to be seen. -/
theorem exists_isPreorder
    (closed : ∀ id, edges id ⊆ ids)
    (known : classes ⊆ ids) :
    ∃ visited, IsPreorder edges seen classes visited := by
  induction left : (unseenIn ids seen).length using Nat.strongRecOn
    generalizing seen classes with
  | _ count shorter =>
      subst left
      induction classes with
      | nil =>
          exact ⟨[], .nil⟩
      | cons next rest inductionHypothesis =>
          obtain ⟨isClass, restKnown⟩ := List.cons_subset.mp known
          by_cases isSeen : next ∈ seen
          · obtain ⟨visited, later⟩ := inductionHypothesis restKnown
            exact ⟨visited, .skip isSeen later⟩
          · obtain ⟨below, deeper⟩ :=
              shorter _ (length_unseenIn_lt isClass isSeen (List.mem_singleton_self next))
                (closed next) rfl
            obtain ⟨later, behind⟩ :=
              shorter _ (length_unseenIn_lt isClass isSeen List.mem_cons_self)
                restKnown rfl
            exact ⟨_, .visit isSeen deeper behind⟩

end Visits

section Walks

variable
  {edges : Nat → List Nat}
  {unseen stack : List Nat}

/-- A class that has been seen may be left out of the stack. -/
theorem walk_skip
    {next : Nat}
    {rest : List Nat}
    (first : List Nat)
    (isSeen : next ∉ unseen)
    (shape : stack = first ++ rest) :
    walk edges unseen (first ++ next :: rest) = walk edges unseen stack := by
  have sameFirst :
      ∀ {unseen first : List Nat},
        next ∉ unseen →
          (first ++ next :: rest).find? unseen.contains = (first ++ rest).find? unseen.contains := by
    intro unseen first isSeen
    rw [List.find?_append, List.find?_append, List.find?_cons_of_neg (by simpa using isSeen)]
  induction unseen, stack using walk.induct edges generalizing first with
  | case1 unseen stack exhausted =>
      subst shape
      rw [walk_eq_nil exhausted, walk_eq_nil ((sameFirst isSeen).trans exhausted)]
  | case2 unseen stack other found inductionHypothesis =>
      subst shape
      rw [walk_eq_cons found, walk_eq_cons ((sameFirst isSeen).trans found)]
      rw [← List.append_assoc]
      rw [inductionHypothesis _ (fun member => isSeen (List.mem_of_mem_erase member))
        (List.append_assoc _ _ _).symm]

/-- An unseen class at the top of the stack is visited, and its neighbours come next. -/
theorem walk_visit
    {next : Nat}
    {rest : List Nat}
    (distinct : unseen.Nodup)
    (isUnseen : next ∈ unseen) :
    walk edges unseen (next :: rest) =
      next :: walk edges (unseen.erase next) (edges next ++ rest) := by
  have found : (next :: rest).find? unseen.contains = some next :=
    List.find?_cons_of_pos (List.contains_iff_mem.mpr isUnseen)
  rw [walk_eq_cons found, walk_skip (edges next) distinct.not_mem_erase rfl]

@[simp] theorem walk_nil : walk edges unseen [] = [] :=
  walk_eq_nil rfl

theorem walk_subset : walk edges unseen stack ⊆ unseen := by
  induction unseen, stack using walk.induct edges with
  | case1 unseen stack exhausted =>
      rw [walk_eq_nil exhausted]
      exact List.nil_subset _
  | case2 unseen stack next found inductionHypothesis =>
      rw [walk_eq_cons found]
      exact List.cons_subset.mpr
        ⟨List.contains_iff_mem.mp (List.find?_some found),
          List.Subset.trans inductionHypothesis List.erase_subset⟩

/-- A walk visits no class twice. -/
theorem nodup_walk
    (distinct : unseen.Nodup) :
    (walk edges unseen stack).Nodup := by
  induction unseen, stack using walk.induct edges with
  | case1 unseen stack exhausted =>
      rw [walk_eq_nil exhausted]
      exact List.nodup_nil
  | case2 unseen stack next found inductionHypothesis =>
      rw [walk_eq_cons found]
      exact List.nodup_cons.mpr
        ⟨fun again => distinct.not_mem_erase (walk_subset again),
          inductionHypothesis (distinct.erase next)⟩

end Walks

/-- What has been seen, and the classes that are to be looked at, the next one in front. -/
structure Agenda where
  seen : List Nat := []
  stack : List Nat
  deriving Repr, DecidableEq

/--
One turn of the loop: the next class is dropped if it has been seen; otherwise it is seen
now, and its neighbours come before the rest.
-/
def Agenda.turn (edges : Nat → List Nat) (agenda : Agenda) : Agenda :=
  match agenda.stack with
  | [] => agenda
  | next :: rest =>
      if next ∈ agenda.seen then
        ⟨agenda.seen, rest⟩
      else
        ⟨agenda.seen ++ [next], edges next ++ rest⟩

/-- How many neighbours the visits of some classes put on the stack. -/
def pushed (edges : Nat → List Nat) (visited : List Nat) : Nat :=
  (visited.flatMap edges).length

namespace IsPreorder

variable
  {edges : Nat → List Nat}
  {seen classes visited : List Nat}

/-- The loop visits classes in preorder; each turn takes one class from the stack. -/
theorem iterate_turn
    (preorder : IsPreorder edges seen classes visited)
    (rest : List Nat) :
    (Agenda.turn edges)^[classes.length + pushed edges visited] ⟨seen, classes ++ rest⟩ =
      ⟨seen ++ visited, rest⟩ := by
  induction preorder generalizing rest with
  | nil =>
      simp [pushed]
  | @skip seen classes visited next isSeen _ inductionHypothesis =>
      have turned :
          Agenda.turn edges ⟨seen, next :: classes ++ rest⟩ = ⟨seen, classes ++ rest⟩ :=
        if_pos isSeen
      rw [List.length_cons, Nat.add_right_comm, Function.iterate_succ_apply, turned,
        inductionHypothesis]
  | @visit seen classes below later next isNew _ _ deeperTurns behindTurns =>
      have turned :
          Agenda.turn edges ⟨seen, next :: classes ++ rest⟩ =
            ⟨seen ++ [next], edges next ++ (classes ++ rest)⟩ :=
        if_neg isNew
      have turns :
          (next :: classes).length + pushed edges (next :: (below ++ later)) =
            (classes.length + pushed edges later) +
              ((edges next).length + pushed edges below) + 1 := by
        simp only [pushed, List.length_cons, List.flatMap_cons, List.flatMap_append,
          List.length_append]
        omega
      have sameSeen : seen ++ [next] ++ below = seen ++ next :: below := by
        simp
      rw [turns, Function.iterate_succ_apply, turned, Function.iterate_add_apply, deeperTurns,
        sameSeen, behindTurns]
      simp

/-- A walk takes the first classes of its stack in preorder, and then the rest. -/
theorem walk_append
    {ids : List Nat}
    (distinct : ids.Nodup)
    (closed : ∀ id, edges id ⊆ ids)
    (known : classes ⊆ ids)
    (preorder : IsPreorder edges seen classes visited)
    (rest : List Nat) :
    walk edges (unseenIn ids seen) (classes ++ rest) =
      visited ++ walk edges (unseenIn ids (seen ++ visited)) rest := by
  induction preorder generalizing rest with
  | nil =>
      simp
  | @skip seen classes visited next isSeen _ inductionHypothesis =>
      have notUnseen : next ∉ unseenIn ids seen := by
        simp [isSeen]
      rw [← inductionHypothesis (List.cons_subset.mp known).2]
      exact walk_skip [] notUnseen rfl
  | @visit seen classes below later next isNew _ _ deeperWalk behindWalk =>
      obtain ⟨isClass, restKnown⟩ := List.cons_subset.mp known
      have isUnseen : next ∈ unseenIn ids seen :=
        mem_unseenIn_iff.mpr ⟨isClass, isNew⟩
      have sameSeen : seen ++ [next] ++ below = seen ++ next :: below := by
        simp
      rw [List.cons_append, walk_visit (nodup_unseenIn distinct seen) isUnseen,
        erase_unseenIn distinct, deeperWalk (closed next), sameSeen, behindWalk restKnown]
      simp

end IsPreorder

/-- What a walk visits from unseen classes is their only preorder. -/
theorem isPreorder_iff_eq_walk
    {edges : Nat → List Nat}
    {ids seen classes visited : List Nat}
    (distinct : ids.Nodup)
    (closed : ∀ id, edges id ⊆ ids)
    (known : classes ⊆ ids) :
    IsPreorder edges seen classes visited ↔
      visited = walk edges (unseenIn ids seen) classes := by
  have onlyWalk :
      ∀ {visited},
        IsPreorder edges seen classes visited →
          visited = walk edges (unseenIn ids seen) classes := by
    intro visited preorder
    have whole := preorder.walk_append distinct closed known []
    rw [List.append_nil, walk_nil, List.append_nil] at whole
    exact whole.symm
  constructor
  · exact onlyWalk
  · rintro rfl
    obtain ⟨visited, preorder⟩ : ∃ visited, IsPreorder edges seen classes visited :=
      exists_isPreorder closed known
    exact onlyWalk preorder ▸ preorder

/--
What is visited from a class: all that is reached from it along one edge or more, each once,
in preorder; and the loop over a stack ends with it, when as many turns are over as classes
have been put on the stack.
-/
structure IsVisitedFrom
    (edges : Nat → List Nat)
    (start : Nat)
    (visited : List Nat) : Prop where
  nodup : visited.Nodup
  mem_iff :
    ∀ target,
      target ∈ visited ↔ TransGen (fun first second => second ∈ edges first) start target
  preorder : ∀ other, IsPreorder edges [] (edges start) other ↔ other = visited
  loop :
    (Agenda.turn edges)^[(edges start).length + pushed edges visited] ⟨[], edges start⟩ =
      ⟨visited, []⟩

theorem isVisitedFrom_walk
    {edges : Nat → List Nat}
    {ids : List Nat}
    (distinct : ids.Nodup)
    (closed : ∀ id, edges id ⊆ ids)
    (start : Nat) :
    IsVisitedFrom edges start (walk edges ids (edges start)) := by
  have preorder :
      ∀ other,
        IsPreorder edges [] (edges start) other ↔ other = walk edges ids (edges start) := by
    intro other
    have onlyWalk :
        IsPreorder edges [] (edges start) other ↔
          other = walk edges (unseenIn ids []) (edges start) :=
      isPreorder_iff_eq_walk distinct closed (closed start)
    rwa [unseenIn_nil] at onlyWalk
  have turns := ((preorder _).mpr rfl).iterate_turn []
  rw [List.append_nil, List.nil_append] at turns
  exact ⟨nodup_walk distinct, fun _ => mem_walk_neighbours_iff closed, preorder, turns⟩

/--
In a hierarchy, however it has been built and also where it has cycles, the ancestors of a
class are what is visited from it along parents, and its descendants what is visited along
children; and a class is an ancestor of those that are its descendants.
-/
theorem walks_reach
    {hierarchy : Hierarchy}
    (built : hierarchy.IsBuilt) :
    (∀ id, IsVisitedFrom hierarchy.parentsOf id (hierarchy.ancestors id)) ∧
      (∀ id, IsVisitedFrom hierarchy.childrenOf id (hierarchy.descendants id)) ∧
        ∀ ancestor descendant,
          ancestor ∈ hierarchy.ancestors descendant ↔
            descendant ∈ hierarchy.descendants ancestor := by
  have proper := built.isProper
  refine ⟨isVisitedFrom_walk List.nodup_range proper.parents_closed,
    isVisitedFrom_walk List.nodup_range proper.children_closed, ?_⟩
  intro ancestor descendant
  rw [mem_ancestors_iff proper.parents_closed,
    mem_descendants_iff proper.children_closed proper.mem_childrenOf_iff]

private theorem ring_walks :
    ring.ancestors 1 = [2, 3, 1] ∧ ring.descendants 3 = [2, 1, 0, 3] := by
  constructor <;> decide +kernel

/-- On a circle a class is among its own ancestors, and it is visited last. -/
theorem walks_reach_ring :
    ring.IsBuilt ∧ IsVisitedFrom ring.parentsOf 1 [2, 3, 1] ∧
      IsVisitedFrom ring.childrenOf 3 [2, 1, 0, 3] ∧
        (1 ∈ ring.ancestors 1 ↔ 1 ∈ ring.descendants 1) := by
  obtain ⟨above, below, dual⟩ := walks_reach isBuilt_ring
  obtain ⟨isAbove, isBelow⟩ := ring_walks
  exact ⟨isBuilt_ring, isAbove ▸ above 1, isBelow ▸ below 3, dual 1 1⟩

end Hierarchy

end RecordSchema
