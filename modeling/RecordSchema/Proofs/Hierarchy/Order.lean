import Mathlib.Data.List.Chain
import Mathlib.Data.List.Nodup
import RecordSchema.Proofs.Hierarchy.Walk

namespace RecordSchema

/-!
# Parents before children

The walk along the parents either leaves every class once, each behind all of its
parents, or it runs into a class of its own path and reports that path.  The two
outcomes exclude each other: an order with parents first shows that no class
descends from itself, and a reported path shows that one does.
-/

namespace Hierarchy

open Relation (TransGen)

/-- An order of classes in which each stands behind all of its parents. -/
structure IsParentsFirst
    (parents : Nat → List Nat)
    (ids order : List Nat) : Prop where
  perm : order.Perm ids
  parentsBefore :
    ∀ {before id after},
      order = before ++ id :: after →
      parents id ⊆ before

/-- A path along the parents that ends where it begins. -/
def IsCycle (parents : Nat → List Nat) (cycle : List Nat) : Prop :=
  (∃ id between, cycle = id :: (between ++ [id])) ∧
    cycle.IsChain fun child parent => parent ∈ parents child

/-- The first and the last class of a path along a relation are related transitively. -/
theorem transGen_of_isChain
    {relation : α → α → Prop}
    {first last : α}
    {between : List α}
    (chain : (first :: (between ++ [last])).IsChain relation) :
    TransGen relation first last := by
  induction between generalizing first with
  | nil =>
      exact .single (List.isChain_pair.mp chain)
  | cons next rest inductionHypothesis =>
      obtain ⟨edge, restChain⟩ := List.isChain_cons_cons.mp chain
      exact .head edge (inductionHypothesis restChain)

namespace IsParentsFirst

/-- What passes from the parents to a class holds of every class in an order with parents first. -/
theorem induction
    {parents : Nat → List Nat}
    {ids order : List Nat}
    {motive : Nat → Prop}
    (parentsFirst : IsParentsFirst parents ids order)
    (step : ∀ id ∈ order, (∀ parent ∈ parents id, motive parent) → motive id) :
    ∀ id ∈ order, motive id := by
  have beforeAll :
      ∀ before after, order = before ++ after → ∀ id ∈ before, motive id := by
    intro before
    induction before using List.reverseRecOn with
    | nil =>
        simp
    | append_singleton before last inductionHypothesis =>
        intro after shape
        have splitShape : order = before ++ last :: after := by
          simpa using shape
        have earlier := inductionHypothesis (last :: after) splitShape
        have atLast : motive last :=
          step last (by simp [splitShape]) fun parent isParent =>
            earlier parent (parentsFirst.parentsBefore splitShape isParent)
        simp only [List.mem_append, List.mem_singleton]
        rintro id (member | rfl)
        · exact earlier id member
        · exact atLast
  exact beforeAll order [] (by simp)

/-- In an order with parents first every class stands behind its ancestors. -/
theorem idxOf_lt
    {parents : Nat → List Nat}
    {ids order : List Nat}
    (parentsFirst : IsParentsFirst parents ids order)
    {child ancestor : Nat}
    (descends : TransGen (fun child parent => parent ∈ parents child) child ancestor)
    (member : child ∈ order) :
    ancestor ∈ order ∧ order.idxOf ancestor < order.idxOf child := by
  have step :
      ∀ {child parent},
        child ∈ order → parent ∈ parents child →
          parent ∈ order ∧ order.idxOf parent < order.idxOf child := by
    intro child parent member edge
    obtain ⟨before, after, shape, absent⟩ := List.eq_append_cons_of_mem member
    have parentBefore : parent ∈ before :=
      parentsFirst.parentsBefore shape edge
    have childPosition : order.idxOf child = before.length := by
      rw [shape, List.idxOf_append_of_notMem absent, List.idxOf_cons_self, Nat.add_zero]
    have parentPosition : order.idxOf parent < before.length := by
      rw [shape, List.idxOf_append_of_mem parentBefore]
      exact List.idxOf_lt_length_of_mem parentBefore
    exact ⟨by simp [shape, parentBefore], childPosition ▸ parentPosition⟩
  induction descends using TransGen.head_induction_on with
  | single edge =>
      exact step member edge
  | head edge _ inductionHypothesis =>
      obtain ⟨nextMember, nextEarlier⟩ := step member edge
      obtain ⟨ancestorMember, ancestorEarlier⟩ := inductionHypothesis nextMember
      exact ⟨ancestorMember, ancestorEarlier.trans nextEarlier⟩

/-- Where an order with parents first exists, no class descends from itself. -/
theorem not_descends_self
    {parents : Nat → List Nat}
    {ids order : List Nat}
    (parentsFirst : IsParentsFirst parents ids order)
    {id : Nat}
    (member : id ∈ ids) :
    ¬TransGen (fun child parent => parent ∈ parents child) id id := by
  intro descends
  have earlier := (parentsFirst.idxOf_lt descends (parentsFirst.perm.mem_iff.mpr member)).2
  exact Nat.lt_irrefl _ earlier

end IsParentsFirst

/--
What holds whenever the walk is at the head of a path: every class is yet to be
visited, on the path or left behind; on the path each class is a parent of the
next; and the classes left behind are closed under parents in their order.
-/
structure Visiting
    (parents : Nat → List Nat)
    (ids unvisited path left : List Nat) : Prop where
  perm : (unvisited ++ (path ++ left)).Perm ids
  chain : path.IsChain fun parent child => parent ∈ parents child
  parentsBefore :
    ∀ {before id after},
      left = before ++ id :: after →
      parents id ⊆ before

namespace Visiting

/-- Before the walk nothing has been visited. -/
theorem initial
    (parents : Nat → List Nat)
    (ids : List Nat) :
    Visiting parents ids ids [] [] where
  perm := by simp
  chain := .nil
  parentsBefore shape := by simp at shape

/-- When a path is over, the walk begins anew at the next unvisited class. -/
theorem begin
    {parents : Nat → List Nat}
    {ids rest left : List Nat}
    {next : Nat}
    (visiting : Visiting parents ids (next :: rest) [] left) :
    Visiting parents ids rest [next] left where
  perm := by
    refine List.Perm.trans ?_ visiting.perm
    simp
  chain := .singleton next
  parentsBefore := visiting.parentsBefore

/-- An unvisited parent of the class at hand becomes the head of the path. -/
theorem descend
    {parents : Nat → List Nat}
    {ids unvisited outer left : List Nat}
    {current parent : Nat}
    (visiting : Visiting parents ids unvisited (current :: outer) left)
    (isParent : parent ∈ parents current)
    (isUnvisited : parent ∈ unvisited) :
    Visiting parents ids (unvisited.erase parent) (parent :: current :: outer) left where
  perm := by
    refine List.Perm.trans ?_ visiting.perm
    refine List.perm_middle.trans ?_
    exact (List.perm_cons_erase isUnvisited).symm.append_right _
  chain := .cons_cons isParent visiting.chain
  parentsBefore := visiting.parentsBefore

/-- A class all of whose parents have been left is left itself. -/
theorem leave
    {parents : Nat → List Nat}
    {ids unvisited outer left : List Nat}
    {current : Nat}
    (visiting : Visiting parents ids unvisited (current :: outer) left)
    (parentsLeft : parents current ⊆ left) :
    Visiting parents ids unvisited outer (left ++ [current]) where
  perm := by
    refine List.Perm.trans ?_ visiting.perm
    refine List.Perm.append_left _ ?_
    rw [← List.append_assoc, List.cons_append]
    exact List.perm_append_singleton current (outer ++ left)
  chain := visiting.chain.tail
  parentsBefore := by
    intro before id after shape
    rcases List.eq_nil_or_concat after with rfl | ⟨inner, last, rfl⟩
    · obtain ⟨sameBefore, sameLast⟩ := List.append_inj' shape rfl
      cases sameLast
      exact sameBefore ▸ parentsLeft
    · have innerShape : left ++ [current] = (before ++ id :: inner) ++ [last] := by
        simpa using shape
      exact visiting.parentsBefore (List.append_inj' innerShape rfl).1

/-- Where no parent of the class at hand is on the path or unvisited, all have been left. -/
theorem parents_left
    {parents : Nat → List Nat}
    {ids unvisited outer left : List Nat}
    {current : Nat}
    (visiting : Visiting parents ids unvisited (current :: outer) left)
    (closed : parents current ⊆ ids)
    (noCandidate :
      (parents current).find?
        (fun parent => (current :: outer).contains parent || unvisited.contains parent) =
          none) :
    parents current ⊆ left := by
  intro parent isParent
  have noneOpen := List.find?_eq_none.mp noCandidate parent isParent
  simp only [Bool.or_eq_true, List.contains_iff_mem, not_or] at noneOpen
  have everywhere := visiting.perm.mem_iff.mpr (closed isParent)
  simp only [List.mem_append] at everywhere
  exact (everywhere.resolve_left noneOpen.2).resolve_left noneOpen.1

/-- A parent of the class at hand that is on the path closes a cycle. -/
theorem isCycle_closePath
    {parents : Nat → List Nat}
    {ids unvisited outer left : List Nat}
    {current repeated : Nat}
    (visiting : Visiting parents ids unvisited (current :: outer) left)
    (isParent : repeated ∈ parents current)
    (onPath : repeated ∈ current :: outer) :
    IsCycle parents (closePath (current :: outer) repeated) := by
  refine ⟨⟨repeated, ((current :: outer).takeWhile (· != repeated)).reverse, rfl⟩, ?_⟩
  obtain ⟨inner, rest, shape, absent⟩ := List.eq_append_cons_of_mem onPath
  have innerShape : (current :: outer).takeWhile (· != repeated) = inner := by
    rw [shape, List.takeWhile_append_of_pos]
    · simp
    · intro id member
      exact bne_iff_ne.mpr fun same => absent (same ▸ member)
  have chain : (inner ++ [repeated]).IsChain fun parent child => parent ∈ parents child := by
    have whole := visiting.chain
    rw [shape, List.append_cons] at whole
    exact whole.left_of_append
  have closedChain :
      (repeated :: (inner ++ [repeated])).IsChain fun parent child => parent ∈ parents child := by
    refine chain.cons fun head isHead => ?_
    have headIsCurrent : head = current := by
      cases inner <;> simp_all
    exact headIsCurrent ▸ isParent
  rw [closePath, innerShape]
  simpa using List.isChain_reverse.mpr closedChain

end Visiting

section Steps

variable
  {parents : Nat → List Nat}
  {unvisited outer left : List Nat}
  {current parent : Nat}

theorem leavingOrder_leave
    (noCandidate :
      (parents current).find?
        (fun parent => (current :: outer).contains parent || unvisited.contains parent) =
          none) :
    leavingOrder parents unvisited (current :: outer) left =
      leavingOrder parents unvisited outer (left ++ [current]) := by
  rw [leavingOrder]
  split
  · rfl
  · rename_i found
    cases noCandidate.symm.trans found

theorem leavingOrder_close
    (found :
      (parents current).find?
        (fun parent => (current :: outer).contains parent || unvisited.contains parent) =
          some parent)
    (onPath : (current :: outer).contains parent = true) :
    leavingOrder parents unvisited (current :: outer) left =
      .error (closePath (current :: outer) parent) := by
  rw [leavingOrder]
  split
  · rename_i noCandidate
    cases noCandidate.symm.trans found
  · rename_i other foundOther
    rw [found] at foundOther
    cases foundOther
    rw [dif_pos onPath]

theorem leavingOrder_descend
    (found :
      (parents current).find?
        (fun parent => (current :: outer).contains parent || unvisited.contains parent) =
          some parent)
    (offPath : ¬(current :: outer).contains parent = true) :
    leavingOrder parents unvisited (current :: outer) left =
      leavingOrder parents (unvisited.erase parent) (parent :: current :: outer) left := by
  rw [leavingOrder]
  split
  · rename_i noCandidate
    cases noCandidate.symm.trans found
  · rename_i other foundOther
    rw [found] at foundOther
    cases foundOther
    rw [dif_neg offPath]

end Steps

/-- The walk along the parents orders the classes with parents first, or it finds a cycle. -/
theorem leavingOrder_spec
    {parents : Nat → List Nat}
    {ids unvisited path left : List Nat}
    (closed : ∀ id, parents id ⊆ ids)
    (visiting : Visiting parents ids unvisited path left) :
    match leavingOrder parents unvisited path left with
    | .ok order => IsParentsFirst parents ids order
    | .error cycle => IsCycle parents cycle := by
  induction unvisited, path, left using leavingOrder.induct parents with
  | case1 left =>
      rw [leavingOrder]
      exact ⟨by simpa using visiting.perm, visiting.parentsBefore⟩
  | case2 left next rest inductionHypothesis =>
      rw [leavingOrder]
      exact inductionHypothesis visiting.begin
  | case3 unvisited left current outer noCandidate inductionHypothesis =>
      rw [leavingOrder_leave noCandidate]
      exact inductionHypothesis
        (visiting.leave (visiting.parents_left (closed current) noCandidate))
  | case4 unvisited left current outer parent found onPath =>
      rw [leavingOrder_close found onPath]
      exact visiting.isCycle_closePath
        (List.mem_of_find?_eq_some found) (List.contains_iff_mem.mp onPath)
  | case5 unvisited left current outer parent found offPath inductionHypothesis =>
      rw [leavingOrder_descend found offPath]
      have candidate := List.find?_some found
      have isUnvisited : parent ∈ unvisited := by
        rw [Bool.or_eq_true] at candidate
        exact List.contains_iff_mem.mp (candidate.resolve_left offPath)
      exact inductionHypothesis
        (visiting.descend (List.mem_of_find?_eq_some found) isUnvisited)

/-- An order that is accepted has parents first. -/
theorem topologicalOrder_ok
    {hierarchy : Hierarchy}
    {order : List Nat}
    (closed : ∀ id, hierarchy.parentsOf id ⊆ hierarchy.ids)
    (accepted : hierarchy.topologicalOrder = .ok order) :
    IsParentsFirst hierarchy.parentsOf hierarchy.ids order := by
  have spec := leavingOrder_spec closed (.initial hierarchy.parentsOf hierarchy.ids)
  rw [topologicalOrder] at accepted
  split at accepted
  · rename_i left isLeft
    cases accepted
    rw [isLeft] at spec
    exact spec
  · cases accepted

/-- Where no order is accepted, the refusal names the classes of a cycle. -/
theorem topologicalOrder_error
    {hierarchy : Hierarchy}
    {error : DefinitionError}
    (closed : ∀ id, hierarchy.parentsOf id ⊆ hierarchy.ids)
    (refused : hierarchy.topologicalOrder = .error error) :
    ∃ cycle,
      IsCycle hierarchy.parentsOf cycle ∧
        error =
          .circularInheritance (hierarchy.nameOf (cycle.headD 0))
            (cycle.map hierarchy.nameOf) := by
  have spec := leavingOrder_spec closed (.initial hierarchy.parentsOf hierarchy.ids)
  rw [topologicalOrder] at refused
  split at refused
  · cases refused
  · rename_i cycle isCycle
    cases refused
    rw [isCycle] at spec
    exact ⟨cycle, spec, rfl⟩

end Hierarchy

end RecordSchema
