import RecordSchema.DefinitionError

namespace RecordSchema

/-!
# Class hierarchies

Classes are numbered in the order in which they are added, and each knows its
parents and its children by number.  The parents stand in the order in which they
are declared, the children in the order in which they declare this class.

Walks follow one of the two relations.  They visit every class at most once, so
they end also where the hierarchy has a cycle.  As soon as all classes are linked
they are frozen, and a frozen class takes neither parents nor links.
-/

/-- A class with its neighbours. -/
structure HierarchyNode where
  name : String
  parents : List Nat := []
  children : List Nat := []
  frozen : Bool := false
  deriving Repr, DecidableEq

/-- Classes with their parents and children. -/
structure Hierarchy where
  nodes : List HierarchyNode := []
  deriving Repr, DecidableEq

namespace Hierarchy

/-- The hierarchy without classes. -/
def empty : Hierarchy :=
  {}

/-- How many classes there are. -/
def size (hierarchy : Hierarchy) : Nat :=
  hierarchy.nodes.length

/-- The names of the classes by number. -/
def names (hierarchy : Hierarchy) : List String :=
  hierarchy.nodes.map HierarchyNode.name

/-- The numbers of the classes. -/
def ids (hierarchy : Hierarchy) : List Nat :=
  List.range hierarchy.size

/-- The name of a class. -/
def nameOf (hierarchy : Hierarchy) (id : Nat) : String :=
  (hierarchy.nodes[id]?.map HierarchyNode.name).getD ""

/-- The number of a class. -/
def idOf? (hierarchy : Hierarchy) (name : String) : Option Nat :=
  hierarchy.names.idxOf? name

/-- The direct parents of a class in declared order. -/
def parentsOf (hierarchy : Hierarchy) (id : Nat) : List Nat :=
  (hierarchy.nodes[id]?.map HierarchyNode.parents).getD []

/-- The direct children of a class. -/
def childrenOf (hierarchy : Hierarchy) (id : Nat) : List Nat :=
  (hierarchy.nodes[id]?.map HierarchyNode.children).getD []

/-- Whether a class is linked for good. -/
def isFrozen (hierarchy : Hierarchy) (id : Nat) : Bool :=
  (hierarchy.nodes[id]?.map HierarchyNode.frozen).getD false

/-- One more class, without parents. -/
def addClass (hierarchy : Hierarchy) (name : String) : Except DefinitionError Hierarchy :=
  if (hierarchy.idOf? name).isSome then
    .error (.duplicateClass name)
  else
    .ok ⟨hierarchy.nodes ++ [{ name := name, parents := [], children := [] }]⟩

/-- The hierarchy with one more parent of a class. -/
def withParent (hierarchy : Hierarchy) (child parent : Nat) : Hierarchy :=
  let declared := hierarchy.nodes.modify child fun node =>
    { node with parents := node.parents ++ [parent] }
  ⟨declared.modify parent fun node => { node with children := node.children ++ [child] }⟩

/-- One more parent of a class, which may be neither the class itself nor a parent already. -/
def addParent (hierarchy : Hierarchy) (child parent : Nat) : Except DefinitionError Hierarchy :=
  let name := hierarchy.nameOf child
  if child = parent then
    .error (.circularInheritance name [name, name])
  else if hierarchy.isFrozen child then
    .error (.classFrozen name)
  else if (hierarchy.parentsOf child).contains parent then
    .error (.duplicateParent name (hierarchy.nameOf parent))
  else
    .ok (hierarchy.withParent child parent)

/-- All classes linked for good. -/
def freeze (hierarchy : Hierarchy) : Hierarchy :=
  ⟨hierarchy.nodes.map fun node => { node with frozen := true }⟩

/--
The unseen classes that a stack of classes leads to.  The first unseen class of
the stack is visited next, and what it leads to comes before the rest.
-/
def walk (edges : Nat → List Nat) (unseen stack : List Nat) : List Nat :=
  match _found : stack.find? unseen.contains with
  | none => []
  | some next => next :: walk edges (unseen.erase next) (edges next ++ stack)
termination_by unseen.length
decreasing_by
  have member : next ∈ unseen := List.contains_iff_mem.mp (List.find?_some _found)
  have shorter := List.length_erase_of_mem member
  have positive := List.length_pos_of_mem member
  omega

/-- Every ancestor of a class, each with its own ancestors behind it, in declared order. -/
def ancestors (hierarchy : Hierarchy) (id : Nat) : List Nat :=
  walk hierarchy.parentsOf hierarchy.ids (hierarchy.parentsOf id)

/-- Every class that a class is an ancestor of, each with its own descendants behind it. -/
def descendants (hierarchy : Hierarchy) (id : Nat) : List Nat :=
  walk hierarchy.childrenOf hierarchy.ids (hierarchy.childrenOf id)

/-- Whether a class inherits, directly or not, from another. -/
def isDescendantOf (hierarchy : Hierarchy) (id ancestor : Nat) : Bool :=
  (hierarchy.ancestors id).contains ancestor

/-- A path that runs into one of its own classes, from that class to its return. -/
def closePath (path : List Nat) (repeated : Nat) : List Nat :=
  repeated :: ((path.takeWhile (· != repeated)).reverse ++ [repeated])

/--
The order in which a walk along the parents leaves the classes.  The path leads
from the class at hand back to where the walk began; a parent on it closes a cycle,
which is the error.
-/
def leavingOrder (parents : Nat → List Nat) (unvisited path left : List Nat) :
    Except (List Nat) (List Nat) :=
  match path with
  | [] =>
      match unvisited with
      | [] => .ok left
      | next :: rest => leavingOrder parents rest [next] left
  | current :: outer =>
      match _found : (parents current).find? fun parent =>
          (current :: outer).contains parent || unvisited.contains parent with
      | none => leavingOrder parents unvisited outer (left ++ [current])
      | some parent =>
          if _onPath : (current :: outer).contains parent then
            .error (closePath (current :: outer) parent)
          else
            leavingOrder parents (unvisited.erase parent) (parent :: current :: outer) left
termination_by 2 * unvisited.length + path.length
decreasing_by
  · simp_wf
    omega
  · simp_wf
  · have candidate := List.find?_some _found
    have member : parent ∈ unvisited := by
      rw [Bool.or_eq_true] at candidate
      exact List.contains_iff_mem.mp (candidate.resolve_left _onPath)
    have shorter := List.length_erase_of_mem member
    have positive := List.length_pos_of_mem member
    simp only [List.length_cons]
    omega

/-- Every class once, parents before their children; a cycle is refused. -/
def topologicalOrder (hierarchy : Hierarchy) : Except DefinitionError (List Nat) :=
  match leavingOrder hierarchy.parentsOf hierarchy.ids [] [] with
  | .ok order => .ok order
  | .error cycle =>
      .error (.circularInheritance (hierarchy.nameOf (cycle.headD 0)) (cycle.map hierarchy.nameOf))

end Hierarchy

end RecordSchema
