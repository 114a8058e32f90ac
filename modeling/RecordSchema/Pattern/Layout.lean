import Std.Data.HashMap
import RecordSchema.Pattern.ByteRun
import RecordSchema.Pattern.Term

namespace RecordSchema

/-!
# The room that a pattern takes

A pattern may be refused because of its size.  What counts is the room of an
automaton over bytes that finds it: of one that reads the text forward, and of
one that reads it backward.  Both are laid out state by state, without being
built, and the layout stops as soon as the room is used up.

Classes beyond ASCII take one state for every different way to go on.  While such
a class is laid out, states are remembered in a table of bounded size, and a
state that is found there is shared.  An entry is lost when another takes its
place, so that the room also depends on the numbers of the states.
-/

namespace Pattern

/-- The states laid out so far and the room they take. -/
structure Room where
  states : Nat
  used : Nat
  deriving Repr, DecidableEq

namespace Room

/-- The room before the first state. -/
def initial : Room :=
  ⟨0, 0⟩

/-- How much room there is. -/
def greatest : Nat :=
  10 <<< 20

/-- The room that every state takes. -/
def stateSize : Nat :=
  32

/-- The room that each way on from a state with several kinds of bytes takes. -/
def transitionSize : Nat :=
  8

/-- The room that each way on from a fork takes. -/
def linkSize : Nat :=
  4

/-- More room used, if there is so much. -/
def use? (room : Room) (states extra : Nat) : Option Room :=
  let used := room.used + stateSize * states + extra
  if used ≤ greatest then some ⟨room.states + states, used⟩ else none

end Room

/-- A layout of some part: it takes room and tells something of the part. -/
abbrev Layout (α : Type) :=
  StateT Room Option α

namespace Layout

/-- The way out of a part: a fork takes more room for every way on. -/
inductive Exit where
  | single
  | fork
  deriving Repr, DecidableEq

/-- The direction in which the automaton reads. -/
inductive Direction where
  | forward
  | backward
  deriving Repr, DecidableEq

/-- The items in the order in which they are read. -/
def Direction.order {α : Type} (direction : Direction) (items : List α) : List α :=
  match direction with
  | .forward => items
  | .backward => items.reverse

/-- Some states, with extra room for all of them together. -/
def addStates (states extra : Nat) : Layout Unit :=
  fun room => (room.use? states extra).map fun next => ((), next)

/-- One state with extra room, by its number. -/
def addState (extra : Nat) : Layout Nat :=
  fun room => (room.use? 1 extra).map fun next => (room.states, next)

/-- Further ways on from forks. -/
def addLinks (count : Nat) : Layout Unit :=
  addStates 0 (Room.linkSize * count)

/-- A way on from the exit of a part. -/
def follow : Exit → Layout Unit
  | .single => pure ()
  | .fork => addLinks 1

/-- One state that is passed through, or some in a row. -/
def passing (count : Nat) : Layout Exit := do
  addStates count 0
  return .single

/-- A table with a bounded number of places for keys and the states they stand for. -/
structure Memory where
  places : Nat
  entries : Std.HashMap Nat (List Nat × Nat)

namespace Memory

/-- A table without entries. -/
def ofPlaces (places : Nat) : Memory :=
  ⟨places, ∅⟩

/-- The hash of a key: each number is mixed in by an exclusive or and a multiplication. -/
def hash (key : List Nat) : UInt64 :=
  key.foldl (fun mixed number => (mixed ^^^ number.toUInt64) * 1099511628211)
    14695981039346656037

/-- The place of a key. -/
def placeOf (memory : Memory) (key : List Nat) : Nat :=
  (hash key).toNat % memory.places

/-- The state that a key stands for, if the key has not lost its place. -/
def find? (memory : Memory) (key : List Nat) : Option Nat :=
  (memory.entries[memory.placeOf key]?).bind fun entry =>
    if entry.1 == key then some entry.2 else none

/-- The table in which a key has taken its place. -/
def store (memory : Memory) (key : List Nat) (state : Nat) : Memory :=
  { memory with entries := memory.entries.insert (memory.placeOf key) (key, state) }

end Memory

/-- A layout that shares states. -/
abbrev Sharing (α : Type) :=
  StateT Memory Layout α

/-- The state of a key: the one remembered or a new one. -/
def sharedState (key : List Nat) (extra : Nat) : Sharing Nat := do
  let memory ← get
  match memory.find? key with
  | some state => return state
  | none =>
      let state ← (addState extra : Layout Nat)
      modify fun memory => memory.store key state
      return state

/-- Lay out a part with a table of its own. -/
def withMemory {α : Type} (places : Nat) (part : Sharing α) : Layout α := do
  let (result, _) ← part.run (Memory.ofPlaces places)
  return result

/-- The places for states that are read forward. -/
def forwardPlaces : Nat :=
  10000

/-- The places for states that are read backward. -/
def backwardPlaces : Nat :=
  1000

/-- A state for byte strings of bounded length that all lead to a target. -/
def forwardState (target : Nat) : (length : Nat) → List (List ByteRun) → Sharing Nat
  | 0, _ => return target
  | length + 1, strings => do
      let groups := strings.splitBy fun left right => left.head? == right.head?
      let edges ← groups.mapM fun group =>
        match group with
        | (run :: []) :: _ => return [run.first, run.last, target]
        | (run :: _) :: _ => do
            let next ← forwardState target length (group.map List.tail)
            return [run.first, run.last, next]
        | _ => return []
      sharedState edges.flatten (Room.transitionSize * groups.length)

/-- The states of one byte string that leads to a target, from its first byte on. -/
def backwardState (target : Nat) (bytes : List ByteRun) : Sharing Nat :=
  bytes.foldlM (fun state run => sharedState [state, run.first, run.last] 0) target

/-- The states of a class. -/
def ofSet (direction : Direction) (members : CharSet) : Layout Exit :=
  if members.isAscii then do
    addStates 2 (Room.transitionSize * members.ranges.length)
    return .single
  else
    let strings := ByteRun.stringsOfSet members
    match direction with
    | .forward => do
        let target ← addState 0
        let _ ← withMemory forwardPlaces (forwardState target 4 strings)
        return .single
    | .backward => do
        addStates 1 0
        let target ← addState 0
        withMemory backwardPlaces (strings.forM fun bytes => discard (backwardState target bytes))
        addLinks strings.length
        return .single

/-- Parts of a list of byte strings between the empty ones among them. -/
def splitAtEmpty : List (List Nat) → List (List (List Nat))
  | [] => [[]]
  | [] :: strings => [] :: splitAtEmpty strings
  | bytes :: strings =>
      match splitAtEmpty strings with
      | [] => [[bytes]]
      | part :: parts => (bytes :: part) :: parts

/-- The parts in which a tree of byte strings tries them: empty strings at the start are one. -/
def treeParts (strings : List (List Nat)) : List (List (List Nat)) :=
  let further := strings.dropWhile List.isEmpty
  if further.length < strings.length then [] :: splitAtEmpty further else splitAtEmpty further

/-- Two counts of states with their extra room, added up. -/
def addSizes (left right : Nat × Nat) : Nat × Nat :=
  (left.1 + right.1, left.2 + right.2)

/-- The number of states and the extra room of a tree of byte strings of bounded length. -/
def treeSize : (length : Nat) → List (List Nat) → Nat × Nat
  | 0, _ => (0, 0)
  | length + 1, strings =>
      if strings.all List.isEmpty then
        (0, 0)
      else
        let parts := treeParts strings
        let sizes := parts.map fun part =>
          let bytes := (part.filterMap List.head?).eraseDups
          let below := bytes.map fun byte =>
            treeSize length ((part.filter fun string => string.head? == some byte).map List.tail)
          let own := match bytes with
            | [] => (0, 0)
            | [_] => (1, 0)
            | _ => (1, Room.transitionSize * bytes.length)
          below.foldl addSizes own
        let links := (parts.filter fun part => !part.isEmpty).length + (parts.length - 1)
        sizes.foldl addSizes (1, Room.linkSize * links)

/-- The states of texts to choose from: a tree of their bytes. -/
def ofTexts (direction : Direction) (texts : List (List Char)) : Layout Exit := do
  let strings := texts.map fun text => direction.order (ByteRun.bytesOfText text)
  let longest := (strings.map List.length).foldl max 0
  let (states, extra) := treeSize (longest + 1) strings
  addStates (states + 1) extra
  return .single

/-- Further copies of a part, each after the exit of the one before. -/
def moreCopies (part : Layout Exit) : (count : Nat) → Exit → Layout Exit
  | 0, exit => return exit
  | count + 1, exit => do
      let next ← part
      follow exit
      moreCopies part count next

/-- Copies of a part, one after the other. -/
def copies (part : Layout Exit) : (count : Nat) → Layout Exit
  | 0 => passing 1
  | count + 1 => do
      let exit ← part
      moreCopies part count exit

/-- Copies of a part that may each be the last: from each a way leads to the end. -/
def optionalCopies (part : Layout Exit) : (count : Nat) → Exit → Layout Exit
  | 0, exit => return exit
  | count + 1, exit => do
      addStates 1 0
      let next ← part
      follow exit
      addLinks 2
      optionalCopies part count next

/-- A part that may be passed over. -/
def optional (part : Layout Exit) : Layout Exit := do
  addStates 1 0
  let exit ← part
  addStates 1 0
  addLinks 2
  follow exit
  return .single

/-- A part as often as wanted, but at least once. -/
def onceOrMore (part : Layout Exit) : Layout Exit := do
  let exit ← part
  addStates 1 0
  follow exit
  addLinks 1
  return .fork

/-- A part as often as wanted; one that may match the empty text is entered and left apart. -/
def anyTimes (mayBeEmpty : Bool) (part : Layout Exit) : Layout Exit :=
  if mayBeEmpty then do
    discard (onceOrMore part)
    addStates 2 0
    addLinks 3
    return .single
  else do
    addStates 1 0
    addLinks 1
    let exit ← part
    follow exit
    return .fork

/-- A part repeated. -/
def repetition (least : Nat) (greatest : Option Nat) (mayBeEmpty : Bool) (part : Layout Exit) :
    Layout Exit :=
  match greatest with
  | none =>
      match least with
      | 0 => anyTimes mayBeEmpty part
      | 1 => onceOrMore part
      | before + 1 => do
          let exit ← copies part before
          follow exit
          onceOrMore part
  | some most =>
      if least = 0 && most = 1 then
        optional part
      else if least = most then
        copies part least
      else do
        let exit ← copies part least
        addStates 1 0
        let last ← optionalCopies part (most - least) exit
        follow last
        return .single

/-- Parts one after the other. -/
def inSequence : List (Layout Exit) → Layout Exit
  | [] => passing 1
  | [part] => part
  | part :: parts => do
      let exit ← part
      follow exit
      inSequence parts

/-- The ways through further alternatives to a common end. -/
def furtherAlternatives : List (Layout Exit) → Layout Unit
  | [] => return ()
  | part :: parts => do
      let exit ← part
      addLinks 1
      follow exit
      furtherAlternatives parts

/-- A fork to each of several alternatives and back to a common end. -/
def inChoice : List (Layout Exit) → Layout Exit
  | [] => passing 1
  | [part] => part
  | first :: second :: parts => do
      let firstExit ← first
      let secondExit ← second
      addStates 2 0
      addLinks 2
      follow firstExit
      follow secondExit
      furtherAlternatives parts
      return .single

/-- The texts that alternatives are, if all of them are texts. -/
def texts? (alternatives : List Term) : Option (List (List Char)) :=
  alternatives.mapM fun alternative =>
    match alternative with
    | .text characters => some characters
    | _ => none

mutual

/-- The states of a term. -/
def ofTerm (direction : Direction) : Term → Layout Exit
  | .empty => passing 1
  | .text characters => passing (Term.textLength characters)
  | .set members _ => ofSet direction members
  | .look _ => passing 1
  | .repetition least greatest _ body =>
      let mayBeEmpty := !(body.leastLength.any fun length => 0 < length)
      repetition least greatest mayBeEmpty (ofTerm direction body)
  | .capture _ body =>
      match direction with
      | .forward => do
          addStates 1 0
          let exit ← ofTerm direction body
          addStates 1 0
          follow exit
          return .single
      | .backward => ofTerm direction body
  | .sequence parts => inSequence (direction.order (ofTerms direction parts))
  | .choice alternatives =>
      match texts? alternatives with
      | some texts => ofTexts direction texts
      | none => inChoice (ofTerms direction alternatives)

/-- The states of each of several terms. -/
def ofTerms (direction : Direction) : List Term → List (Layout Exit)
  | [] => []
  | term :: terms => ofTerm direction term :: ofTerms direction terms

end

/-- Whether matches are found only where the automaton begins to read. -/
def isAnchored (direction : Direction) (term : Term) : Bool :=
  match direction with
  | .forward => term.startsAtTextStart
  | .backward => term.endsAtTextEnd

/-- The states of a whole pattern: a loop over bytes before it unless it is anchored. -/
def ofPattern (direction : Direction) (term : Term) : Layout Unit := do
  if isAnchored direction term then
    addStates 1 0
  else
    addStates 3 (Room.transitionSize + 2 * Room.linkSize)
  let exit ← ofTerm direction (.capture ⟨0, none⟩ term)
  addStates 1 0
  follow exit

/-- Whether there is room for the states of a pattern. -/
def fits (direction : Direction) (term : Term) : Bool :=
  (ofPattern direction term Room.initial).isSome

end Layout

/-- How many plain texts to choose from are searched for without an automaton over bytes. -/
def leastManyTexts : Nat :=
  3000

/-- Whether a term is a choice of so many plain texts. -/
def Term.isManyTexts : Term → Bool
  | .choice alternatives =>
      (Layout.texts? alternatives).any fun texts => leastManyTexts ≤ texts.length
  | _ => false

/-- Whether there is room for a pattern. -/
def Term.fits (term : Term) : Bool :=
  term.isManyTexts || (Layout.fits .forward term && Layout.fits .backward term)

end Pattern

end RecordSchema
