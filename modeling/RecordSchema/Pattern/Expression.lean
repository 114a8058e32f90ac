import RecordSchema.Pattern.Property

namespace RecordSchema

/-!
# Pattern expressions

The tree of a pattern as it is written, with every class of characters already
worked out.  How deep a tree may be nested is bounded.
-/

namespace Pattern

/-- A condition on the place between two characters. -/
inductive Look where
  | textStart
  | textEnd
  | lineStart
  | lineEnd
  | lineStartCrlf
  | lineEndCrlf
  | wordEdge (ascii : Bool)
  | wordInside (ascii : Bool)
  | wordStart (ascii : Bool)
  | wordEnd (ascii : Bool)
  | wordStartHalf (ascii : Bool)
  | wordEndHalf (ascii : Bool)
  deriving Repr, DecidableEq

/-- The characters on the two sides of a place. -/
structure Surroundings where
  before : Option Char
  after : Option Char
  deriving Repr, DecidableEq

/-- Whether a side of a place has a character that words are made of. -/
def isWord (ascii : Bool) (side : Option Char) : Bool :=
  match side with
  | none => false
  | some character => (if ascii then asciiWordSet else wordSet).contains character

/-- Whether a condition holds at a place. -/
def Look.holds (look : Look) (place : Surroundings) : Bool :=
  match look with
  | .textStart => place.before.isNone
  | .textEnd => place.after.isNone
  | .lineStart => place.before.isNone || place.before == some '\n'
  | .lineEnd => place.after.isNone || place.after == some '\n'
  | .lineStartCrlf =>
      place.before.isNone || place.before == some '\n' ||
        (place.before == some '\r' && place.after != some '\n')
  | .lineEndCrlf =>
      place.after.isNone || place.after == some '\r' ||
        (place.after == some '\n' && place.before != some '\r')
  | .wordEdge ascii => isWord ascii place.before != isWord ascii place.after
  | .wordInside ascii => isWord ascii place.before == isWord ascii place.after
  | .wordStart ascii => !isWord ascii place.before && isWord ascii place.after
  | .wordEnd ascii => isWord ascii place.before && !isWord ascii place.after
  | .wordStartHalf ascii => !isWord ascii place.before
  | .wordEndHalf ascii => !isWord ascii place.after

/-- What a group is known by: its number among the groups that capture, and its name. -/
structure Capture where
  number : Nat
  name : Option (List Char)
  deriving Repr, DecidableEq

/--
A pattern as written.  A class keeps whether it was written in Unicode mode and
how deep classes were nested in it; a group has a label if it captures.
-/
inductive Expression where
  | empty
  | flags
  | set (members : CharSet) (unicode : Bool) (nesting : Nat)
  | look (condition : Look)
  | group (label : Option Capture) (body : Expression)
  | repetition (least : Nat) (greatest : Option Nat) (greedy : Bool) (body : Expression)
  | sequence (parts : List Expression)
  | choice (alternatives : List Expression)
  deriving Repr

namespace Expression

/-- A sequence of one part is that part, and one of none is empty. -/
def ofParts : List Expression → Expression
  | [] => empty
  | [part] => part
  | parts => sequence parts

/-- A choice of one alternative is that alternative. -/
def ofAlternatives : List Expression → Expression
  | [] => empty
  | [alternative] => alternative
  | alternatives => choice alternatives

mutual

/-- How deep groups, classes, repetitions, sequences and choices are nested. -/
def nesting : Expression → Nat
  | .empty => 0
  | .flags => 0
  | .set _ _ depth => depth
  | .look _ => 0
  | .group _ body => nesting body + 1
  | .repetition _ _ _ body => nesting body + 1
  | .sequence parts => nestingList parts + 1
  | .choice alternatives => nestingList alternatives + 1

/-- The deepest nesting in a list. -/
def nestingList : List Expression → Nat
  | [] => 0
  | part :: parts => max (nesting part) (nestingList parts)

end

/-- How deep a pattern may be nested. -/
def greatestNesting : Nat :=
  250

end Expression

end Pattern

end RecordSchema
