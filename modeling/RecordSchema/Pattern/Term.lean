import RecordSchema.Pattern.Expression

namespace RecordSchema

/-!
# Terms

A term is a pattern in simplified form.  Characters side by side are one text,
sequences and choices are not nested directly, nothing empty stands in a
sequence, single characters and classes to choose from are one class, and what
all alternatives begin with is written once.  Repeating what matches nothing but
the empty text more than once changes nothing.
-/

namespace Pattern

/-- A pattern in simplified form; a class of no characters never matches. -/
inductive Term where
  | empty
  | text (characters : List Char)
  | set (members : CharSet) (unicode : Bool)
  | look (condition : Look)
  | repetition (least : Nat) (greatest : Option Nat) (greedy : Bool) (body : Term)
  | capture (label : Capture) (body : Term)
  | sequence (parts : List Term)
  | choice (alternatives : List Term)
  deriving Repr

namespace Term

mutual

/-- Whether two terms are the same. -/
def same : Term → Term → Bool
  | .empty, .empty => true
  | .text left, .text right => left == right
  | .set left leftUnicode, .set right rightUnicode =>
      decide (left = right) && leftUnicode == rightUnicode
  | .look left, .look right => decide (left = right)
  | .repetition leftLeast leftGreatest leftGreedy left,
      .repetition rightLeast rightGreatest rightGreedy right =>
      leftLeast == rightLeast && leftGreatest == rightGreatest && leftGreedy == rightGreedy &&
        same left right
  | .capture leftLabel left, .capture rightLabel right =>
      decide (leftLabel = rightLabel) && same left right
  | .sequence left, .sequence right => sameAll left right
  | .choice left, .choice right => sameAll left right
  | _, _ => false

/-- Whether two lists of terms are the same. -/
def sameAll : List Term → List Term → Bool
  | [], [] => true
  | left :: lefts, right :: rights => same left right && sameAll lefts rights
  | _, _ => false

end

/-- The length of a character in bytes. -/
def byteLength (code : Nat) : Nat :=
  if code < 0x80 then 1 else if code < 0x800 then 2 else if code < 0x10000 then 3 else 4

/-- The length of a text in bytes. -/
def textLength (characters : List Char) : Nat :=
  characters.foldl (fun length character => length + byteLength character.toNat) 0

/-- The sum of lengths, if all are known. -/
def sumLengths : List (Option Nat) → Option Nat
  | [] => some 0
  | length :: lengths => length.bind fun one => (sumLengths lengths).map fun others => one + others

/-- The result of an operation on lengths, if there are any and all are known. -/
def combineLengths (operation : Nat → Nat → Nat) : List (Option Nat) → Option Nat
  | [] => none
  | [length] => length
  | length :: lengths =>
      length.bind fun one => (combineLengths operation lengths).map (operation one)

mutual

/-- The length of the shortest match in bytes, if there may be one. -/
def leastLength : Term → Option Nat
  | .empty => some 0
  | .text characters => some (textLength characters)
  | .set members _ => members.ranges.head?.map fun range => byteLength range.1
  | .look _ => some 0
  | .repetition least _ _ body => (leastLength body).map fun length => length * least
  | .capture _ body => leastLength body
  | .sequence parts => sumLengths (leastLengths parts)
  | .choice alternatives => combineLengths min (leastLengths alternatives)

/-- The shortest lengths of terms. -/
def leastLengths : List Term → List (Option Nat)
  | [] => []
  | term :: terms => leastLength term :: leastLengths terms

end

mutual

/-- The length of the longest match in bytes, if it is bounded. -/
def greatestLength : Term → Option Nat
  | .empty => some 0
  | .text characters => some (textLength characters)
  | .set members _ => members.ranges.getLast?.map fun range => byteLength range.2
  | .look _ => some 0
  | .repetition _ greatest _ body =>
      greatest.bind fun most => (greatestLength body).map fun length => length * most
  | .capture _ body => greatestLength body
  | .sequence parts => sumLengths (greatestLengths parts)
  | .choice alternatives => combineLengths max (greatestLengths alternatives)

/-- The longest lengths of terms. -/
def greatestLengths : List Term → List (Option Nat)
  | [] => []
  | term :: terms => greatestLength term :: greatestLengths terms

end

/-- Whether a term matches nothing but the empty text. -/
def onlyEmpty (term : Term) : Bool :=
  greatestLength term == some 0

mutual

/-- Whether every match begins at the start of the text. -/
def startsAtTextStart : Term → Bool
  | .look condition => decide (condition = .textStart)
  | .repetition least _ _ body => 0 < least && startsAtTextStart body
  | .capture _ body => startsAtTextStart body
  | .sequence parts => firstStartsAtTextStart parts
  | .choice alternatives => allStartAtTextStart alternatives
  | _ => false

/-- The same for a sequence: the parts up to the first that takes characters count. -/
def firstStartsAtTextStart : List Term → Bool
  | [] => false
  | part :: parts =>
      startsAtTextStart part || (onlyEmpty part && firstStartsAtTextStart parts)

/-- The same for each of several alternatives. -/
def allStartAtTextStart : List Term → Bool
  | [] => true
  | alternative :: alternatives =>
      startsAtTextStart alternative && allStartAtTextStart alternatives

end

mutual

/-- Whether every match ends at the end of the text. -/
def endsAtTextEnd : Term → Bool
  | .look condition => decide (condition = .textEnd)
  | .repetition least _ _ body => 0 < least && endsAtTextEnd body
  | .capture _ body => endsAtTextEnd body
  | .sequence parts => lastEndsAtTextEnd parts
  | .choice alternatives => allEndAtTextEnd alternatives
  | _ => false

/-- The same for a sequence: the parts from the last that takes characters on count. -/
def lastEndsAtTextEnd : List Term → Bool
  | [] => false
  | part :: parts =>
      lastEndsAtTextEnd parts || (parts.all onlyEmpty && endsAtTextEnd part)

/-- The same for each of several alternatives. -/
def allEndAtTextEnd : List Term → Bool
  | [] => true
  | alternative :: alternatives =>
      endsAtTextEnd alternative && allEndAtTextEnd alternatives

end

/-- The term of a class: no class but a text for a single character. -/
def ofSet (members : CharSet) (unicode : Bool) : Term :=
  match members.ranges with
  | [] => .set CharSet.empty false
  | [(first, last)] => if first = last then .text [Char.ofNat first] else .set members unicode
  | _ => .set members unicode

/-- A term repeated. -/
def ofRepetition (least : Nat) (greatest : Option Nat) (greedy : Bool) (body : Term) : Term :=
  let (least, greatest) :=
    if onlyEmpty body then
      (min least 1, some (min (greatest.getD 1) 1))
    else
      (least, greatest)
  if least = 0 && greatest == some 0 then
    .empty
  else if least = 1 && greatest == some 1 then
    body
  else
    .repetition least greatest greedy body

/-- A part put before the parts of a sequence; texts side by side become one. -/
def prepend (part : Term) (parts : List Term) : List Term :=
  match part, parts with
  | .empty, _ => parts
  | .text characters, .text further :: rest => .text (characters ++ further) :: rest
  | _, _ => part :: parts

/-- The parts of a term in a sequence. -/
def partsOf : Term → List Term
  | .sequence parts => parts
  | part => [part]

/-- Terms one after the other. -/
def ofSequence (terms : List Term) : Term :=
  match (terms.flatMap partsOf).foldr prepend [] with
  | [] => .empty
  | [part] => part
  | parts => .sequence parts

/-- The alternatives of a term in a choice. -/
def alternativesOf : Term → List Term
  | .choice alternatives => alternatives
  | alternative => [alternative]

/-- The character of a text of one character. -/
def singleCharacter? : Term → Option Char
  | .text [character] => some character
  | _ => none

/-- The members of a class. -/
def members? : Term → Option CharSet
  | .set members _ => some members
  | _ => none

/-- One class in place of alternatives that are single characters or that are classes. -/
def classOfAlternatives? (alternatives : List Term) : Option Term :=
  match alternatives.mapM singleCharacter? with
  | some characters =>
      some (ofSet (CharSet.ofRanges (characters.map fun character =>
        (character.toNat, character.toNat))) true)
  | none =>
      (alternatives.mapM members?).map fun sets =>
        ofSet (CharSet.ofRanges (sets.flatMap fun set => set.ranges)) true

/-- How many parts two sequences have in common from the first on. -/
def commonParts : List Term → List Term → Nat
  | left :: lefts, right :: rights => if same left right then commonParts lefts rights + 1 else 0
  | _, _ => 0

/-- The parts of a sequence. -/
def sequenceParts? : Term → Option (List Term)
  | .sequence parts => some parts
  | _ => none

/-- The parts that two or more alternatives all begin with, and what is left of each. -/
def commonStart? (alternatives : List Term) : Option (List Term × List Term) :=
  (alternatives.mapM sequenceParts?).bind fun sequences =>
    match sequences with
    | first :: second :: others =>
        let count := (second :: others).foldl
          (fun count parts => min count (commonParts first parts)) first.length
        if count = 0 then
          none
        else
          some (first.take count, sequences.map fun parts => ofSequence (parts.drop count))
    | _ => none

/-- One of several terms that begin with nothing in common. -/
def ofDistinct (terms : List Term) : Term :=
  match terms.flatMap alternativesOf with
  | [] => .set CharSet.empty false
  | [alternative] => alternative
  | alternatives => (classOfAlternatives? alternatives).getD (.choice alternatives)

/-- One of several terms. -/
def ofChoice (terms : List Term) : Term :=
  match commonStart? (terms.flatMap alternativesOf) with
  | some (start, rests) => ofSequence (start ++ [ofDistinct rests])
  | none => ofDistinct terms

end Term

mutual

/-- The simplified form of a pattern. -/
def Expression.term : Expression → Term
  | .empty => .empty
  | .flags => .empty
  | .set members unicode _ => Term.ofSet members unicode
  | .look condition => .look condition
  | .group none body => body.term
  | .group (some label) body => .capture label body.term
  | .repetition least greatest greedy body => Term.ofRepetition least greatest greedy body.term
  | .sequence parts => Term.ofSequence (Expression.terms parts)
  | .choice alternatives => Term.ofChoice (Expression.terms alternatives)

/-- The simplified forms of patterns. -/
def Expression.terms : List Expression → List Term
  | [] => []
  | expression :: expressions => expression.term :: Expression.terms expressions

end

end Pattern

end RecordSchema
