import RecordSchema.Pattern.Layout
import RecordSchema.Pattern.Parser

namespace RecordSchema

/-!
# Matching patterns

A pattern is matched by moving marks through its tree.  A mark on a class means
that the text read so far may end with a character of that class, and one
character moves every mark to the classes that may follow.  No place of the
pattern is visited more than once for a character, so that the time grows with
the product of the two lengths and never exponentially.
-/

namespace Pattern

/-- A pattern with marks on its classes. -/
inductive Marked where
  | empty
  | look (condition : Look)
  | symbol (members : CharSet) (marked : Bool)
  | sequence (first second : Marked)
  | choice (first second : Marked)
  | repeated (body : Marked) (optional : Bool)

namespace Marked

/-- Whether nothing at all matches at a place. -/
def acceptsEmpty (place : Surroundings) : Marked → Bool
  | .empty => true
  | .look condition => condition.holds place
  | .symbol _ _ => false
  | .sequence first second => acceptsEmpty place first && acceptsEmpty place second
  | .choice first second => acceptsEmpty place first || acceptsEmpty place second
  | .repeated body optional => optional || acceptsEmpty place body

/-- Whether the text read so far is a match that ends at a place. -/
def isFinal (place : Surroundings) : Marked → Bool
  | .empty => false
  | .look _ => false
  | .symbol _ marked => marked
  | .sequence first second =>
      isFinal place second || (isFinal place first && acceptsEmpty place second)
  | .choice first second => isFinal place first || isFinal place second
  | .repeated body _ => isFinal place body

/-- Move all marks over one character; `entering` lets a match begin here. -/
def advance (place : Surroundings) (character : Char) (entering : Bool) : Marked → Marked
  | .empty => .empty
  | .look condition => .look condition
  | .symbol members _ => .symbol members (entering && members.contains character)
  | .sequence first second =>
      let onward := isFinal place first || (entering && acceptsEmpty place first)
      .sequence (advance place character entering first) (advance place character onward second)
  | .choice first second =>
      .choice (advance place character entering first) (advance place character entering second)
  | .repeated body optional =>
      .repeated (advance place character (entering || isFinal place body) body) optional

/-- As many copies as told, one after the other, in a balanced tree. -/
def copies (body : Marked) (count : Nat) : Marked :=
  if count = 0 then
    .empty
  else if count = 1 then
    body
  else
    .sequence (copies body (count / 2)) (copies body (count - count / 2))
termination_by count

/-- Several patterns joined in a balanced tree. -/
def joined (join : Marked → Marked → Marked) (unit : Marked) (patterns : List Marked) : Marked :=
  match patterns with
  | [] => unit
  | [pattern] => pattern
  | first :: second :: rest =>
      let all := first :: second :: rest
      let half := all.length / 2
      join (joined join unit (all.take half)) (joined join unit (all.drop half))
termination_by patterns.length
decreasing_by
  all_goals simp only [List.length_take, List.length_drop, List.length_cons]
  all_goals omega

/-- Whether a match begins and ends somewhere in the rest of a text. -/
def findsIn (before : Option Char) (marked : Marked) : List Char → Bool
  | [] =>
      let place : Surroundings := ⟨before, none⟩
      marked.acceptsEmpty place || marked.isFinal place
  | character :: rest =>
      let place : Surroundings := ⟨before, some character⟩
      marked.acceptsEmpty place || marked.isFinal place ||
        findsIn (some character) (marked.advance place character true) rest

end Marked

mutual

/-- A term without marks, its counted repetitions written out. -/
def Term.unmarked : Term → Marked
  | .empty => .empty
  | .text characters =>
      .joined .sequence .empty
        (characters.map fun character => .symbol (CharSet.single character.toNat) false)
  | .set members _ => .symbol members false
  | .look condition => .look condition
  | .capture _ body => body.unmarked
  | .repetition least greatest _ body =>
      let single := body.unmarked
      match greatest with
      | none =>
          if least = 0 then
            .repeated single true
          else
            .sequence (single.copies (least - 1)) (.repeated single false)
      | some most =>
          .sequence (single.copies least) ((Marked.choice .empty single).copies (most - least))
  | .sequence parts => .joined .sequence .empty (Term.unmarkedAll parts)
  | .choice alternatives =>
      .joined .choice (.symbol CharSet.empty false) (Term.unmarkedAll alternatives)

/-- The terms without marks. -/
def Term.unmarkedAll : List Term → List Marked
  | [] => []
  | term :: terms => term.unmarked :: Term.unmarkedAll terms

end

end Pattern

/-- A pattern that texts are checked against. -/
structure Pattern where
  source : String
  marked : Pattern.Marked

namespace Pattern

/-- The pattern of a source text, if it is well formed and there is room for it. -/
def ofSource? (source : String) : Option Pattern :=
  let term? := (Expression.read? source.toList).map Expression.term
  (term?.filter Term.fits).map fun term => ⟨source, term.unmarked⟩

/-- Whether some part of a text matches. -/
def isMatch (pattern : Pattern) (text : String) : Bool :=
  pattern.marked.findsIn none text.toList

/-- Patterns are the same when their sources are. -/
def same (left right : Pattern) : Bool :=
  left.source == right.source

end Pattern

end RecordSchema
