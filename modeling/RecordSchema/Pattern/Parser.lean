import RecordSchema.Pattern.Expression
import RecordSchema.Text.Blank
import RecordSchema.Text.Integer

namespace RecordSchema

/-!
# Reading patterns

A pattern is read from left to right.  The groups that are open around the
current place are kept as a stack of frames, and the flags in force there decide
how classes and conditions are worked out.  A reader for one construct returns
what it read and the rest of the text.
-/

namespace Pattern

/-- What a reader returns: what it read and the rest. -/
abbrev Reading (α : Type) :=
  Option (α × List Char)

/-- The flags that change how the following text is read. -/
structure Flags where
  ignoreCase : Bool
  multiLine : Bool
  dotMatchesLineFeed : Bool
  crlf : Bool
  unicode : Bool
  spaced : Bool
  lazyFirst : Bool
  deriving Repr, DecidableEq

namespace Flags

/-- The flags at the start of a pattern. -/
def initial : Flags :=
  ⟨false, false, false, false, true, false, false⟩

/-- The flags with one of them set or cleared. -/
def set (flags : Flags) (letter : Char) (value : Bool) : Flags :=
  match letter with
  | 'i' => { flags with ignoreCase := value }
  | 'm' => { flags with multiLine := value }
  | 's' => { flags with dotMatchesLineFeed := value }
  | 'R' => { flags with crlf := value }
  | 'u' => { flags with unicode := value }
  | 'x' => { flags with spaced := value }
  | 'U' => { flags with lazyFirst := value }
  | _ => flags

/-- The letters of the flags; `U` lets repetitions prefer few copies to many. -/
def isLetter (letter : Char) : Bool :=
  letter == 'i' || letter == 'm' || letter == 's' || letter == 'U' || letter == 'u' ||
    letter == 'R' || letter == 'x'

end Flags

/-- Pass over blanks and over comments from a hash to the end of the line. -/
def skipSpaced : (inComment : Bool) → List Char → List Char
  | _, [] => []
  | true, character :: rest => skipSpaced (character != '\n') rest
  | false, character :: rest =>
      if Text.isBlank character then
        skipSpaced false rest
      else if character = '#' then
        skipSpaced true rest
      else
        character :: rest

/-- Pass over blanks and comments where the flags let them stand. -/
def skip (flags : Flags) (text : List Char) : List Char :=
  if flags.spaced then skipSpaced false text else text

/-- Passing over blanks leaves no more text than there was. -/
theorem length_skipSpaced_le (inComment : Bool) (text : List Char) :
    (skipSpaced inComment text).length ≤ text.length := by
  induction text generalizing inComment with
  | nil => simp [skipSpaced]
  | cons character rest inductionHypothesis =>
      cases inComment with
      | true => exact Nat.le_succ_of_le (inductionHypothesis _)
      | false =>
          rw [skipSpaced]
          split
          · exact Nat.le_succ_of_le (inductionHypothesis _)
          · split
            · exact Nat.le_succ_of_le (inductionHypothesis _)
            · exact Nat.le_refl _

/-- Passing over blanks leaves no more text than there was. -/
theorem length_skip_le (flags : Flags) (text : List Char) :
    (skip flags text).length ≤ text.length := by
  unfold skip
  split
  · exact length_skipSpaced_le false text
  · exact Nat.le_refl _

/-- What follows the first character after blanks is shorter than the text. -/
theorem length_lt_of_skip_eq_cons
    {flags : Flags} {text rest : List Char} {character : Char}
    (skipped : skip flags text = character :: rest) :
    rest.length < text.length := by
  have bound := length_skip_le flags text
  rw [skipped] at bound
  exact bound

/-- The next character that is no blank; the text of a comment counts from its second sign on. -/
def peekSpaced : (inComment : Bool) → List Char → Option Char
  | _, [] => none
  | inComment, character :: rest =>
      if Text.isBlank character then
        peekSpaced inComment rest
      else if !inComment && character = '#' then
        peekSpaced true rest
      else
        some character

/-- The character after a hyphen that tells a range from a hyphen. -/
def peek (flags : Flags) (text : List Char) : Option Char :=
  if flags.spaced then peekSpaced false text else text.head?

/-- The classes with a letter of their own. -/
inductive LetterClass where
  | digit
  | space
  | word
  deriving Repr, DecidableEq

/-- What one escape or one plain character means; `byte` marks a two-digit number. -/
inductive Primitive where
  | literal (character : Char) (byte : Bool)
  | letterClass (kind : LetterClass) (negated : Bool)
  | property (members : CharSet) (negated : Bool)
  | look (condition : Look)
  | dot
  deriving Repr

/-- The characters with a meaning of their own. -/
def isMeta (character : Char) : Bool :=
  "\\.+*?()|[]\x7b\x7d^$#&-~".toList.contains character

/-- The characters that mean themselves after a backslash. -/
def isEscapable (character : Char) : Bool :=
  isMeta character ||
    (character.toNat < 0x80 && !character.isAlphanum && character != '<' && character != '>')

/-- The character of a number, if it has one. -/
def characterOfCode? (code : Nat) : Option Char :=
  if code < 0xD800 || (0xDFFF < code && code ≤ CharSet.greatestCode) then
    some (Char.ofNat code)
  else
    none

/-- A given count of hexadecimal digits. -/
def readHexDigits (flags : Flags) (value : Nat) : (count : Nat) → List Char → Reading Nat
  | 0, text => some (value, text)
  | _ + 1, [] => none
  | count + 1, digit :: rest =>
      (Text.hexValue? digit).bind fun units =>
        readHexDigits flags (value * 16 + units) count (skip flags rest)

/-- The text up to a closing brace, which is passed over. -/
def readBraced (flags : Flags) (text : List Char) : Reading (List Char) :=
  match _skipped : skip flags text with
  | [] => none
  | character :: rest =>
      if character = '\x7d' then
        some ([], rest)
      else
        (readBraced flags rest).map fun (name, after) => (character :: name, after)
termination_by text.length
decreasing_by exact length_lt_of_skip_eq_cons _skipped

/-- A character by its number, in braces or with a fixed count of digits. -/
def readHex (flags : Flags) (count : Nat) (text : List Char) : Reading Primitive :=
  match skip flags text with
  | '\x7b' :: rest =>
      (readBraced flags rest).bind fun (digits, after) =>
        if digits.isEmpty then
          none
        else
          ((Text.hexNumberFrom? 0 digits).bind characterOfCode?).map fun character =>
            (.literal character false, skip flags after)
  | digits =>
      (readHexDigits flags 0 count digits).bind fun (code, after) =>
        (characterOfCode? code).map fun character => (.literal character (count == 2), after)

/-- A class of characters by name, in braces or with a single letter. -/
def readProperty (flags : Flags) (negated : Bool) (text : List Char) : Reading Primitive :=
  match skip flags text with
  | [] => none
  | '\x7b' :: rest =>
      (readBraced flags rest).bind fun (name, after) =>
        (classOfName? name).map fun (members, inverted) =>
          (.property members (negated != inverted), after)
  | letter :: rest =>
      if letter = '\\' then
        none
      else
        (namedSet? [letter]).map fun members => (.property members negated, skip flags rest)

/-- The letters and hyphens of a word condition in braces. -/
def readEdgeName (flags : Flags) (text : List Char) : List Char × List Char :=
  match _skipped : skip flags text with
  | [] => ([], [])
  | character :: rest =>
      if character.isAlpha || character = '-' then
        let (name, after) := readEdgeName flags rest
        (character :: name, after)
      else
        ([], character :: rest)
termination_by text.length
decreasing_by exact length_lt_of_skip_eq_cons _skipped

/-- The edge of a word, or one side of an edge named in braces. -/
def readWordEdge (flags : Flags) (text : List Char) : Reading Primitive :=
  let ascii := !flags.unicode
  match text with
  | '\x7b' :: rest =>
      match skip flags rest with
      | [] => none
      | character :: _ =>
          if !(character.isAlpha || character = '-') then
            some (.look (.wordEdge ascii), text)
          else
            match readEdgeName flags rest with
            | (name, '\x7d' :: after) =>
                match String.ofList name with
                | "start" => some (.look (.wordStart ascii), after)
                | "end" => some (.look (.wordEnd ascii), after)
                | "start-half" => some (.look (.wordStartHalf ascii), after)
                | "end-half" => some (.look (.wordEndHalf ascii), after)
                | _ => none
            | _ => none
  | _ => some (.look (.wordEdge ascii), text)

/-- The single characters and conditions that a letter stands for after a backslash. -/
def namedEscape? (flags : Flags) (letter : Char) : Option Primitive :=
  let ascii := !flags.unicode
  match letter with
  | 'a' => some (.literal '\x07' false)
  | 'f' => some (.literal '\x0c' false)
  | 't' => some (.literal '\t' false)
  | 'n' => some (.literal '\n' false)
  | 'r' => some (.literal '\r' false)
  | 'v' => some (.literal '\x0b' false)
  | 'A' => some (.look .textStart)
  | 'z' => some (.look .textEnd)
  | 'B' => some (.look (.wordInside ascii))
  | '<' => some (.look (.wordStart ascii))
  | '>' => some (.look (.wordEnd ascii))
  | _ => none

/-- What follows a backslash. -/
def readEscape (flags : Flags) : List Char → Reading Primitive
  | [] => none
  | letter :: rest =>
      match letter with
      | 'x' => readHex flags 2 rest
      | 'u' => readHex flags 4 rest
      | 'U' => readHex flags 8 rest
      | 'p' => readProperty flags false rest
      | 'P' => readProperty flags true rest
      | 'd' => some (.letterClass .digit false, rest)
      | 's' => some (.letterClass .space false, rest)
      | 'w' => some (.letterClass .word false, rest)
      | 'D' => some (.letterClass .digit true, rest)
      | 'S' => some (.letterClass .space true, rest)
      | 'W' => some (.letterClass .word true, rest)
      | 'b' => readWordEdge flags rest
      | _ =>
          if isEscapable letter then
            some (.literal letter false, rest)
          else
            (namedEscape? flags letter).map fun primitive => (primitive, rest)

/-- The set closed under case where the flags ask for it. -/
def foldCase (flags : Flags) (members : CharSet) : CharSet :=
  if !flags.ignoreCase then
    members
  else if flags.unicode then
    members.closeCase
  else
    members.closeAsciiCase

/-- The set or its complement; outside Unicode mode a complement would match broken text. -/
def negateIf (flags : Flags) (negated : Bool) (members : CharSet) : Option CharSet :=
  if !negated then
    some members
  else if flags.unicode then
    some members.negate
  else
    none

/-- The characters of a class with a letter of its own. -/
def letterClassSet (flags : Flags) : LetterClass → CharSet
  | .digit => if flags.unicode then digitSet else asciiDigitSet
  | .space => if flags.unicode then spaceSet else asciiSpaceSet
  | .word => if flags.unicode then wordSet else asciiWordSet

/-- The character of a literal in a class; outside Unicode mode it must be ASCII. -/
def classLiteral? (flags : Flags) : Primitive → Option Char
  | .literal character _ =>
      if flags.unicode || character.toNat < 0x80 then some character else none
  | _ => none

/-- The characters of an item of a class. -/
def classItem? (flags : Flags) (primitive : Primitive) : Option CharSet :=
  match primitive with
  | .letterClass kind negated => negateIf flags negated (letterClassSet flags kind)
  | .property members negated =>
      if flags.unicode then negateIf flags negated (foldCase flags members) else none
  | _ => (classLiteral? flags primitive).map fun character => CharSet.single character.toNat

/-- A part of a class and how deep classes are nested in it. -/
structure ClassPart where
  members : CharSet
  nesting : Nat
  deriving Repr

namespace ClassPart

/-- The union of parts side by side, in reverse order. -/
def ofUnion : List ClassPart → ClassPart
  | [] => ⟨CharSet.empty, 0⟩
  | [part] => part
  | parts =>
      ⟨CharSet.ofRanges (parts.flatMap fun part => part.members.ranges),
        (parts.foldl (fun deepest part => max deepest part.nesting) 0) + 1⟩

end ClassPart

/-- The operations between the parts of a class. -/
inductive ClassOperation where
  | intersection
  | difference
  | symmetricDifference
  deriving Repr, DecidableEq

/-- The result of an operation. -/
def ClassOperation.apply (flags : Flags) (operation : ClassOperation) (left right : ClassPart) :
    ClassPart :=
  let leftMembers := foldCase flags left.members
  let rightMembers := foldCase flags right.members
  let members := match operation with
    | .intersection => leftMembers.intersection rightMembers
    | .difference => leftMembers.difference rightMembers
    | .symmetricDifference => leftMembers.symmetricDifference rightMembers
  ⟨members, max left.nesting right.nesting + 1⟩

/-- An open class with the parts read before it, or a left operand that waits for its right one. -/
inductive ClassFrame where
  | opened (negated : Bool) (before : List ClassPart)
  | operand (operation : ClassOperation) (left : ClassPart)
  deriving Repr

/-- A part joined with the left operand that waits for it. -/
def applyOperand (flags : Flags) (frames : List ClassFrame) (right : ClassPart) :
    List ClassFrame × ClassPart :=
  match frames with
  | .operand operation left :: outer => (outer, operation.apply flags left right)
  | _ => (frames, right)

/-- Hyphens at the start of a class mean themselves. -/
def readLeadingHyphens (flags : Flags) (parts : List ClassPart) (text : List Char) :
    Reading (List ClassPart) :=
  match text with
  | [] => none
  | '-' :: rest => readLeadingHyphens flags (⟨CharSet.single 0x2D, 0⟩ :: parts) (skip flags rest)
  | _ => some (parts, text)
termination_by text.length
decreasing_by exact Nat.lt_succ_of_le (length_skip_le flags rest)

/-- The start of a class after its bracket: a negation, then hyphens or a bracket as members. -/
def openClass (flags : Flags) (text : List Char) : Reading (Bool × List ClassPart) :=
  let (negated, inner) := match skip flags text with
    | '^' :: rest => (true, skip flags rest)
    | rest => (false, rest)
  (readLeadingHyphens flags [] inner).bind fun (parts, rest) =>
    match parts, rest with
    | [], ']' :: after =>
        match skip flags after with
        | [] => none
        | further => some ((negated, [⟨CharSet.single 0x5D, 0⟩]), further)
    | _, _ => some ((negated, parts), rest)

/-- A class of ASCII characters between colons; other text is no such class. -/
def readAsciiClass (text : List Char) : Reading (CharSet × Bool) :=
  match text with
  | '[' :: ':' :: rest =>
      let (negated, named) := match rest with
        | '^' :: after => (true, after)
        | after => (false, after)
      match named.dropWhile (· != ':') with
      | ':' :: ']' :: after =>
          (asciiClass? (String.ofList (named.takeWhile (· != ':')))).map fun members =>
            ((members, negated), after)
      | _ => none
  | _ => none

/-- One character or escape inside a class. -/
def readClassPrimitive (flags : Flags) : List Char → Reading Primitive
  | [] => none
  | '\\' :: rest => readEscape flags rest
  | character :: rest => some (.literal character false, rest)

/-- One item of a class or a range between two characters. -/
def readClassItem (flags : Flags) (text : List Char) : Reading CharSet :=
  (readClassPrimitive flags text).bind fun (first, afterFirst) =>
    match skip flags afterFirst with
    | [] => none
    | '-' :: rest =>
        if peek flags rest == some ']' || peek flags rest == some '-' then
          (classItem? flags first).map fun members => (members, '-' :: rest)
        else
          (readClassPrimitive flags (skip flags rest)).bind fun (last, afterLast) =>
            match classLiteral? flags first, classLiteral? flags last with
            | some low, some high =>
                if low ≤ high then some (⟨[(low.toNat, high.toNat)]⟩, afterLast) else none
            | _, _ => none
    | rest => (classItem? flags first).map fun members => (members, rest)

/-- Where the reader of a class stands: what is open, and the parts read since in reverse order. -/
structure ClassState where
  frames : List ClassFrame
  parts : List ClassPart
  deriving Repr

/-- What a step inside a class leads to. -/
inductive ClassStep where
  | further (state : ClassState) (rest : List Char)
  | complete (part : ClassPart) (rest : List Char)

/-- An operation sign makes what was read its left operand. -/
def ClassState.operate (flags : Flags) (state : ClassState) (operation : ClassOperation) :
    ClassState :=
  let (frames, left) := applyOperand flags state.frames (ClassPart.ofUnion state.parts)
  ⟨.operand operation left :: frames, []⟩

/-- A closing bracket ends the innermost open class. -/
def ClassState.close? (flags : Flags) (state : ClassState) (rest : List Char) : Option ClassStep :=
  let (frames, inner) := applyOperand flags state.frames (ClassPart.ofUnion state.parts)
  match frames with
  | .opened negated before :: outer =>
      (negateIf flags negated (foldCase flags inner.members)).map fun members =>
        let part : ClassPart := ⟨members, inner.nesting + 1⟩
        if outer.isEmpty then .complete part rest else .further ⟨outer, part :: before⟩ rest
  | _ => none

/-- One step inside a class, at a place where blanks have been passed over. -/
def ClassState.step? (flags : Flags) (state : ClassState) (text : List Char) : Option ClassStep :=
  match text with
  | [] => none
  | '[' :: rest =>
      let ascii? := if state.frames.isEmpty then none else readAsciiClass text
      match ascii? with
      | some ((members, negated), after) =>
          (negateIf flags negated (foldCase flags members)).map fun set =>
            .further { state with parts := ⟨set, 0⟩ :: state.parts } after
      | none =>
          (openClass flags rest).map fun ((negated, parts), after) =>
            .further ⟨.opened negated state.parts :: state.frames, parts⟩ after
  | ']' :: rest => state.close? flags rest
  | '&' :: '&' :: rest => some (.further (state.operate flags .intersection) rest)
  | '-' :: '-' :: rest => some (.further (state.operate flags .difference) rest)
  | '~' :: '~' :: rest => some (.further (state.operate flags .symmetricDifference) rest)
  | _ =>
      (readClassItem flags text).map fun (members, rest) =>
        .further { state with parts := ⟨members, 0⟩ :: state.parts } rest

/-- The class at the head of a text, read on from a given state in a bounded count of steps. -/
def readClassFrom (flags : Flags) : (steps : Nat) → ClassState → List Char → Reading ClassPart
  | 0, _, _ => none
  | steps + 1, state, text =>
      match state.step? flags (skip flags text) with
      | none => none
      | some (.complete part rest) => some (part, rest)
      | some (.further next rest) => readClassFrom flags steps next rest

/-- The class that begins with the bracket at the head of a text of bounded length. -/
def readClass (flags : Flags) (length : Nat) (text : List Char) : Reading Expression :=
  (readClassFrom flags (length + 1) ⟨[], []⟩ text).map fun (part, rest) =>
    (.set part.members flags.unicode part.nesting, rest)

/-- The expression of an escape or character outside classes. -/
def expression? (flags : Flags) : Primitive → Option Expression
  | .literal character byte =>
      if byte && !flags.unicode && 0x80 ≤ character.toNat then
        none
      else if !flags.unicode && 0x80 ≤ character.toNat then
        some (.set (CharSet.single character.toNat) true 0)
      else
        some (.set (foldCase flags (CharSet.single character.toNat)) flags.unicode 0)
  | .letterClass kind negated =>
      (negateIf flags negated (letterClassSet flags kind)).map fun members =>
        .set members flags.unicode 0
  | .property members negated =>
      if flags.unicode then
        (negateIf flags negated (foldCase flags members)).map fun set => .set set true 0
      else
        none
  | .look condition => some (.look condition)
  | .dot =>
      if !flags.unicode then
        none
      else if flags.dotMatchesLineFeed then
        some (.set CharSet.full true 0)
      else if flags.crlf then
        some (.set (CharSet.ofRanges [(0x0A, 0x0A), (0x0D, 0x0D)]).negate true 0)
      else
        some (.set (CharSet.single 0x0A).negate true 0)

/-- The condition at the start of lines or of the text. -/
def startLook (flags : Flags) : Look :=
  if !flags.multiLine then .textStart else if flags.crlf then .lineStartCrlf else .lineStart

/-- The condition at the end of lines or of the text. -/
def endLook (flags : Flags) : Look :=
  if !flags.multiLine then .textEnd else if flags.crlf then .lineEndCrlf else .lineEnd

/-- One part that is no class, group or repetition. -/
def readPart (flags : Flags) : List Char → Reading Expression
  | [] => none
  | '\\' :: rest =>
      (readEscape flags rest).bind fun (primitive, after) =>
        (expression? flags primitive).map fun part => (part, after)
  | '.' :: rest => (expression? flags .dot).map fun part => (part, rest)
  | '^' :: rest => some (.look (startLook flags), rest)
  | '$' :: rest => some (.look (endLook flags), rest)
  | character :: rest =>
      (expression? flags (.literal character false)).map fun part => (part, rest)

/-- The digits of a count, between which blanks may stand where the flags let them. -/
def readCountDigits (flags : Flags) (text : List Char) : List Char × List Char :=
  match text with
  | [] => ([], [])
  | digit :: rest =>
      if digit.isDigit then
        let (digits, further) := readCountDigits flags (skip flags rest)
        (digit :: digits, further)
      else
        ([], text)
termination_by text.length
decreasing_by exact Nat.lt_succ_of_le (length_skip_le flags rest)

/-- A count that fits 32 bits with blanks around it. -/
def readCount (flags : Flags) (text : List Char) : Reading Nat :=
  let (digits, rest) := readCountDigits flags (text.dropWhile Text.isBlank)
  match Text.digitsValue? digits with
  | none => none
  | some value => if value < UInt32.size then some (value, rest.dropWhile Text.isBlank) else none

/-- The bounds of a counted repetition after its opening brace. -/
def readBounds (flags : Flags) (text : List Char) : Reading (Nat × Option Nat) :=
  (readCount flags (skip flags text)).bind fun (least, rest) =>
    match rest with
    | '\x7d' :: after => some ((least, some least), after)
    | ',' :: more =>
        match skip flags more with
        | '\x7d' :: after => some ((least, none), after)
        | further =>
            (readCount flags further).bind fun (greatest, afterGreatest) =>
              match afterGreatest with
              | '\x7d' :: after =>
                  if least ≤ greatest then some ((least, some greatest), after) else none
              | _ => none
    | _ => none

/-- Whether a question mark follows a repetition, and the rest. -/
def readLazyMark : List Char → Bool × List Char
  | '?' :: rest => (true, rest)
  | text => (false, text)

/-- The last part repeated; there must be one, and it may not be a change of flags. -/
def repeatLast? (least : Nat) (greatest : Option Nat) (greedy : Bool) :
    List Expression → Option (List Expression)
  | [] => none
  | .flags :: _ => none
  | part :: before => some (.repetition least greatest greedy part :: before)

/-- An open group: its label and the flags, alternatives and reversed parts outside it. -/
structure Frame where
  label : Option Capture
  flags : Flags
  alternatives : List Expression
  parts : List Expression
  deriving Repr

/-- Where the reader of a pattern stands. -/
structure State where
  frames : List Frame
  flags : Flags
  alternatives : List Expression
  parts : List Expression
  names : List (List Char)
  captures : Nat
  deriving Repr

/-- Whether a character may stand in the name of a group. -/
def isNameCharacter (first : Bool) (character : Char) : Bool :=
  character == '_' || nameLetterSet.contains character ||
    (!first && (character == '.' || character == '[' || character == ']' ||
      nameNumberSet.contains character))

/-- The name of a group up to its closing angle bracket. -/
def readGroupName (text : List Char) : Reading (List Char) :=
  let name := text.takeWhile (· != '>')
  match name, text.dropWhile (· != '>') with
  | first :: more, '>' :: rest =>
      if isNameCharacter true first && more.all (isNameCharacter false) then
        some (name, rest)
      else
        none
  | _, _ => none

/-- The letters of a change of flags, up to the mark that ends it. -/
def readFlagLetters (flags : Flags) (seen : List Char) (negated : Bool) :
    List Char → Reading (Flags × Bool × Bool)
  | [] => none
  | character :: rest =>
      let dangling := seen.head? == some '-'
      if character = ':' || character = ')' then
        if dangling then
          none
        else
          some ((flags, seen.isEmpty, character == ':'), rest)
      else if character = '-' then
        if negated then none else readFlagLetters flags ('-' :: seen) true rest
      else if Flags.isLetter character && !seen.contains character then
        readFlagLetters (flags.set character (!negated)) (character :: seen) negated rest
      else
        none

/-- The state inside a group that has just been opened. -/
def State.enter (state : State) (label : Option Capture) (flags : Flags) : State :=
  { state with
    frames := ⟨label, state.flags, state.alternatives, state.parts⟩ :: state.frames
    flags := flags
    alternatives := []
    parts := [] }

/-- The state inside a group that captures. -/
def State.enterCapture (state : State) (name : Option (List Char)) : State :=
  let number := state.captures + 1
  { state.enter (some ⟨number, name⟩) state.flags with captures := number }

/-- A group or a change of flags after its opening parenthesis. -/
def State.openGroup? (state : State) (text : List Char) : Option (State × List Char) :=
  match skip state.flags text with
  | '?' :: '=' :: _ => none
  | '?' :: '!' :: _ => none
  | '?' :: '<' :: '=' :: _ => none
  | '?' :: '<' :: '!' :: _ => none
  | '?' :: 'P' :: '<' :: rest => named rest
  | '?' :: '<' :: rest => named rest
  | '?' :: rest =>
      (readFlagLetters state.flags [] false rest).bind fun ((flags, unchanged, grouping), after) =>
        if grouping then
          some (state.enter none flags, after)
        else if unchanged then
          none
        else
          some ({ state with flags := flags, parts := .flags :: state.parts }, after)
  | rest => some (state.enterCapture none, rest)
where
  /-- A group with a name that no other group has. -/
  named (text : List Char) : Option (State × List Char) :=
    (readGroupName text).bind fun (name, rest) =>
      if state.names.contains name then
        none
      else
        some ({ state.enterCapture (some name) with names := name :: state.names }, rest)

/-- The parts since the last bar as one expression. -/
def State.alternative (state : State) : Expression :=
  Expression.ofParts state.parts.reverse

/-- All alternatives as one expression. -/
def State.choice (state : State) : Expression :=
  Expression.ofAlternatives (state.alternative :: state.alternatives).reverse

/-- A closing parenthesis ends the innermost group. -/
def State.closeGroup? (state : State) : Option State :=
  match state.frames with
  | [] => none
  | frame :: outer =>
      some { state with
        frames := outer
        flags := frame.flags
        alternatives := frame.alternatives
        parts := .group frame.label state.choice :: frame.parts }

/-- The state with the last part repeated, and the text after a mark that turns its preference. -/
def State.repeat? (state : State) (least : Nat) (greatest : Option Nat) (text : List Char) :
    Option (State × List Char) :=
  let (marked, rest) := readLazyMark text
  (repeatLast? least greatest (marked == state.flags.lazyFirst) state.parts).map fun parts =>
    ({ state with parts := parts }, rest)

/-- One step of reading a text of bounded length, at a place where blanks have been passed over. -/
def State.step? (state : State) (length : Nat) (text : List Char) : Option (State × List Char) :=
  match text with
  | [] => none
  | '(' :: rest => state.openGroup? rest
  | ')' :: rest => state.closeGroup?.map fun next => (next, rest)
  | '|' :: rest =>
      some ({ state with alternatives := state.alternative :: state.alternatives, parts := [] }, rest)
  | '[' :: _ =>
      (readClass state.flags length text).map fun (part, rest) =>
        ({ state with parts := part :: state.parts }, rest)
  | '?' :: rest => state.repeat? 0 (some 1) rest
  | '*' :: rest => state.repeat? 0 none rest
  | '+' :: rest => state.repeat? 1 none rest
  | '\x7b' :: rest =>
      (readBounds state.flags rest).bind fun ((least, greatest), after) =>
        state.repeat? least greatest (skip state.flags after)
  | _ =>
      (readPart state.flags text).map fun (part, rest) =>
        ({ state with parts := part :: state.parts }, rest)

/-- The expression of a text of bounded length, read on from a given state. -/
def readFrom : (length : Nat) → State → List Char → Option Expression
  | 0, state, text =>
      if (skip state.flags text).isEmpty && state.frames.isEmpty then some state.choice else none
  | length + 1, state, text =>
      match skip state.flags text with
      | [] => if state.frames.isEmpty then some state.choice else none
      | rest =>
          (state.step? (length + 1) rest).bind fun (next, after) => readFrom length next after

/--
The expression of a pattern that is not nested too deep.

Every step takes a character, so that the length of the text bounds their count.
-/
def Expression.read? (text : List Char) : Option Expression :=
  (readFrom text.length ⟨[], Flags.initial, [], [], [], 0⟩ text).filter fun expression =>
    expression.nesting ≤ greatestNesting

end Pattern

end RecordSchema
