import RecordSchema.Proofs.Text.Integer
import RecordSchema.RecordId

namespace RecordSchema

/-!
# Record ids in text

A record id is written as a cluster and a position with a colon between them, behind a hash
or not, and blanks may stand around it.  What is written so, with both numbers in their
bounds, is read as that id, and nothing else is read.  An id is printed in the one of these
forms that is read whether a hash is asked for or not.
-/

namespace RecordId

/-- A record id as it is written. -/
structure Form where
  hash : Bool
  cluster : Text.Numeral
  position : Text.Numeral

namespace Form

/-- The characters behind the hash. -/
def body (form : Form) : List Char :=
  form.cluster.toChars ++ ':' :: form.position.toChars

/-- The characters of a written id. -/
def toChars (form : Form) : List Char :=
  if form.hash then '#' :: form.body else form.body

/-- An id as it is printed. -/
def ofId (id : RecordId) : Form where
  hash := true
  cluster := .ofInt id.cluster.toInt
  position := .ofInt id.position.toInt

/-- The id has the numbers that are written. -/
structure Denotes (form : Form) (id : RecordId) : Prop where
  cluster : id.cluster.toInt = form.cluster.value
  position : id.position.toInt = form.position.value

/--
A text that consists of a written id and blanks around it, with a hash where one is
required, a cluster of five digits at most, and both numbers in their bounds.
-/
structure IsReadIn (form : Form) (requireHash : Bool) (text : String) : Prop where
  stands :
    ∃ before after,
      text.toList = before ++ form.toChars ++ after ∧
        ∀ character ∈ before ++ after, Text.isBlank character = true
  hashed : requireHash = true → form.hash = true
  short : form.cluster.digits.length ≤ 5
  cluster : -32767 ≤ form.cluster.value ∧ form.cluster.value ≤ 32767
  position :
    -9223372036854775808 ≤ form.position.value ∧ form.position.value ≤ 9223372036854775807

/-- A written id has no blanks. -/
theorem isBlank_of_mem_toChars
    {form : Form}
    {character : Char}
    (member : character ∈ form.toChars) :
    Text.isBlank character = false := by
  have inBody : character ∈ form.body → Text.isBlank character = false := by
    intro member
    rw [body, List.mem_append, List.mem_cons] at member
    rcases member with inCluster | rfl | inPosition
    · exact form.cluster.isBlank_of_mem_toChars inCluster
    · decide
    · exact form.position.isBlank_of_mem_toChars inPosition
  rw [toChars] at member
  by_cases hashed : form.hash = true
  · rw [if_pos hashed] at member
    rcases List.mem_cons.mp member with rfl | isLater
    · decide
    · exact inBody isLater
  · rw [if_neg hashed] at member
    exact inBody member

end Form

/-- The parts around a colon that the first part does not hold. -/
theorem splitColon?_append
    {before : List Char}
    (noColon : ':' ∉ before)
    (after : List Char) :
    splitColon? (before ++ ':' :: after) = some (before, after) := by
  induction before with
  | nil =>
      rfl
  | cons first rest inductionHypothesis =>
      have restSplit :=
        inductionHypothesis fun member => noColon (List.mem_cons_of_mem _ member)
      rw [List.cons_append, splitColon?.eq_def]
      split
      · rename_i shape
        cases shape
      · rename_i shape
        cases shape
        exact absurd List.mem_cons_self noColon
      · rename_i shape
        cases shape
        rw [restSplit]
        rfl

/-- A text is its parts and the colon between them. -/
theorem eq_append_of_splitColon?
    {text before after : List Char}
    (split : splitColon? text = some (before, after)) :
    text = before ++ ':' :: after := by
  induction text generalizing before with
  | nil =>
      cases split
  | cons first rest inductionHypothesis =>
      rw [splitColon?.eq_def] at split
      split at split
      · cases split
      · rename_i shape
        cases shape
        cases split
        rfl
      · rename_i shape
        cases shape
        obtain ⟨⟨restBefore, restAfter⟩, restSplit, same⟩ := Option.map_eq_some_iff.mp split
        cases same
        rw [inductionHypothesis restSplit]
        rfl

theorem bodyParts?_body
    {form : Form}
    (short : form.cluster.digits.length ≤ 5) :
    bodyParts? form.body = some (form.cluster.toChars, form.position.toChars) := by
  have noColon : ':' ∉ form.cluster.toChars := by
    intro member
    rcases form.cluster.mem_toChars member with isMinus | digit
    · exact absurd isMinus (by decide)
    · exact absurd digit (by decide)
  rw [bodyParts?, Form.body, splitColon?_append noColon]
  simp [Text.Numeral.isIntegerShape_toChars, short]

theorem eq_append_of_bodyParts?
    {body cluster position : List Char}
    (isSplit : bodyParts? body = some (cluster, position)) :
    body = cluster ++ ':' :: position ∧ (Text.dropMinus cluster).length ≤ 5 := by
  rw [bodyParts?] at isSplit
  split at isSplit
  · cases isSplit
  · rename_i split
    split at isSplit
    · rename_i shaped
      cases isSplit
      simp only [Bool.and_eq_true, decide_eq_true_eq] at shaped
      exact ⟨eq_append_of_splitColon? split, shaped.1.2⟩
    · cases isSplit

/-- A written id is taken apart into its numbers, with a hash where one is required. -/
theorem parts?_toChars
    {form : Form}
    {requireHash : Bool}
    (hashed : requireHash = true → form.hash = true)
    (short : form.cluster.digits.length ≤ 5) :
    parts? requireHash form.toChars = some (form.cluster.toChars, form.position.toChars) := by
  rw [Form.toChars]
  by_cases hasHash : form.hash = true
  · rw [if_pos hasHash, parts?]
    exact bodyParts?_body short
  · have notRequired : ¬requireHash = true :=
      fun required => hasHash (hashed required)
    rw [if_neg hasHash, parts?.eq_def]
    split
    · rename_i rest shape
      -- A hash at the head of the body would belong to the cluster.
      have isHead : '#' ∈ form.cluster.toChars := by
        rw [Form.body] at shape
        cases cluster : form.cluster.toChars with
        | nil =>
            rw [cluster] at shape
            cases shape
        | cons first _ =>
            rw [cluster] at shape
            cases shape
            exact List.mem_cons_self
      rcases form.cluster.mem_toChars isHead with isMinus | digit
      · exact absurd isMinus (by decide)
      · exact absurd digit (by decide)
    · rw [if_neg notRequired]
      exact bodyParts?_body short

/-- What is taken apart into two numbers is a written id. -/
theorem exists_form_of_parts?
    {requireHash : Bool}
    {text : List Char}
    {cluster position : Text.Numeral}
    (isSplit : parts? requireHash text = some (cluster.toChars, position.toChars)) :
    ∃ hash : Bool,
      (Form.mk hash cluster position).toChars = text ∧ (requireHash = true → hash = true) ∧
        cluster.digits.length ≤ 5 := by
  rw [parts?.eq_def] at isSplit
  split at isSplit
  · obtain ⟨shape, short⟩ := eq_append_of_bodyParts? isSplit
    rw [Text.Numeral.dropMinus_toChars] at short
    exact ⟨true, by rw [shape]; rfl, fun _ => rfl, short⟩
  · split at isSplit
    · cases isSplit
    · rename_i notRequired
      obtain ⟨shape, short⟩ := eq_append_of_bodyParts? isSplit
      rw [Text.Numeral.dropMinus_toChars] at short
      exact ⟨false, by rw [shape]; rfl, fun required => absurd required notRequired, short⟩

/-- An id keeps the numbers that it is made of, and its cluster lies between the bounds. -/
theorem ofParts_eq_ok_iff
    {cluster position : Int64}
    {id : RecordId} :
    ofParts cluster position = .ok id ↔
      (-32767 ≤ cluster.toInt ∧ cluster.toInt ≤ 32767) ∧ id.cluster.toInt = cluster.toInt ∧
        id.position = position := by
  have withinBounds :
      cluster.toInt.natAbs ≤ greatestCluster ↔
        -32767 ≤ cluster.toInt ∧ cluster.toInt ≤ 32767 := by
    rw [greatestCluster]
    omega
  rw [ofParts]
  split
  · rename_i small
    have bounds := withinBounds.mp small
    have kept : (Int16.ofInt cluster.toInt).toInt = cluster.toInt :=
      Int16.toInt_ofInt_of_le (by omega) (by omega)
    constructor
    · rintro ⟨⟩
      exact ⟨bounds, kept, rfl⟩
    · rintro ⟨_, sameCluster, rfl⟩
      rw [← sameCluster, Int16.ofInt_toInt]
  · rename_i large
    constructor
    · intro accepted
      cases accepted
    · rintro ⟨bounds, _⟩
      exact absurd (withinBounds.mpr bounds) large

/-- What is read is a written id between blanks. -/
theorem exists_isReadIn_of_parse
    {requireHash : Bool}
    {text : String}
    {id : RecordId}
    (accepted : parse requireHash text = .ok id) :
    ∃ form : Form, form.IsReadIn requireHash text ∧ form.Denotes id := by
  simp only [parse] at accepted
  split at accepted
  · cases accepted
  · rename_i clusterText positionText isSplit
    split at accepted
    · cases accepted
    · cases accepted
    · rename_i cluster position clusterRead positionRead
      obtain ⟨clusterForm, rfl, clusterValue⟩ := Text.parseInt64?_eq_some_iff.mp clusterRead
      obtain ⟨positionForm, rfl, positionValue⟩ := Text.parseInt64?_eq_some_iff.mp positionRead
      obtain ⟨hash, isTrimmed, hashed, short⟩ := exists_form_of_parts? isSplit
      obtain ⟨bounds, sameCluster, rfl⟩ := ofParts_eq_ok_iff.mp accepted
      obtain ⟨before, after, shape, blank⟩ := Text.exists_of_trimChars text.toList
      have aboveLeast := id.position.le_toInt
      have belowGreatest := id.position.toInt_lt
      refine ⟨⟨hash, clusterForm, positionForm⟩, ?_, ?_⟩
      · refine ⟨⟨before, after, ?_, blank⟩, hashed, short, ?_, ?_⟩
        · rw [isTrimmed]
          exact shape
        · rw [clusterValue]
          exact bounds
        · rw [positionValue]
          omega
      · exact ⟨sameCluster.trans clusterValue.symm, positionValue.symm⟩

/-- A written id between blanks is read. -/
theorem parse_of_isReadIn
    {form : Form}
    {requireHash : Bool}
    {text : String}
    {id : RecordId}
    (isRead : form.IsReadIn requireHash text)
    (denotes : form.Denotes id) :
    parse requireHash text = .ok id := by
  obtain ⟨before, after, shape, blank⟩ := isRead.stands
  have isTrimmed : Text.trimChars text.toList = form.toChars := by
    rw [shape]
    exact Text.trimChars_append (fun _ => Form.isBlank_of_mem_toChars) blank
  have clusterBounds := isRead.cluster
  have clusterKept : (Int64.ofInt form.cluster.value).toInt = form.cluster.value :=
    Int64.toInt_ofInt_of_le (by omega) (by omega)
  have clusterRead :
      Text.parseInt64? form.cluster.toChars = some (Int64.ofInt form.cluster.value) :=
    Text.parseInt64?_eq_some_iff.mpr ⟨form.cluster, rfl, clusterKept.symm⟩
  have positionRead : Text.parseInt64? form.position.toChars = some id.position :=
    Text.parseInt64?_eq_some_iff.mpr ⟨form.position, rfl, denotes.position.symm⟩
  simp only [parse, isTrimmed, parts?_toChars isRead.hashed isRead.short, clusterRead,
    positionRead]
  rw [ofParts_eq_ok_iff, clusterKept]
  exact ⟨clusterBounds, denotes.cluster, rfl⟩

/-- An id is read from exactly the texts that write it. -/
theorem parse_eq_ok_iff
    {requireHash : Bool}
    {text : String}
    {id : RecordId} :
    parse requireHash text = .ok id ↔
      ∃ form : Form, form.IsReadIn requireHash text ∧ form.Denotes id := by
  constructor
  · exact exists_isReadIn_of_parse
  · rintro ⟨form, isRead, denotes⟩
    exact parse_of_isReadIn isRead denotes

/-- An id whose cluster lies between the bounds. -/
def IsValid (id : RecordId) : Prop :=
  id.cluster.toInt.natAbs ≤ greatestCluster

theorem isValid_ofParts
    {cluster position : Int64}
    {id : RecordId}
    (accepted : ofParts cluster position = .ok id) :
    id.IsValid := by
  obtain ⟨bounds, sameCluster, _⟩ := ofParts_eq_ok_iff.mp accepted
  rw [IsValid, sameCluster, greatestCluster]
  omega

theorem isValid_parse
    {requireHash : Bool}
    {text : String}
    {id : RecordId}
    (accepted : parse requireHash text = .ok id) :
    id.IsValid := by
  obtain ⟨form, isRead, denotes⟩ := exists_isReadIn_of_parse accepted
  have bounds := isRead.cluster
  rw [IsValid, denotes.cluster, greatestCluster]
  omega

mutual

theorem isValid_ofJson
    {requireHash : Bool}
    {id : RecordId} :
    ∀ {value : Json}, ofJson requireHash value = .ok id → id.IsValid
  | .string text, accepted => isValid_parse (by simpa [ofJson] using accepted)
  | .object members, accepted => by
      rw [ofJson] at accepted
      split at accepted
      · rename_i result embedded
        exact isValid_ofEmbedded? (accepted ▸ embedded)
      · split at accepted
        · exact isValid_ofParts accepted
        · cases accepted
  | .null, accepted => by cases accepted
  | .bool _, accepted => by cases accepted
  | .number _, accepted => by cases accepted
  | .array _, accepted => by cases accepted

theorem isValid_ofEmbedded?
    {requireHash : Bool}
    {id : RecordId} :
    ∀ {members : List (String × Json)},
      ofEmbedded? requireHash members = some (.ok id) → id.IsValid
  | [], accepted => by cases accepted
  | (key, value) :: members, accepted => by
      rw [ofEmbedded?] at accepted
      split at accepted
      · exact isValid_ofJson (Option.some.inj accepted)
      · exact isValid_ofEmbedded? accepted

end

/-- A value that is the text of a valid id. -/
def IsText (value : Json) : Prop :=
  ∃ id : RecordId, id.IsValid ∧ value = .string id.toText

/-- The member under the key decides what an object is read as. -/
theorem ofEmbedded?_eq
    (requireHash : Bool)
    (members : List (String × Json)) :
    ofEmbedded? requireHash members =
      (Json.memberOf? idKey members).map (ofJson requireHash) := by
  induction members with
  | nil =>
      rfl
  | cons member rest inductionHypothesis =>
      obtain ⟨key, value⟩ := member
      rw [ofEmbedded?, Json.memberOf?, List.lookup_cons]
      by_cases isKey : key = idKey
      · subst isKey
        simp
      · have differs : (idKey == key) = false := by
          simpa using Ne.symm isKey
        rw [if_neg isKey, differs]
        exact inductionHypothesis

/-- A value, or an object that carries it, or one that carries such an object. -/
inductive IsCarriedBy (value : Json) : Json → Prop where
  | itself : IsCarriedBy value value
  | member
      {members : List (String × Json)}
      {inner : Json}
      (found : Json.memberOf? idKey members = some inner)
      (carried : IsCarriedBy value inner) :
      IsCarriedBy value (.object members)

/-- Carriers are read as what they carry. -/
theorem ofJson_of_isCarriedBy
    {value carrier : Json}
    (carried : IsCarriedBy value carrier)
    {requireHash : Bool} :
    ofJson requireHash carrier = ofJson requireHash value := by
  induction carried with
  | itself =>
      rfl
  | member found _ inductionHypothesis =>
      rw [ofJson, ofEmbedded?_eq, found]
      exact inductionHypothesis

namespace Form

theorem toChars_ofId
    (id : RecordId) :
    (ofId id).toChars = id.toChars := by
  rw [toChars, ofId, if_pos rfl, body, Text.Numeral.toChars_ofInt, Text.Numeral.toChars_ofInt]
  rfl

theorem denotes_ofId
    (id : RecordId) :
    (ofId id).Denotes id where
  cluster := (Text.Numeral.value_ofInt id.cluster.toInt).symm
  position := (Text.Numeral.value_ofInt id.position.toInt).symm

/-- The text of a valid id is read, whether a hash is asked for or not. -/
theorem isReadIn_toText
    {id : RecordId}
    (valid : id.IsValid)
    (requireHash : Bool) :
    (ofId id).IsReadIn requireHash id.toText := by
  have small : id.cluster.toInt.natAbs ≤ 32767 := valid
  have aboveLeast := id.position.le_toInt
  have belowGreatest := id.position.toInt_lt
  have clusterValue := (denotes_ofId id).cluster
  have positionValue := (denotes_ofId id).position
  refine ⟨⟨[], [], ?_, by simp⟩, fun _ => rfl, ?_, by omega, by omega⟩
  · rw [toText, String.toList_ofList, toChars_ofId]
    simp
  · change (Nat.toDigits 10 id.cluster.toInt.natAbs).length ≤ 5
    rw [Nat.length_toDigits_le_iff (by decide) (by decide)]
    exact Nat.lt_of_le_of_lt small (by decide)

end Form

/-- The text of an id is read as that id. -/
theorem parse_toText
    {id : RecordId}
    (valid : id.IsValid)
    (requireHash : Bool) :
    parse requireHash id.toText = .ok id :=
  parse_of_isReadIn (Form.isReadIn_toText valid requireHash) (Form.denotes_ofId id)

/-- An id that is made of two numbers or read from a text. -/
inductive IsMade : RecordId → Prop where
  | ofParts
      {cluster position : Int64}
      {id : RecordId}
      (accepted : ofParts cluster position = .ok id) :
      IsMade id
  | parse
      {requireHash : Bool}
      {text : String}
      {id : RecordId}
      (accepted : parse requireHash text = .ok id) :
      IsMade id

theorem IsMade.isValid
    {id : RecordId}
    (made : id.IsMade) :
    id.IsValid := by
  cases made with
  | ofParts accepted => exact isValid_ofParts accepted
  | parse accepted => exact isValid_parse accepted

/-- Numbers make an id just when the cluster lies between its bounds. -/
theorem exists_ofParts_iff
    {cluster position : Int64} :
    (∃ id, ofParts cluster position = .ok id) ↔
      -32767 ≤ cluster.toInt ∧ cluster.toInt ≤ 32767 := by
  constructor
  · rintro ⟨id, accepted⟩
    exact (ofParts_eq_ok_iff.mp accepted).1
  · intro bounds
    have kept : (Int16.ofInt cluster.toInt).toInt = cluster.toInt :=
      Int16.toInt_ofInt_of_le (by omega) (by omega)
    exact ⟨⟨Int16.ofInt cluster.toInt, position⟩, ofParts_eq_ok_iff.mpr ⟨bounds, kept, rfl⟩⟩

/-- Some id is read from exactly the texts that write one. -/
theorem exists_parse_iff
    {requireHash : Bool}
    {text : String} :
    (∃ id, parse requireHash text = .ok id) ↔ ∃ form : Form, form.IsReadIn requireHash text := by
  constructor
  · rintro ⟨id, accepted⟩
    obtain ⟨form, isRead, _⟩ := exists_isReadIn_of_parse accepted
    exact ⟨form, isRead⟩
  · rintro ⟨form, isRead⟩
    have clusterBounds := isRead.cluster
    have positionBounds := isRead.position
    refine ⟨⟨Int16.ofInt form.cluster.value, Int64.ofInt form.position.value⟩,
      parse_of_isReadIn isRead ⟨?_, ?_⟩⟩
    · exact Int16.toInt_ofInt_of_le (by omega) (by omega)
    · exact Int64.toInt_ofInt_of_le (by omega) (by omega)

/-- What is read where a hash is required is read as the same id where none is. -/
theorem parse_of_parse_hashed
    {text : String}
    {id : RecordId}
    (accepted : parse true text = .ok id) :
    parse false text = .ok id := by
  obtain ⟨form, isRead, denotes⟩ := exists_isReadIn_of_parse accepted
  have unhashed : form.IsReadIn false text :=
    { isRead with hashed := fun required => nomatch required }
  exact parse_of_isReadIn unhashed denotes

/--
An id is read from exactly the texts that write it, with a hash where one is required, and
what is read with a hash required is read without.  Numbers are kept as they are, and every
id that is made or read is printed in a text that is read as that id.
-/
theorem ids_read_exactly :
    (∀ requireHash text,
      ((∃ id, parse requireHash text = .ok id) ↔
          ∃ form : Form, form.IsReadIn requireHash text) ∧
        ∀ id,
          parse requireHash text = .ok id ↔
            ∃ form : Form, form.IsReadIn requireHash text ∧ form.Denotes id) ∧
      (∀ text id, parse true text = .ok id → parse false text = .ok id) ∧
        (∀ cluster position,
          ((∃ id, ofParts cluster position = .ok id) ↔
              -32767 ≤ cluster.toInt ∧ cluster.toInt ≤ 32767) ∧
            ∀ id,
              ofParts cluster position = .ok id →
                id.cluster.toInt = cluster.toInt ∧ id.position = position) ∧
          ∀ id : RecordId, id.IsMade → ∀ requireHash, parse requireHash id.toText = .ok id := by
  refine ⟨fun requireHash text => ⟨exists_parse_iff, fun id => parse_eq_ok_iff⟩,
    fun text id => parse_of_parse_hashed, fun cluster position => ⟨exists_ofParts_iff, ?_⟩,
    fun id made => parse_toText made.isValid⟩
  intro id accepted
  exact (ofParts_eq_ok_iff.mp accepted).2

/-- The least id is read between blanks and behind zeros, and refused where a hash is required. -/
theorem ids_read_exactly_padded :
    ∃ id : RecordId,
      parse false "\u00a0-32767:-009223372036854775808\n" = .ok id ∧
        (∃ form : Form,
          form.IsReadIn false "\u00a0-32767:-009223372036854775808\n" ∧ form.Denotes id) ∧
          (¬∃ form : Form, form.IsReadIn true "\u00a0-32767:-009223372036854775808\n") ∧
            parse true "#-32767:-9223372036854775808" = .ok id := by
  obtain ⟨readExactly, _, _, printed⟩ := ids_read_exactly
  have accepted :
      parse false "\u00a0-32767:-009223372036854775808\n" =
        .ok ⟨-32767, -9223372036854775808⟩ :=
    rfl
  have refused :
      parse true "\u00a0-32767:-009223372036854775808\n" =
        .error (error "'-32767:-009223372036854775808' is not a valid record id") :=
    rfl
  refine ⟨_, accepted, ((readExactly false _).2 _).mp accepted, ?_,
    printed _ (.parse accepted) true⟩
  rw [← (readExactly true _).1]
  rintro ⟨id, hashed⟩
  cases hashed.symm.trans refused

end RecordId

end RecordSchema
