import RecordSchema.Proofs.Json.Field

namespace RecordSchema

/-!
# Values in normal form

The members of an object in normal form are sorted by key without repetition.  A value in
normal form that is taken apart is read back as it was, and whatever is read, from a value or
from a text, is in normal form.
-/

namespace Json

/-- A value in which the keys of every object increase strictly. -/
inductive IsNormal : Json → Prop where
  | null : IsNormal .null
  | bool (value : Bool) : IsNormal (.bool value)
  | number (value : Number) : IsNormal (.number value)
  | string (value : String) : IsNormal (.string value)
  | array
      {items : List Json} :
      (∀ item ∈ items, IsNormal item) →
      IsNormal (.array items)
  | object
      {members : List (String × Json)} :
      (members.Pairwise fun first second => first.1 < second.1) →
      (∀ member ∈ members, IsNormal member.2) →
      IsNormal (.object members)

theorem IsNormal.ofMap
    {members : SortedMap Json}
    (normal : ∀ key value, members.get? key = some value → value.IsNormal) :
    (Json.object members.entries).IsNormal :=
  .object members.sorted fun member inMembers =>
    normal member.1 member.2 (SortedMap.get?_eq_some_iff.mpr inMembers)

theorem isNormal_ofMembers
    {members : List (String × Json)}
    (normal : ∀ member ∈ members, member.2.IsNormal) :
    (Json.ofMembers members).IsNormal :=
  .ofMap fun _ _ found => normal _ (SortedMap.mem_of_get?_ofList found)

theorem isNormal_ofStrings
    (texts : List String) :
    (ofStrings texts).IsNormal :=
  .array fun _ member => by
    obtain ⟨text, _, rfl⟩ := List.mem_map.mp member
    exact .string text

theorem isNormal_of_mem_optionalMember
    {name : String}
    {value : Option Json}
    (normal : ∀ set, value = some set → set.IsNormal)
    {member : String × Json}
    (inMembers : member ∈ optionalMember name value) :
    member.2.IsNormal := by
  cases value with
  | none => cases inMembers
  | some set =>
      rw [List.mem_singleton.mp inMembers]
      exact normal set rfl

/-- An optional member whose value is made in normal form. -/
theorem isNormal_of_mem_optionalMember_map
    {name : String}
    {write : α → Json}
    {value : Option α}
    (normal : ∀ set, (write set).IsNormal)
    {member : String × Json}
    (inMembers : member ∈ optionalMember name (value.map write)) :
    member.2.IsNormal := by
  refine isNormal_of_mem_optionalMember (fun set isSet => ?_) inMembers
  obtain ⟨original, _, rfl⟩ := Option.map_eq_some_iff.mp isSet
  exact normal original

namespace Document

theorem toItems?_eq_collect?
    (items : List Document) :
    toItems? items = collect? toJson? items := by
  induction items with
  | nil =>
      rfl
  | cons first rest inductionHypothesis =>
      rw [toItems?, collect?, inductionHypothesis]
      cases first.toJson? <;> cases collect? toJson? rest <;> rfl

theorem toMembers?_eq_collect?
    (members : List (Option String × Document)) :
    toMembers? members = collect? (toMember? toJson?) members := by
  induction members with
  | nil =>
      rfl
  | cons first rest inductionHypothesis =>
      obtain ⟨key, member⟩ := first
      rw [collect?, toMember?, ← inductionHypothesis, toMembers?.eq_def]
      dsimp only
      cases key <;> cases member.toJson? <;> cases toMembers? rest <;> rfl

theorem toItems?_ofItems
    {items : List Json}
    (readBack : ∀ item ∈ items, (ofJson item).toJson? = some item) :
    toItems? (ofItems items) = some items := by
  rw [toItems?_eq_collect?, ofItems_eq_map, collect?_map readBack, List.map_id']

theorem toMembers?_ofMembers
    {members : List (String × Json)}
    (readBack : ∀ member ∈ members, (ofJson member.2).toJson? = some member.2) :
    toMembers? (ofMembers members) = some members := by
  have memberRead :
      ∀ member ∈ members,
        toMember? toJson? (some member.1, ofJson member.2) = some member :=
    fun member inMembers => toMember?_eq_some_iff.mpr ⟨rfl, readBack member inMembers⟩
  rw [toMembers?_eq_collect?, ofMembers_eq_map, collect?_map memberRead, List.map_id']

/-- A value in normal form is read back as it was. -/
theorem toJson?_ofJson
    {value : Json}
    (normal : value.IsNormal) :
    (ofJson value).toJson? = some value := by
  induction normal with
  | null => rfl
  | bool value => rfl
  | number value => rfl
  | string value => rfl
  | array _ inductionHypothesis =>
      rw [ofJson, toJson?, toItems?_ofItems inductionHypothesis, Option.map_some]
  | @object members sorted _ inductionHypothesis =>
      have entries : (SortedMap.ofList members).entries = members :=
        congrArg SortedMap.entries (SortedMap.ofList_entries ⟨members, sorted⟩)
      rw [ofJson, toJson?, toMembers?_ofMembers inductionHypothesis, Option.map_some, entries]

/-- A document whose scalars hold neither arrays nor objects. -/
inductive IsTakenApart : Document → Prop where
  | unread : IsTakenApart (.scalar none)
  | null : IsTakenApart (.scalar (some .null))
  | bool (value : Bool) : IsTakenApart (.scalar (some (.bool value)))
  | number (value : Number) : IsTakenApart (.scalar (some (.number value)))
  | string (value : String) : IsTakenApart (.scalar (some (.string value)))
  | array
      {items : List Document} :
      (∀ item ∈ items, IsTakenApart item) →
      IsTakenApart (.array items)
  | object
      {members : List (Option String × Document)} :
      (∀ member ∈ members, IsTakenApart member.2) →
      IsTakenApart (.object members)

mutual

theorem isTakenApart_ofJson : (value : Json) → (ofJson value).IsTakenApart
  | .null => .null
  | .bool value => .bool value
  | .number value => .number value
  | .string value => .string value
  | .array items => .array (isTakenApart_ofItems items)
  | .object members => .object (isTakenApart_ofMembers members)

theorem isTakenApart_ofItems :
    (items : List Json) → ∀ item ∈ ofItems items, item.IsTakenApart
  | [] => by simp [ofItems]
  | first :: rest => by
      simpa [ofItems] using ⟨isTakenApart_ofJson first, isTakenApart_ofItems rest⟩

theorem isTakenApart_ofMembers :
    (members : List (String × Json)) → ∀ member ∈ ofMembers members, member.2.IsTakenApart
  | [] => by simp [ofMembers]
  | (key, first) :: rest => by
      have ofRest := isTakenApart_ofMembers rest
      simp only [ofMembers, List.forall_mem_cons]
      exact ⟨isTakenApart_ofJson first, ofRest⟩

end

theorem IsTakenApart.of_isPartOf
    {part whole : Document}
    (apart : whole.IsTakenApart)
    (isPart : part.IsPartOf whole) :
    part.IsTakenApart := by
  cases isPart with
  | item inItems =>
      cases apart with
      | array itemsApart => exact itemsApart _ inItems
  | member inMembers =>
      cases apart with
      | object membersApart => exact membersApart _ inMembers

/-- The value of a document is in normal form. -/
theorem isNormal_of_toJson?
    {document : Document}
    {value : Json}
    (takenApart : document.IsTakenApart)
    (isRead : document.toJson? = some value) :
    value.IsNormal := by
  induction takenApart generalizing value with
  | unread => cases isRead
  | null =>
      cases isRead
      exact .null
  | bool value =>
      cases isRead
      exact .bool value
  | number value =>
      cases isRead
      exact .number value
  | string value =>
      cases isRead
      exact .string value
  | array _ inductionHypothesis =>
      obtain ⟨values, itemsRead, rfl⟩ := Option.map_eq_some_iff.mp isRead
      refine .array fun item member => ?_
      rw [toItems?_eq_collect?] at itemsRead
      obtain ⟨source, sourceMember, sourceRead⟩ := exists_of_collect? itemsRead member
      exact inductionHypothesis source sourceMember sourceRead
  | object _ inductionHypothesis =>
      obtain ⟨values, membersRead, rfl⟩ := Option.map_eq_some_iff.mp isRead
      refine .object (SortedMap.sorted _) fun entry member => ?_
      have isValue : entry ∈ values :=
        SortedMap.mem_of_get?_ofList (SortedMap.get?_eq_some_iff.mpr member)
      rw [toMembers?_eq_collect?] at membersRead
      obtain ⟨source, sourceMember, sourceRead⟩ := exists_of_collect? membersRead isValue
      exact inductionHypothesis source sourceMember (toMember?_eq_some_iff.mp sourceRead).2

end Document

/-- A frame whose parts hold scalars without arrays and objects. -/
def Frame.IsTakenApart : Frame → Prop
  | .array items => ∀ item ∈ items, item.IsTakenApart
  | .object members _ => ∀ member ∈ members, member.2.IsTakenApart

namespace Assembly

/-- A place in a text that is reached with parts whose scalars hold no arrays and objects. -/
def IsTakenApart : Assembly → Prop
  | .value frames | .firstItem frames => ∀ frame ∈ frames, frame.IsTakenApart
  | .key frames members | .colon frames members _ =>
      (∀ frame ∈ frames, frame.IsTakenApart) ∧ ∀ member ∈ members, member.2.IsTakenApart
  | .complete frames whole => (∀ frame ∈ frames, frame.IsTakenApart) ∧ whole.IsTakenApart

variable
  {frames : List Frame}
  {token : Token}
  {next : Assembly}

theorem isTakenApart_close
    {whole : Document}
    (framesApart : ∀ frame ∈ frames, frame.IsTakenApart)
    (wholeApart : whole.IsTakenApart) :
    (close frames whole).IsTakenApart := by
  rw [close]
  split
  · exact ⟨framesApart, wholeApart⟩
  · exact ⟨framesApart, .unread⟩

theorem isTakenApart_beginValue?
    (framesApart : ∀ frame ∈ frames, frame.IsTakenApart)
    (begun : beginValue? frames token = some next) :
    next.IsTakenApart := by
  cases token with
  | null =>
      cases begun
      exact ⟨framesApart, .null⟩
  | bool value =>
      cases begun
      exact ⟨framesApart, .bool value⟩
  | number value =>
      cases begun
      cases value with
      | none => exact ⟨framesApart, .unread⟩
      | some value => exact ⟨framesApart, .number value⟩
  | string value =>
      cases begun
      cases value with
      | none => exact ⟨framesApart, .unread⟩
      | some value => exact ⟨framesApart, .string value⟩
  | openArray =>
      cases begun
      exact framesApart
  | openObject =>
      cases begun
      exact ⟨framesApart, by simp⟩
  | _ => cases begun

theorem isTakenApart_continueAfter?
    {whole : Document}
    (framesApart : ∀ frame ∈ frames, frame.IsTakenApart)
    (wholeApart : whole.IsTakenApart)
    (continued : continueAfter? frames whole token = some next) :
    next.IsTakenApart := by
  cases frames with
  | nil => cases token <;> cases continued
  | cons innermost outer =>
      obtain ⟨innermostApart, outerApart⟩ := List.forall_mem_cons.mp framesApart
      cases innermost with
      | array items =>
          have itemsApart : ∀ item ∈ whole :: items, item.IsTakenApart :=
            List.forall_mem_cons.mpr ⟨wholeApart, innermostApart⟩
          cases token with
          | comma =>
              cases continued
              exact List.forall_mem_cons.mpr ⟨itemsApart, outerApart⟩
          | closeArray =>
              cases continued
              exact isTakenApart_close outerApart
                (.array fun item member => itemsApart item (List.mem_reverse.mp member))
          | _ => cases continued
      | object members key =>
          have membersApart : ∀ member ∈ (key, whole) :: members, member.2.IsTakenApart :=
            List.forall_mem_cons.mpr ⟨wholeApart, innermostApart⟩
          cases token with
          | comma =>
              cases continued
              exact ⟨outerApart, membersApart⟩
          | closeObject =>
              cases continued
              exact isTakenApart_close outerApart
                (.object fun entry member => membersApart entry (List.mem_reverse.mp member))
          | _ => cases continued

/-- One more token keeps the parts taken apart. -/
theorem isTakenApart_step?
    {assembly : Assembly}
    (apart : assembly.IsTakenApart)
    (stepped : assembly.step? token = some next) :
    next.IsTakenApart := by
  cases assembly with
  | value frames =>
      exact isTakenApart_beginValue? apart stepped
  | firstItem frames =>
      have openedApart : ∀ frame ∈ .array [] :: frames, frame.IsTakenApart :=
        List.forall_mem_cons.mpr ⟨by simp [Frame.IsTakenApart], apart⟩
      cases token with
      | closeArray =>
          cases stepped
          exact isTakenApart_close apart (.array (by simp))
      | _ =>
          rw [step?] at stepped
          · exact isTakenApart_beginValue? openedApart stepped
          · simp
  | key frames members =>
      cases token with
      | string name =>
          cases stepped
          exact apart
      | closeObject =>
          cases members with
          | nil =>
              cases stepped
              exact isTakenApart_close apart.1 (.object (by simp))
          | cons => cases stepped
      | _ => cases members <;> cases stepped
  | colon frames members name =>
      cases token with
      | colon =>
          cases stepped
          exact List.forall_mem_cons.mpr ⟨apart.2, apart.1⟩
      | _ => cases stepped
  | complete frames whole =>
      exact isTakenApart_continueAfter? apart.1 apart.2 stepped

theorem isTakenApart_document?
    {assembly : Assembly}
    {tokens : List Token}
    {document : Document}
    (apart : assembly.IsTakenApart)
    (isRead : assembly.document? tokens = some document) :
    document.IsTakenApart := by
  induction tokens generalizing assembly with
  | nil =>
      cases assembly with
      | complete frames whole =>
          cases frames with
          | nil =>
              cases isRead
              exact apart.2
          | cons => cases isRead
      | _ => cases isRead
  | cons token rest inductionHypothesis =>
      rw [document?] at isRead
      split at isRead
      · cases isRead
      · rename_i stepped
        exact inductionHypothesis (isTakenApart_step? apart stepped) isRead

end Assembly

/-- The scalars of a text hold neither arrays nor objects. -/
theorem Document.isTakenApart_of_read?
    {text : String}
    {document : Document}
    (isRead : read? text = some document) :
    document.IsTakenApart := by
  rw [read?, ofChars?, Option.bind_eq_some_iff] at isRead
  obtain ⟨tokens, _, assembled⟩ := isRead
  exact Assembly.isTakenApart_document? (by simp [Assembly.IsTakenApart]) assembled

end Json

end RecordSchema
