namespace RecordSchema

/-!
# The order of texts

Texts are compared character by character.  Where they are kept as bytes, in the names of
files for one, they are compared byte by byte, and the two orders are the same.  Sorting by
texts keeps what has the same text in its order.
-/

namespace Text

/-- The bytes of a text in UTF-8. -/
def utf8Bytes (text : String) : List UInt8 :=
  text.toUTF8.data.toList

theorem utf8Bytes_eq_flatMap
    (text : String) :
    utf8Bytes text = text.toList.flatMap String.utf8EncodeChar := by
  rw [utf8Bytes, String.toUTF8_eq_toByteArray, ← String.utf8Encode_toList, List.utf8Encode,
    List.toList_data_toByteArray]

/--
The bytes of a smaller character come first, whatever follows.  The first byte tells how many
there are, and more for greater characters; of as many bytes the first that differs decides.
-/
theorem utf8EncodeChar_append_lt
    {first second : Char}
    (less : first < second)
    (firstRest secondRest : List UInt8) :
    String.utf8EncodeChar first ++ firstRest < String.utf8EncodeChar second ++ secondRest := by
  have lessCode : first.val.toNat < second.val.toNat := less
  have bound : second.val.toNat < 0x110000 := by
    rcases second.valid with low | high <;> omega
  simp only [String.utf8EncodeChar]
  generalize first.val.toNat = firstCode at lessCode ⊢
  generalize second.val.toNat = secondCode at lessCode bound ⊢
  -- The digits of a code point in base 64 come from one another by division.
  have thirdDigit (code : Nat) : code / 4096 = code / 64 / 64 := by
    omega
  have fourthDigit (code : Nat) : code / 262144 = code / 64 / 64 / 64 := by
    omega
  simp only [thirdDigit, fourthDigit]
  repeat' split
  all_goals
    simp only [List.cons_append, List.nil_append, List.cons_lt_cons_iff,
      UInt8.lt_iff_toNat_lt, ← UInt8.toNat_inj, UInt8.toNat_ofNat', Nat.reducePow]
    omega

/-- A smaller text has smaller bytes. -/
theorem flatMap_utf8EncodeChar_lt
    {left right : List Char}
    (less : left < right) :
    left.flatMap String.utf8EncodeChar < right.flatMap String.utf8EncodeChar := by
  induction less with
  | nil =>
      rename_i first rest
      rw [List.flatMap_nil, List.flatMap_cons]
      cases encoded : String.utf8EncodeChar first with
      | nil =>
          exact absurd encoded String.utf8EncodeChar_ne_nil
      | cons byte bytes =>
          exact .nil
  | rel first =>
      rw [List.flatMap_cons, List.flatMap_cons]
      exact utf8EncodeChar_append_lt first _ _
  | cons _ inductionHypothesis =>
      rw [List.flatMap_cons, List.flatMap_cons]
      exact List.append_left_lt inductionHypothesis

/-- Texts are in the order of their bytes. -/
theorem utf8Bytes_lt_iff
    {left right : String} :
    utf8Bytes left < utf8Bytes right ↔ left < right := by
  have keeps {first second : String} (less : first < second) :
      utf8Bytes first < utf8Bytes second := by
    rw [utf8Bytes_eq_flatMap, utf8Bytes_eq_flatMap]
    exact flatMap_utf8EncodeChar_lt less
  constructor
  · intro lessBytes
    rcases Std.lt_trichotomy left right with less | rfl | greater
    · exact less
    · exact absurd lessBytes (List.lt_irrefl _)
    · exact absurd lessBytes (List.lt_asymm (keeps greater))
  · exact keeps

theorem utf8Bytes_le_of_le
    {left right : String}
    (notGreater : left ≤ right) :
    utf8Bytes left ≤ utf8Bytes right :=
  fun less => String.not_lt.mpr notGreater (utf8Bytes_lt_iff.mp less)

section Sorting

variable {α : Type} (key : α → String)

theorem notGreater_trans
    (first second third : α) :
    !(key second < key first) → !(key third < key second) → !(key third < key first) := by
  simp only [Bool.not_eq_true', decide_eq_false_iff_not, String.not_lt]
  exact String.le_trans

theorem notGreater_total
    (first second : α) :
    !(key second < key first) || !(key first < key second) := by
  simp only [Bool.or_eq_true, Bool.not_eq_true', decide_eq_false_iff_not, String.not_lt]
  exact String.le_total _ _

/-- What is sorted by a text is in the order of these texts. -/
theorem pairwise_mergeSort
    (list : List α) :
    (list.mergeSort fun left right => !(key right < key left)).Pairwise fun left right =>
      key left ≤ key right := by
  have sorted := List.pairwise_mergeSort (notGreater_trans key) (notGreater_total key) list
  refine sorted.imp fun notGreater => ?_
  simpa only [Bool.not_eq_true', decide_eq_false_iff_not, String.not_lt] using notGreater

/-- What is sorted by the same text stays in its order. -/
theorem filter_mergeSort
    (list : List α)
    (text : String) :
    ((list.mergeSort fun left right => !(key right < key left)).filter fun element =>
        key element = text) =
      list.filter fun element => key element = text := by
  have ofOneText :
      (list.filter fun element => key element = text).Pairwise fun first second =>
        !(key second < key first) := by
    refine List.pairwise_of_forall_mem_list fun first inFirst second inSecond => ?_
    have sameText : key second = key first := by
      rw [of_decide_eq_true (List.mem_filter.mp inSecond).2,
        of_decide_eq_true (List.mem_filter.mp inFirst).2]
    simp only [sameText, Bool.not_eq_true', decide_eq_false_iff_not]
    exact String.lt_irrefl _
  have kept :=
    (List.sublist_mergeSort (notGreater_trans key) (notGreater_total key) ofOneText
      List.filter_sublist).filter fun element => decide (key element = text)
  simp only [List.filter_filter, Bool.and_self] at kept
  exact (kept.eq_of_length ((List.mergeSort_perm list _).filter _).length_eq.symm).symm

end Sorting

end Text

end RecordSchema
