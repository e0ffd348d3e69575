import ApiDrift.Text.Case
import Mathlib.Data.String.Basic

/-!
# The size of small forms

A small form has no more characters than the text has octets of UTF-8. For an ASCII text the two
numbers are the same.
-/

namespace ApiDrift.Text

/-- All characters of a text are ASCII characters. -/
def IsAscii (text : List Char) : Prop :=
  ∀ c ∈ text, c.toNat < 0x80

instance (text : List Char) : Decidable (IsAscii text) :=
  List.decidableBAll (fun c : Char => c.toNat < 0x80) text

/-- A character beyond ASCII has more than one octet. -/
theorem two_le_utf8Size {c : Char} (h : ¬c.toNat < 0x80) : 2 ≤ c.utf8Size := by
  have hone : ¬c.utf8Size = 1 := fun hsize => h <| by
    have hle := Char.utf8Size_eq_one_iff.mp hsize
    exact Nat.lt_succ_of_le (UInt32.le_iff_toNat_le.mp hle)
  have hpos := c.utf8Size_pos
  omega

/-- The table of small forms has none of more than two characters. -/
theorem length_mapCase_le (c : Char) : (mapCase smallRuns smallSequences c).length ≤ 2 := by
  unfold mapCase
  split
  · exact Nat.le_succ 1
  · split
    next codes hcodes =>
      simp only [smallSequences, List.lookup_cons, List.lookup_nil] at hcodes
      split at hcodes
      · cases hcodes
        exact Nat.le_refl 2
      · cases hcodes
    next => exact Nat.le_succ 1

/-- A small form has no more characters than the character has octets. -/
theorem length_smallOf_le (c : Char) : (smallOf c).length ≤ c.utf8Size := by
  unfold smallOf
  split
  next => exact c.utf8Size_pos
  next hascii => exact Nat.le_trans (length_mapCase_le c) (two_le_utf8Size hascii)

theorem length_smallBetween_le (seen : List Char) (c : Char) (rest : List Char) :
    (smallBetween seen c rest).length ≤ c.utf8Size := by
  unfold smallBetween
  split
  · split <;> exact c.utf8Size_pos
  · exact length_smallOf_le c

theorem length_toSmallAfter_le (done seen rest : List Char) :
    (toSmallAfter done seen rest).length ≤ done.length + String.utf8Len rest := by
  induction rest generalizing done seen with
  | nil => simp [toSmallAfter]
  | cons c rest ih =>
    have hnext := ih ((smallBetween seen c rest).reverse ++ done) (c :: seen)
    have hone := length_smallBetween_le seen c rest
    rw [List.length_append, List.length_reverse] at hnext
    rw [toSmallAfter, String.utf8Len_cons]
    omega

/-- A small form has no more characters than the text has octets. -/
theorem length_lower_le (text : String) : (lower text).length ≤ text.utf8ByteSize := by
  have hle := length_toSmallAfter_le [] [] text.toList
  rw [List.length_nil, Nat.zero_add, ← String.utf8ByteSize_ofList, String.ofList_toList] at hle
  rw [lower, String.length_ofList]
  exact hle

theorem toSmallAfter_of_isAscii {rest : List Char} (h : IsAscii rest) (done seen : List Char) :
    toSmallAfter done seen rest = done.reverse ++ rest.map Char.toLower := by
  induction rest generalizing done seen with
  | nil => simp [toSmallAfter]
  | cons c rest ih =>
    obtain ⟨hc, hrest⟩ := List.forall_mem_cons.mp h
    have hsigma : c ≠ 'Σ' := by
      rintro rfl
      exact absurd hc (by decide)
    rw [toSmallAfter, smallBetween, if_neg hsigma, smallOf, if_pos hc, ih hrest]
    simp

/-- An ASCII text has as many octets as characters. -/
theorem utf8Len_of_isAscii {text : List Char} (h : IsAscii text) :
    String.utf8Len text = text.length := by
  induction text with
  | nil => rfl
  | cons c text ih =>
    obtain ⟨hc, htext⟩ := List.forall_mem_cons.mp h
    have hsize : c.utf8Size = 1 :=
      Char.utf8Size_eq_one_iff.mpr (UInt32.le_iff_toNat_le.mpr (Nat.le_of_lt_succ hc))
    rw [String.utf8Len_cons, ih htext, hsize, List.length_cons]

/-- The small form of an ASCII text has as many characters as the text has octets. -/
theorem length_lower_of_isAscii {text : String} (h : IsAscii text.toList) :
    (lower text).length = text.utf8ByteSize := by
  rw [lower, String.length_ofList, toSmall, toSmallAfter_of_isAscii h]
  rw [← String.ofList_toList (s := text), String.utf8ByteSize_ofList, String.toList_ofList,
    utf8Len_of_isAscii h]
  simp

end ApiDrift.Text
