import ApiDrift.Proofs.Suggestion.Choice
import ApiDrift.Proofs.Text.Case
import ApiDrift.Tag

/-!
# How near a suggested name is

A distance counts characters of small forms, but it is held against octets of the names as they are
written. A name has at least as many octets as its small form has characters, so a name within half
of the characters is always suggested, and for ASCII names nothing else is. A name beyond ASCII may
get a hint to a name that it shares no character with.
-/

namespace ApiDrift.Suggestion

/-- The number of characters of the longer one of two names in small letters. -/
def longerLength (name candidate : String) : Nat :=
  max (Text.lower name).length (Text.lower candidate).length

/-- Two names have no character in common in small letters. -/
def Unrelated (name candidate : String) : Prop :=
  ∀ c ∈ (Text.lower name).toList, c ∉ (Text.lower candidate).toList

instance (name candidate : String) : Decidable (Unrelated name candidate) :=
  List.decidableBAll (fun c => c ∉ (Text.lower candidate).toList) (Text.lower name).toList

variable {name candidate : String}

/-- The longer one of two names has at least as many octets as characters are compared. -/
theorem longerLength_le (name candidate : String) :
    longerLength name candidate ≤ max name.utf8ByteSize candidate.utf8ByteSize := by
  have hname := Text.length_lower_le name
  have hcandidate := Text.length_lower_le candidate
  unfold longerLength
  omega

/-- The longer one of two ASCII names has as many octets as characters are compared. -/
theorem longerLength_of_isAscii (hname : Text.IsAscii name.toList)
    (hcandidate : Text.IsAscii candidate.toList) :
    longerLength name candidate = max name.utf8ByteSize candidate.utf8ByteSize := by
  rw [longerLength, Text.length_lower_of_isAscii hname, Text.length_lower_of_isAscii hcandidate]

/-- Unrelated names are as far apart as the longer one is long. -/
theorem Unrelated.distance_eq (h : Unrelated name candidate) :
    caselessDistance name candidate = longerLength name candidate := by
  rw [caselessDistance, distance_eq_editDistance, editDistance_eq_length h, longerLength,
    String.length_toList, String.length_toList]

/-- Half of the octets of two ASCII names, not both empty, is less than the length of the longer
one. -/
theorem half_lt_longerLength (hne : name ≠ "") (hname : Text.IsAscii name.toList)
    (hcandidate : Text.IsAscii candidate.toList) :
    max name.utf8ByteSize candidate.utf8ByteSize / 2 < longerLength name candidate := by
  have hpos : 0 < name.utf8ByteSize :=
    Nat.pos_of_ne_zero fun hzero => hne (String.utf8ByteSize_eq_zero_iff.mp hzero)
  rw [longerLength_of_isAscii hname hcandidate]
  omega

/-- Of some known names, the first nearest one is suggested exactly if its distance is at most half
of the octets of the longer name. So it is suggested if its distance is at most half of the
characters that are compared. Names without a common character are as far apart as the longer one
is long, and for ASCII names, where octets and characters are the same, none is suggested for an
unrelated one. -/
theorem closest?_threshold (name : String) (known : List String) (hknown : known ≠ []) :
    ∃ candidate, FirstLeast (caselessDistance name) known candidate ∧
      closest? name known =
        (if caselessDistance name candidate ≤ max name.utf8ByteSize candidate.utf8ByteSize / 2 then
          some candidate
        else none) ∧
      (caselessDistance name candidate ≤ longerLength name candidate / 2 →
        closest? name known = some candidate) ∧
      (Unrelated name candidate → caselessDistance name candidate = longerLength name candidate) ∧
      (Text.IsAscii name.toList → Text.IsAscii candidate.toList →
        (closest? name known = some candidate ↔
          caselessDistance name candidate ≤ longerLength name candidate / 2) ∧
        (name ≠ "" → Unrelated name candidate → closest? name known = none)) := by
  obtain ⟨candidate, hfirst, hclosest⟩ := exists_closest? name hknown
  refine ⟨candidate, hfirst, hclosest, fun hnear => ?_, Unrelated.distance_eq,
    fun hname hcandidate => ⟨?_, fun hne hunrelated => ?_⟩⟩
  · have hle := longerLength_le name candidate
    rw [hclosest, if_pos (by omega)]
  · rw [hclosest, longerLength_of_isAscii hname hcandidate]
    simp
  · have hlt := half_lt_longerLength hne hname hcandidate
    rw [hclosest, hunrelated.distance_eq, if_neg (Nat.not_le_of_lt hlt)]

/-- Of the names of tags, each of which is an ASCII text, only one that is near enough in characters
is suggested for a misspelled one. -/
theorem closest?_threshold_misspelled :
    Tag.all.map Tag.name ≠ [] ∧
      ∃ candidate, FirstLeast (caselessDistance "Strng") (Tag.all.map Tag.name) candidate ∧
        (closest? "Strng" (Tag.all.map Tag.name) = some candidate ↔
          caselessDistance "Strng" candidate ≤ longerLength "Strng" candidate / 2) := by
  have hknown : Tag.all.map Tag.name ≠ [] := by decide
  have hascii : ∀ other ∈ Tag.all.map Tag.name, Text.IsAscii other.toList := by decide +kernel
  obtain ⟨candidate, hfirst, -, -, -, hlaw⟩ := closest?_threshold "Strng" _ hknown
  exact ⟨hknown, candidate, hfirst, (hlaw (by decide) (hascii candidate hfirst.mem)).1⟩

/-- A name of three characters with two octets each gets a hint to a name of three characters. It
has no character in common with any name of a tag, and none is within half of the characters. -/
theorem closest?_of_unrelated :
    closest? "ééé" (Tag.all.map Tag.name) = some "Int" ∧
      ∀ candidate ∈ Tag.all.map Tag.name,
        Unrelated "ééé" candidate ∧
          longerLength "ééé" candidate / 2 < caselessDistance "ééé" candidate := by
  decide +kernel

end ApiDrift.Suggestion
