import ApiDrift.Proofs.Suggestion.Table
import ApiDrift.Suggestion.Closest

/-!
# Which name is suggested

The name to suggest is the first one of the known names whose edit distance from the name is least,
both in small letters. The distance itself is exact: the rows it is computed in come to the least
number of edits.
-/

namespace ApiDrift.Suggestion

/-- An item is the first one of a list at which a value is least. -/
def FirstLeast (value : String → Nat) (items : List String) (item : String) : Prop :=
  ∃ before after, items = before ++ item :: after ∧
    (∀ other ∈ before, value item < value other) ∧ ∀ other ∈ after, value item ≤ value other

namespace FirstLeast

variable {value : String → Nat} {items : List String} {item own : String}

theorem mem (h : FirstLeast value items item) : item ∈ items := by
  obtain ⟨before, after, rfl, -, -⟩ := h
  exact List.mem_append_right before List.mem_cons_self

theorem le (h : FirstLeast value items item) {other : String} (hother : other ∈ items) :
    value item ≤ value other := by
  obtain ⟨before, after, rfl, hbefore, hafter⟩ := h
  rcases List.mem_append.mp hother with hmem | hmem
  · exact Nat.le_of_lt (hbefore other hmem)
  · rcases List.mem_cons.mp hmem with rfl | hmem
    · exact Nat.le_refl _
    · exact hafter other hmem

/-- An item in front that is not greater than any other is the first least one. -/
theorem head (h : ∀ other ∈ items, value own ≤ value other) :
    FirstLeast value (own :: items) own :=
  ⟨[], items, rfl, by simp, h⟩

/-- A greater item in front leaves the first least one as it is. -/
theorem cons (h : FirstLeast value items item) (hown : value item < value own) :
    FirstLeast value (own :: items) item := by
  obtain ⟨before, after, rfl, hbefore, hafter⟩ := h
  exact ⟨own :: before, after, rfl, List.forall_mem_cons.mpr ⟨hown, hbefore⟩, hafter⟩

end FirstLeast

variable {name candidate : String} {known : List String}

/-- The nearest of some known names is the first one whose distance is least. -/
theorem exists_nearest? (name : String) (hknown : known ≠ []) :
    ∃ candidate, nearest? name known = some (candidate, caselessDistance name candidate) ∧
      FirstLeast (caselessDistance name) known candidate := by
  induction known with
  | nil => exact absurd rfl hknown
  | cons own rest ih =>
    by_cases hrest : rest = []
    · subst hrest
      exact ⟨own, rfl, .head (by simp)⟩
    · obtain ⟨other, hnearest, hother⟩ := ih hrest
      by_cases hlt : caselessDistance name other < caselessDistance name own
      · exact ⟨other, by simp only [nearest?, hnearest, if_pos hlt], hother.cons hlt⟩
      · refine ⟨own, by simp only [nearest?, hnearest, if_neg hlt], .head fun next hnext => ?_⟩
        exact Nat.le_trans (Nat.le_of_not_lt hlt) (hother.le hnext)

/-- Of some known names, the first nearest one is suggested if it is near enough. -/
theorem exists_closest? (name : String) (hknown : known ≠ []) :
    ∃ candidate, FirstLeast (caselessDistance name) known candidate ∧
      closest? name known =
        if caselessDistance name candidate ≤ max name.utf8ByteSize candidate.utf8ByteSize / 2 then
          some candidate
        else none := by
  obtain ⟨candidate, hnearest, hfirst⟩ := exists_nearest? name hknown
  refine ⟨candidate, hfirst, ?_⟩
  rw [closest?, hnearest]
  rfl

/-- A name is only suggested if it is the first nearest one. -/
theorem firstLeast_of_closest? (h : closest? name known = some candidate) :
    FirstLeast (caselessDistance name) known candidate := by
  have hknown : known ≠ [] := by
    rintro rfl
    cases h
  obtain ⟨nearest, hfirst, hclosest⟩ := exists_closest? name hknown
  rw [hclosest] at h
  split at h
  · cases h
    exact hfirst
  · cases h

/-- The rows are never left and come to the least number of insertions, deletions and substitutions
of single characters that turn one text into the other, which is the recursive distance. So the
distance is symmetric, zero only between equal texts, and no longer than any way round. A name
that is suggested is the first one of the known names whose distance, in small letters, is least. -/
theorem distance_exact :
    (∀ a b : List Char,
      measure a b = .ok (distance a b) ∧
        distance a b = editDistance a b ∧
        IsLeast {n | Edits n a b} (distance a b) ∧
        distance a b = distance b a ∧
        (distance a b = 0 ↔ a = b) ∧
        ∀ c : List Char, distance a c ≤ distance a b + distance b c) ∧
      ∀ (name : String) (known : List String) (candidate : String),
        closest? name known = some candidate →
          FirstLeast (fun other => distance (Text.lower name).toList (Text.lower other).toList)
            known candidate := by
  refine ⟨fun a b => ?_, fun name known candidate h => firstLeast_of_closest? h⟩
  simp only [distance_eq_editDistance]
  exact ⟨measure_eq a b, trivial, isLeast_editDistance a b, editDistance_comm a b,
    editDistance_eq_zero_iff, editDistance_triangle a b⟩

/-- Two known names are one edit away from a misspelled one, and the one that comes first among
the known names is suggested. -/
theorem distance_exact_tie :
    closest? "pust" ["GET", "POST", "PUT"] = some "POST" ∧
      FirstLeast (fun other => distance (Text.lower "pust").toList (Text.lower other).toList)
        ["GET", "POST", "PUT"] "POST" ∧
      caselessDistance "pust" "POST" = caselessDistance "pust" "PUT" := by
  have hclosest : closest? "pust" ["GET", "POST", "PUT"] = some "POST" := by decide +kernel
  exact ⟨hclosest, distance_exact.2 _ _ _ hclosest, by decide +kernel⟩

end ApiDrift.Suggestion
