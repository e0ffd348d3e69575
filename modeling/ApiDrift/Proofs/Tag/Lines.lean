import ApiDrift.Proofs.Tag.Address
import ApiDrift.Proofs.Tag.Calendar
import ApiDrift.Tag

/-!
# Values that are lines

Whatever a tag accepts whose values are quoted inside a literal is one line of at least one
character. So the tests for days, addresses, identifiers and tokens add nothing to what may stand
between the quotes of a leaf.
-/

namespace ApiDrift.Tag

/-- A line has at least one character and no line break. -/
theorem isLine_iff {text : List Char} :
    isLine text = true ↔ text ≠ [] ∧ '\r' ∉ text ∧ '\n' ∉ text := by
  have hbreaks : (∀ c ∈ text, c ≠ '\r' ∧ c ≠ '\n') ↔ '\r' ∉ text ∧ '\n' ∉ text := by
    constructor
    · exact fun h => ⟨fun hmem => (h _ hmem).1 rfl, fun hmem => (h _ hmem).2 rfl⟩
    · exact fun h c hc => ⟨fun heq => h.1 (heq ▸ hc), fun heq => h.2 (heq ▸ hc)⟩
  rw [← hbreaks]
  simp [isLine]

/-- Characters of a class without line breaks make a line. -/
theorem isLine_of_forall {text : List Char} {p : Char → Bool} (hreturn : p '\r' = false)
    (hfeed : p '\n' = false) (hne : text ≠ []) (h : ∀ c ∈ text, p c = true) :
    isLine text = true := by
  refine isLine_iff.mpr ⟨hne, fun hmem => ?_, fun hmem => ?_⟩
  · rw [h _ hmem] at hreturn
    cases hreturn
  · rw [h _ hmem] at hfeed
    cases hfeed

/-- A truth value is one of two words. -/
theorem isBoolean_iff {text : List Char} :
    isBoolean text = true ↔ text = "true".toList ∨ text = "false".toList := by
  rw [isBoolean, Bool.or_eq_true, beq_iff_eq, beq_iff_eq]

/-- A day is written with digits and hyphens, and maybe quotes. -/
theorem chars_of_isDate {text : List Char} (h : isDate text = true) :
    text ≠ [] ∧ ∀ c ∈ text, c = '"' ∨ isDigit c = true ∨ c = '-' := by
  obtain ⟨d, rfl | rfl⟩ := isDate_iff.mp h
  · refine ⟨fun hnil => ?_, fun c hc => .inr (d.chars_text c hc)⟩
    have hlength := d.length_octets
    rw [hnil] at hlength
    exact absurd hlength (by decide)
  · refine ⟨by simp, fun c hc => ?_⟩
    rw [List.mem_append, List.mem_cons, List.mem_singleton] at hc
    rcases hc with (hc | hc) | hc
    · exact .inl hc
    · exact .inr (d.chars_text c hc)
    · exact .inl hc

/-- A day is a line. -/
theorem isLine_of_isDate {text : List Char} (h : isDate text = true) : isLine text = true := by
  obtain ⟨hne, hchars⟩ := chars_of_isDate h
  have hclass : ∀ c ∈ text, (c == '"' || (isDigit c || c == '-')) = true := by
    intro c hc
    rw [Bool.or_eq_true, Bool.or_eq_true, beq_iff_eq, beq_iff_eq]
    exact hchars c hc
  exact isLine_of_forall (by decide) (by decide) hne hclass

/-- An identifier is a line. -/
theorem isLine_of_isUuid {text : List Char} (h : isUuid text = true) : isLine text = true := by
  unfold isUuid at h
  rw [Bool.and_eq_true, Bool.and_eq_true] at h
  obtain ⟨⟨hlength, hall⟩, -⟩ := h
  refine isLine_of_forall (by decide) (by decide) ?_ (List.all_eq_true.mp hall)
  rintro rfl
  exact absurd hlength (by decide)

/-- A token is written with letters, digits and a space. -/
theorem chars_of_isAuthToken {text : List Char} (h : isAuthToken text = true) :
    ' ' ∈ text ∧ ∀ c ∈ text, c = ' ' ∨ isAlphanumeric c = true := by
  unfold isAuthToken at h
  split at h
  · next token =>
    obtain ⟨-, htoken⟩ := Bool.and_eq_true_iff.mp h
    have hword : "Bearer ".toList.all (fun c => c == ' ' || isAlphanumeric c) = true := by decide
    refine ⟨by simp, fun c hc => ?_⟩
    rcases List.mem_append.mp (show c ∈ "Bearer ".toList ++ token from hc) with hc | hc
    · simpa using List.all_eq_true.mp hword c hc
    · exact .inr (List.all_eq_true.mp htoken c hc)
  · cases h

/-- A token is a line. -/
theorem isLine_of_isAuthToken {text : List Char} (h : isAuthToken text = true) :
    isLine text = true := by
  obtain ⟨hspace, hchars⟩ := chars_of_isAuthToken h
  have hclass : ∀ c ∈ text, (c == ' ' || isAlphanumeric c) = true := by
    intro c hc
    rw [Bool.or_eq_true, beq_iff_eq]
    exact hchars c hc
  exact isLine_of_forall (by decide) (by decide) (List.ne_nil_of_mem hspace) hclass

/-- An address is a line. -/
theorem isLine_of_isEmail {text : List Char} (h : isEmail text = true) : isLine text = true := by
  obtain ⟨hcount, hchars⟩ := (isEmail_iff.mp h).chars
  have hclass : ∀ c ∈ text, (c == '@' || c == '.' || isAtomChar c) = true := by
    intro c hc
    rw [Bool.or_eq_true, Bool.or_eq_true, beq_iff_eq, beq_iff_eq, or_assoc]
    exact hchars c hc
  refine isLine_of_forall (by decide) (by decide) ?_ hclass
  rintro rfl
  exact absurd hcount (by decide)

/-- A text is quotable exactly when it is a line. -/
theorem isQuotable_eq_isLine (text : List Char) : isQuotable text = isLine text := by
  rw [Bool.eq_iff_iff]
  unfold isQuotable
  simp only [Bool.or_eq_true]
  constructor
  · rintro ((((hline | hdate) | hemail) | huuid) | htoken)
    · exact hline
    · exact isLine_of_isDate hdate
    · exact isLine_of_isEmail hemail
    · exact isLine_of_isUuid huuid
    · exact isLine_of_isAuthToken htoken
  · intro hline
    exact .inl (.inl (.inl (.inl hline)))

end ApiDrift.Tag
