import ApiDrift.Proofs.Tag.Exactness
import ApiDrift.Proofs.Tag.Refusal

/-!
# Which tags share a text

A few marks of a text say which tag other than that for texts may accept it: a list has a bracket,
an address an at sign, a token a space, and the numbers of hyphens tell identifiers, days and
integers apart. So no two of these tags accept the same text. What any of them but that for lists
accepts is a line, so that a parameter that may be a text is as free as its lines and lists.
-/

namespace ApiDrift.Tag

/-- The only tag, other than that for texts, that may accept a text with the marks of this one. -/
def soleTag (text : List Char) : Tag :=
  if '[' ∈ text then .list
  else if '@' ∈ text then .email
  else if ' ' ∈ text then .authToken
  else if 4 ≤ text.count '-' then .uuid
  else if 2 ≤ text.count '-' then .date
  else if 'e' ∈ text then .boolean
  else .integer

section Marks

variable {text : List Char}

/-- A mark that no character of a class is does not stand in a text of the class. -/
theorem notMem_of_forall {p : Char → Prop} (h : ∀ c ∈ text, p c) {mark : Char} (hmark : ¬p mark) :
    mark ∉ text := fun hmem =>
  hmark (h mark hmem)

/-- An integer has no more than one hyphen, which is its sign. -/
theorem count_le_of_isInteger (h : isInteger text = true) : text.count '-' ≤ 1 := by
  have hdigits {digits : List Char} (hall : digits.all isDigit = true) : digits.count '-' = 0 :=
    List.count_eq_zero_of_not_mem fun hmem =>
      absurd (List.all_eq_true.mp hall _ hmem) (by decide)
  unfold isInteger at h
  split at h
  · rw [List.count_cons_self, hdigits (Bool.and_eq_true_iff.mp h).2]
  · rw [hdigits (Bool.and_eq_true_iff.mp h).2]
    exact Nat.zero_le 1

/-- The marks of a list. -/
theorem soleTag_of_isList (h : isList text = true) : soleTag text = .list :=
  if_pos (mem_of_isList h)

/-- The marks of an address. -/
theorem soleTag_of_isEmail (h : isEmail text = true) : soleTag text = .email := by
  have hbracket : '[' ∉ text := notMem_of_forall (isEmail_iff.mp h).chars.2 (by decide)
  rw [soleTag, if_neg hbracket, if_pos (before_at_of_isEmail h).1]

/-- The marks of a token. -/
theorem soleTag_of_isAuthToken (h : isAuthToken text = true) : soleTag text = .authToken := by
  obtain ⟨hspace, hchars⟩ := chars_of_isAuthToken h
  rw [soleTag, if_neg (notMem_of_forall hchars (by decide)),
    if_neg (notMem_of_forall hchars (by decide)), if_pos hspace]

/-- The marks of an identifier. -/
theorem soleTag_of_isUuid (h : isUuid text = true) : soleTag text = .uuid := by
  have hcount := four_le_count_of_isUuid h
  obtain ⟨⟨-, hall⟩, -⟩ : (_ ∧ _) ∧ _ := by
    simpa only [isUuid, Bool.and_eq_true] using h
  have hchars := List.all_eq_true.mp hall
  rw [soleTag, if_neg (notMem_of_forall hchars (by decide)),
    if_neg (notMem_of_forall hchars (by decide)), if_neg (notMem_of_forall hchars (by decide)),
    if_pos hcount]

/-- The marks of a day. -/
theorem soleTag_of_isDate (h : isDate text = true) : soleTag text = .date := by
  have hcount := count_of_isDate h
  have hchars := (chars_of_isDate h).2
  rw [soleTag, if_neg (notMem_of_forall hchars (by decide)),
    if_neg (notMem_of_forall hchars (by decide)), if_neg (notMem_of_forall hchars (by decide)),
    if_neg (by omega), if_pos (by omega)]

/-- The marks of a truth value. -/
theorem soleTag_of_isBoolean (h : isBoolean text = true) : soleTag text = .boolean := by
  rcases isBoolean_iff.mp h with rfl | rfl
  · decide
  · decide

/-- The marks of an integer. -/
theorem soleTag_of_isInteger (h : isInteger text = true) : soleTag text = .integer := by
  have hcount := count_le_of_isInteger h
  have hchars := (isDigit_or_minus_of_isInteger h).2
  rw [soleTag, if_neg (notMem_of_forall hchars (by decide)),
    if_neg (notMem_of_forall hchars (by decide)), if_neg (notMem_of_forall hchars (by decide)),
    if_neg (by omega), if_neg (by omega), if_neg (notMem_of_forall hchars (by decide))]

/-- A tag other than that for texts accepts only texts with its marks. -/
theorem soleTag_of_accepts {tag : Tag} (htext : tag ≠ .text) (h : tag.accepts text = true) :
    soleTag text = tag := by
  cases tag with
  | integer => exact soleTag_of_isInteger h
  | text => exact absurd rfl htext
  | boolean => exact soleTag_of_isBoolean h
  | list => exact soleTag_of_isList h
  | date => exact soleTag_of_isDate h
  | email => exact soleTag_of_isEmail h
  | uuid => exact soleTag_of_isUuid h
  | authToken => exact soleTag_of_isAuthToken h

/-- What a tag other than that for lists accepts is a line. -/
theorem isLine_of_accepts {tag : Tag} (hlist : tag ≠ .list) (h : tag.accepts text = true) :
    isLine text = true := by
  cases tag with
  | integer =>
    obtain ⟨hne, hchars⟩ := isDigit_or_minus_of_isInteger h
    exact isLine_iff.mpr ⟨hne, notMem_of_forall hchars (by decide),
      notMem_of_forall hchars (by decide)⟩
  | text => exact h
  | boolean =>
    rcases isBoolean_iff.mp h with rfl | rfl
    · decide
    · decide
  | list => exact absurd rfl hlist
  | date => exact isLine_of_isDate h
  | email => exact isLine_of_isEmail h
  | uuid => exact isLine_of_isUuid h
  | authToken => exact isLine_of_isAuthToken h

end Marks

/-- A parameter that may be a text may have lines, and lists if they are among its types. -/
theorem acceptsAny_of_text {names : List String} (hnames : Tag.text.name ∈ names) {raw : String} :
    acceptsAny names raw = true ↔
      isLine raw.toList = true ∨ Tag.list.name ∈ names ∧ isList raw.toList = true := by
  rw [acceptsAny_iff, or_iff_right (List.ne_nil_of_mem hnames)]
  constructor
  · rintro ⟨tag, hmem, haccepts⟩
    by_cases hlist : tag = .list
    · subst hlist
      exact .inr ⟨hmem, haccepts⟩
    · exact .inl (isLine_of_accepts hlist haccepts)
  · rintro (hline | ⟨hmem, hlist⟩)
    · exact ⟨.text, hnames, hline⟩
    · exact ⟨.list, hmem, hlist⟩

/-- No two of the tags for integers, truth values, lists, days, addresses, identifiers and tokens
accept the same text, and what any of them but that for lists accepts is accepted as a text. So
among types with that for texts only that for lists adds anything to the lines, and a text between
the quotes of a leaf is accepted by one of the five quoted tags exactly when it is accepted as a
text. -/
theorem accepts_partition (raw : String) :
    (∀ first second : Tag, first ≠ .text → second ≠ .text →
        first.accepts raw.toList = true → second.accepts raw.toList = true → first = second) ∧
      (∀ tag : Tag, tag ≠ .list → tag.accepts raw.toList = true →
        Tag.text.accepts raw.toList = true) ∧
      (∀ names : List String, "String" ∈ names →
        (acceptsAny names raw = true ↔
          (raw.toList ≠ [] ∧ '\r' ∉ raw.toList ∧ '\n' ∉ raw.toList) ∨
            ("List" ∈ names ∧ Tag.list.accepts raw.toList = true))) ∧
      (quoted.any fun tag => tag.accepts raw.toList) = Tag.text.accepts raw.toList ∧
      isLeaf ('"' :: (raw.toList ++ ['"'])) = Tag.text.accepts raw.toList := by
  refine ⟨fun first second hfirst hsecond ha hb => ?_, fun tag hlist => isLine_of_accepts hlist,
    fun names hnames => ?_, ?_, isLeaf_quoted _⟩
  · exact (soleTag_of_accepts hfirst ha).symm.trans (soleTag_of_accepts hsecond hb)
  · rw [← isLine_iff]
    exact acceptsAny_of_text hnames
  · exact (isQuotable_eq_any _).symm.trans (isQuotable_eq_isLine _)

/-- A parameter that may be a text or a list accepts a leap day, which beside a text can only be a
day. -/
theorem accepts_partition_day :
    "String" ∈ ["List", "String"] ∧ acceptsAny ["List", "String"] "29-02-2024" = true ∧
      Tag.date.accepts "29-02-2024".toList = true ∧
      ∀ tag : Tag, tag ≠ .text → tag.accepts "29-02-2024".toList = true → tag = .date := by
  have hnames : "String" ∈ ["List", "String"] := by decide
  have hday : Tag.date.accepts "29-02-2024".toList = true := by decide +kernel
  obtain ⟨hsole, hline, hany, -⟩ := accepts_partition "29-02-2024"
  refine ⟨hnames, (hany _ hnames).mpr (.inl (isLine_iff.mp (hline .date (by decide) hday))), hday,
    fun tag htext haccepts => ?_⟩
  exact hsole tag .date htext (by decide) haccepts hday

end ApiDrift.Tag
