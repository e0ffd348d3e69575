import ApiDrift.Proofs.Text.Cut
import ApiDrift.Proofs.Text.Pattern
import ApiDrift.Tag.Email
import ApiDrift.Text.Blank
import Mathlib.Data.Bool.AllAny

/-!
# The grammar of addresses

An address is divided at its first at sign into a local part of atoms and a domain of labels. The
check looks at lengths first and at a pattern with bounded repetitions then; together they accept
exactly the texts of the grammar, wherever the pattern could be divided otherwise. So addresses are
made of the characters of atoms, dots and one at sign.
-/

namespace ApiDrift.Tag

open Text (Pattern)

/-- Parts of a kind, at least so many, joined by single dots. -/
def Dotted (least : Nat) (Part : List Char → Prop) (text : List Char) : Prop :=
  ∃ parts : List (List Char), least ≤ parts.length ∧ (∀ part ∈ parts, Part part) ∧
    text = ['.'].intercalate parts

/-- A part of the local part of an address. -/
structure Atom (text : List Char) : Prop where
  /-- An atom has some character. -/
  ne_nil : text ≠ []
  /-- What an atom is made of. -/
  chars : ∀ c ∈ text, isAtomChar c = true

/-- A part of the domain of an address. -/
structure Label (text : List Char) : Prop where
  /-- A label is short. -/
  length_le : text.length ≤ 63
  /-- What a label is made of. -/
  chars : ∀ c ∈ text, isAlphanumeric c = true ∨ c = '-'
  /-- A label begins with a letter or digit. -/
  first : ∃ c, text.head? = some c ∧ isAlphanumeric c = true
  /-- A label ends with a letter or digit. -/
  last : ∃ c, text.getLast? = some c ∧ isAlphanumeric c = true

/-- What stands before the first at sign of an address. -/
structure LocalPart (text : List Char) : Prop where
  /-- A local part is not empty. -/
  one_le : 1 ≤ octetCount text
  /-- A local part is short. -/
  length_le : octetCount text ≤ 64
  /-- What a local part is made of. -/
  atoms : Dotted 1 Atom text

/-- A text that is divided at its first at sign into a local part and a domain. -/
structure Address (text : List Char) : Prop where
  /-- An address is short. -/
  length_le : octetCount text ≤ 255
  /-- The parts of an address. -/
  parts : ∃ front domain, text = front ++ '@' :: domain ∧ '@' ∉ front ∧ LocalPart front ∧
    Dotted 2 Label domain

/-- A character of dotted parts is a dot or stands in one of the parts. -/
theorem Dotted.exists_mem {least : Nat} {Part : List Char → Prop} {text : List Char}
    (h : Dotted least Part text) {c : Char} (hc : c ∈ text) :
    c = '.' ∨ ∃ part, Part part ∧ c ∈ part := by
  obtain ⟨parts, -, hparts, rfl⟩ := h
  by_cases hdot : c ∈ ['.']
  · exact .inl (List.mem_singleton.mp hdot)
  · obtain ⟨part, hpart, hmem⟩ := (Text.mem_intercalate_iff hdot).mp hc
    exact .inr ⟨part, hparts part hpart, hmem⟩

section Patterns

variable {text : List Char}

/-- The pattern of an atom describes atoms. -/
theorem matches_atomPattern_iff : atomPattern.Matches text ↔ Atom text := by
  rw [atomPattern, Pattern.matches_oneOrMore_one_iff]
  exact ⟨fun ⟨hne, hchars⟩ => ⟨hne, hchars⟩, fun h => ⟨h.ne_nil, h.chars⟩⟩

/-- A character of a label is a letter, a digit or a hyphen. -/
theorem isLabelChar_iff {c : Char} :
    isLabelChar c = true ↔ isAlphanumeric c = true ∨ c = '-' := by
  rw [isLabelChar, Bool.or_eq_true, beq_iff_eq]

/-- The pattern of a label describes labels: what stands between its ends has at most two
characters less than the label. -/
theorem matches_labelPattern_iff : labelPattern.Matches text ↔ Label text := by
  constructor
  · rintro ⟨_, back, ⟨c, hc, rfl⟩, hback, rfl⟩
    rcases Pattern.matches_optional_iff.mp hback with rfl | ⟨middle, _, hmiddle, ⟨d, hd, rfl⟩, rfl⟩
    · exact ⟨by simp, by simp [hc], ⟨c, rfl, hc⟩, ⟨c, rfl, hc⟩⟩
    · obtain ⟨hlength, hchars⟩ := Pattern.matches_upTo_one_iff.mp hmiddle
      have hbound : middle.length ≤ 61 := hlength
      refine ⟨?_, ?_, ⟨c, rfl, hc⟩, ⟨d, ?_, hd⟩⟩
      · simp only [List.length_append, List.length_cons, List.length_nil]
        omega
      · intro e he
        rcases List.mem_append.mp he with he | he
        · exact .inl (List.mem_singleton.mp he ▸ hc)
        · rcases List.mem_append.mp he with he | he
          · exact isLabelChar_iff.mp (hchars e he)
          · exact .inl (List.mem_singleton.mp he ▸ hd)
      · rw [← List.append_assoc, List.getLast?_concat]
  · rintro ⟨hlength, hchars, ⟨c, hfirst, hc⟩, ⟨d, hlast, hd⟩⟩
    obtain ⟨back, rfl⟩ := List.head?_eq_some_iff.mp hfirst
    refine ⟨[c], back, ⟨c, hc, rfl⟩, Pattern.matches_optional_iff.mpr ?_, rfl⟩
    rcases List.eq_nil_or_concat back with rfl | ⟨middle, e, rfl⟩
    · exact .inl rfl
    · have hsame : e = d := by
        rw [List.concat_eq_append, ← List.cons_append, List.getLast?_concat] at hlast
        exact Option.some.inj hlast
      subst hsame
      rw [List.concat_eq_append] at hlength hchars ⊢
      refine .inr ⟨middle, [e], Pattern.matches_upTo_one_iff.mpr ⟨?_, fun m hm => ?_⟩,
        ⟨e, hd, rfl⟩, rfl⟩
      · simp only [List.length_append, List.length_cons, List.length_nil] at hlength
        change middle.length ≤ 61
        omega
      · exact isLabelChar_iff.mpr (hchars m (by simp [hm]))

section Dotted

variable {part : Pattern} {Part : List Char → Prop} (h : ∀ text, part.Matches text ↔ Part text)

include h

/-- A part and others, each behind a dot, are dotted parts. -/
theorem dotted_succ_iff {least : Nat} :
    Dotted (least + 1) Part text ↔
      ∃ (first : List Char) (others : List (List Char)), part.Matches first ∧
        least ≤ others.length ∧ (∀ other ∈ others, (Pattern.seq (.char '.') part).Matches other) ∧
          text = first ++ others.flatten := by
  constructor
  · rintro ⟨parts, hlength, hparts, rfl⟩
    obtain ⟨first, rest, rfl⟩ := List.exists_cons_of_length_pos (Nat.zero_lt_of_lt hlength)
    obtain ⟨hfirst, hrest⟩ := List.forall_mem_cons.mp hparts
    refine ⟨first, rest.map fun text => '.' :: text, (h first).mpr hfirst, ?_, ?_, ?_⟩
    · rw [List.length_map]
      exact Nat.le_of_succ_le_succ hlength
    · exact Pattern.forall_matches_behind_iff.mpr
        ⟨rest, fun text htext => (h text).mpr (hrest text htext), rfl⟩
    · rw [Text.intercalate_cons_eq, List.flatMap_def]
  · rintro ⟨first, others, hfirst, hlength, hothers, rfl⟩
    obtain ⟨rest, hrest, rfl⟩ := Pattern.forall_matches_behind_iff.mp hothers
    rw [List.length_map] at hlength
    refine ⟨first :: rest, Nat.succ_le_succ hlength, ?_, ?_⟩
    · exact List.forall_mem_cons.mpr
        ⟨(h first).mp hfirst, fun text htext => (h text).mp (hrest text htext)⟩
    · rw [Text.intercalate_cons_eq, List.flatMap_def]

/-- A part and any number of others, each behind a dot, are one or more dotted parts. -/
theorem matches_many_iff_dotted :
    (Pattern.seq part (.many (.seq (.char '.') part))).Matches text ↔ Dotted 1 Part text := by
  rw [dotted_succ_iff h]
  constructor
  · rintro ⟨first, _, hfirst, ⟨others, hothers, rfl⟩, rfl⟩
    exact ⟨first, others, hfirst, Nat.zero_le _, hothers, rfl⟩
  · rintro ⟨first, others, hfirst, -, hothers, rfl⟩
    exact ⟨first, _, hfirst, ⟨others, hothers, rfl⟩, rfl⟩

/-- A part and one or more others, each behind a dot, are two or more dotted parts. -/
theorem matches_oneOrMore_iff_dotted :
    (Pattern.seq part (.oneOrMore (.seq (.char '.') part))).Matches text ↔
      Dotted 2 Part text := by
  rw [dotted_succ_iff h]
  constructor
  · rintro ⟨first, back, hfirst, hback, rfl⟩
    obtain ⟨others, hlength, hothers, rfl⟩ := Pattern.matches_oneOrMore_iff.mp hback
    exact ⟨first, others, hfirst, hlength, hothers, rfl⟩
  · rintro ⟨first, others, hfirst, hlength, hothers, rfl⟩
    exact ⟨first, _, hfirst, Pattern.matches_oneOrMore_iff.mpr ⟨others, hlength, hothers, rfl⟩, rfl⟩

end Dotted

/-- The pattern of an address describes atoms and labels on both sides of an at sign. -/
theorem matches_addressPattern_iff :
    addressPattern.Matches text ↔
      ∃ front domain, text = front ++ '@' :: domain ∧ Dotted 1 Atom front ∧
        Dotted 2 Label domain := by
  constructor
  · rintro ⟨front, _, hfront, ⟨mark, domain, hmark, hdomain, rfl⟩, rfl⟩
    rw [Pattern.matches_char_iff.mp hmark]
    exact ⟨front, domain, rfl, (matches_many_iff_dotted fun _ => matches_atomPattern_iff).mp hfront,
      (matches_oneOrMore_iff_dotted fun _ => matches_labelPattern_iff).mp hdomain⟩
  · rintro ⟨front, domain, rfl, hfront, hdomain⟩
    refine ⟨front, '@' :: domain, ?_, ⟨['@'], domain, ?_, ?_, rfl⟩, rfl⟩
    · exact (matches_many_iff_dotted fun _ => matches_atomPattern_iff).mpr hfront
    · exact Pattern.matches_char_iff.mpr rfl
    · exact (matches_oneOrMore_iff_dotted fun _ => matches_labelPattern_iff).mpr hdomain

end Patterns

/-- The characters of dotted atoms are dots and those of atoms. -/
theorem Dotted.chars_of_atoms {least : Nat} {text : List Char} (h : Dotted least Atom text) :
    ∀ c ∈ text, c = '.' ∨ isAtomChar c = true := fun _ hc =>
  (h.exists_mem hc).imp_right fun ⟨_, hpart, hmem⟩ => hpart.chars _ hmem

/-- The characters of dotted labels are dots and some of those of atoms. -/
theorem Dotted.chars_of_labels {least : Nat} {text : List Char} (h : Dotted least Label text) :
    ∀ c ∈ text, c = '.' ∨ isAtomChar c = true := by
  intro c hc
  refine (h.exists_mem hc).imp_right fun ⟨_, hpart, hmem⟩ => ?_
  rcases hpart.chars c hmem with halnum | rfl
  · rw [isAtomChar, halnum, Bool.true_or]
  · decide

/-- There is no at sign among dots and the characters of atoms. -/
theorem at_notMem {text : List Char} (h : ∀ c ∈ text, c = '.' ∨ isAtomChar c = true) :
    '@' ∉ text := by
  intro hmem
  rcases h _ hmem with hdot | hatom
  · exact absurd hdot (by decide)
  · exact absurd hatom (by decide)

/-- The check accepts exactly the addresses. -/
theorem isEmail_iff {text : List Char} : isEmail text = true ↔ Address text := by
  rw [isEmail, Bool.and_eq_true, decide_eq_true_iff]
  constructor
  · rintro ⟨hlength, h⟩
    split at h
    · rw [Bool.and_eq_true, Bool.and_eq_true, decide_eq_true_iff, decide_eq_true_iff,
        Pattern.accepts_iff] at h
      obtain ⟨⟨hone, hmost⟩, hmatches⟩ := h
      obtain ⟨front, domain, rfl, hatoms, hlabels⟩ := matches_addressPattern_iff.mp hmatches
      have hat := at_notMem hatoms.chars_of_atoms
      rw [(Text.span_mark hat domain).1] at hone hmost
      exact ⟨hlength, front, domain, rfl, hat, ⟨hone, hmost, hatoms⟩, hlabels⟩
    · cases h
  · rintro ⟨hlength, front, domain, rfl, hat, hlocal, hlabels⟩
    obtain ⟨htake, hdrop⟩ := Text.span_mark hat domain
    refine ⟨hlength, ?_⟩
    simp only [hdrop, htake, Bool.and_eq_true, decide_eq_true_iff, Pattern.accepts_iff]
    exact ⟨⟨hlocal.one_le, hlocal.length_le⟩,
      matches_addressPattern_iff.mpr ⟨front, domain, rfl, hlocal.atoms, hlabels⟩⟩

/-- An address has one at sign, and otherwise dots and characters of atoms. -/
theorem Address.chars {text : List Char} (h : Address text) :
    text.count '@' = 1 ∧ ∀ c ∈ text, c = '@' ∨ c = '.' ∨ isAtomChar c = true := by
  obtain ⟨-, front, domain, rfl, -, hlocal, hlabels⟩ := h
  have hfront := hlocal.atoms.chars_of_atoms
  have hdomain := hlabels.chars_of_labels
  constructor
  · rw [List.count_append, List.count_cons_self, List.count_eq_zero_of_not_mem (at_notMem hfront),
      List.count_eq_zero_of_not_mem (at_notMem hdomain)]
  · intro c hc
    rcases List.mem_append.mp hc with hc | hc
    · exact .inr (hfront c hc)
    · exact (List.mem_cons.mp hc).imp_right (hdomain c)

/-- The characters of atoms are visible ones of ASCII, and no quotes. -/
theorem visible_of_isAtomChar {c : Char} (h : isAtomChar c = true) :
    33 ≤ c.toNat ∧ c.toNat ≤ 126 ∧ c ≠ '"' := by
  rcases Bool.or_eq_true_iff.mp h with halnum | hmark
  · have hquote : c ≠ '"' := by
      rintro rfl
      exact absurd halnum (by decide)
    have hranges : ((97 ≤ c.toNat ∧ c.toNat ≤ 122) ∨ (65 ≤ c.toNat ∧ c.toNat ≤ 90)) ∨
        (48 ≤ c.toNat ∧ c.toNat ≤ 57) := by
      simpa [isAlphanumeric, isLetter, isDigit, Char.le_def, UInt32.le_iff_toNat_le] using halnum
    have hrange : 33 ≤ c.toNat ∧ c.toNat ≤ 126 := by omega
    exact ⟨hrange.1, hrange.2, hquote⟩
  · have hall : ∀ mark ∈ atomMarks,
        33 ≤ mark.toNat ∧ mark.toNat ≤ 126 ∧ mark ≠ '"' :=
      List.all_iff_forall_prop.mp (by decide)
    exact hall c (by simpa using hmark)

/-- A visible character of ASCII is not blank. -/
theorem isBlank_of_visible {c : Char} (hlow : 33 ≤ c.toNat) (hhigh : c.toNat ≤ 126) :
    Text.isBlank c = false := by
  have hspace : c ≠ ' ' := by
    rintro rfl
    exact absurd hlow (by decide)
  rw [Text.isBlank, if_pos (by omega)]
  simp [hspace]
  omega

/-- The check of a text accepts exactly the addresses: texts of at most 255 octets that are divided
at their first at sign into one or more atoms of at most 64 octets together and two or more labels
of at most 63 characters each. So what it accepts has no second at sign, no quote, no blank, no line
break, and no character beyond ASCII. -/
theorem isEmail_exact (text : List Char) :
    (isEmail text = true ↔ Address text) ∧
      (isEmail text = true → text.count '@' = 1 ∧ '"' ∉ text ∧
        ∀ c ∈ text, Text.isBlank c = false ∧ c ≠ '\r' ∧ c ≠ '\n' ∧ c.toNat < 128) := by
  refine ⟨isEmail_iff, fun h => ?_⟩
  obtain ⟨hcount, hchars⟩ := (isEmail_iff.mp h).chars
  have hvisible : ∀ c ∈ text, 33 ≤ c.toNat ∧ c.toNat ≤ 126 ∧ c ≠ '"' := by
    intro c hc
    rcases hchars c hc with rfl | rfl | hatom
    · decide
    · decide
    · exact visible_of_isAtomChar hatom
  refine ⟨hcount, fun hquote => (hvisible _ hquote).2.2 rfl, fun c hc => ?_⟩
  obtain ⟨hlow, hhigh, -⟩ := hvisible c hc
  refine ⟨isBlank_of_visible hlow hhigh, ?_, ?_, Nat.lt_succ_of_le (hhigh.trans (by decide))⟩
  · rintro rfl
    exact absurd hlow (by decide)
  · rintro rfl
    exact absurd hlow (by decide)

/-- An address with a hyphen in its domain has one at sign. -/
theorem isEmail_exact_hyphen :
    isEmail "a.b+c@mail-1.org".toList = true ∧ "a.b+c@mail-1.org".toList.count '@' = 1 := by
  have haccepted : isEmail "a.b+c@mail-1.org".toList = true := by decide +kernel
  exact ⟨haccepted, ((isEmail_exact _).2 haccepted).1⟩

end ApiDrift.Tag
