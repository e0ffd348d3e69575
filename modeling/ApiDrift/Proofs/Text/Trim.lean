import ApiDrift.Text.Blank
import Mathlib.Data.List.DropRight

/-!
# What trimming leaves

Trimming takes blank characters away from both ends of a text. What is left neither begins nor ends
with one, so that trimming it again changes nothing.
-/

namespace ApiDrift.Text

/-- Trimming drops blank characters from the left and then from the right. -/
theorem trim_eq (text : List Char) :
    trim text = (text.dropWhile isBlank).rdropWhile isBlank :=
  trimEnd_eq (trimStart text)

/-- A text is what trimming leaves of it between blank characters. -/
theorem exists_blank_around (text : List Char) :
    ∃ left right, text = left ++ trim text ++ right ∧
      (∀ c ∈ left, isBlank c = true) ∧ ∀ c ∈ right, isBlank c = true := by
  refine ⟨text.takeWhile isBlank, (text.dropWhile isBlank).rtakeWhile isBlank, ?_, ?_, ?_⟩
  · rw [trim_eq, List.append_assoc, List.rdropWhile_append_rtakeWhile,
      List.takeWhile_append_dropWhile]
  · intro c hc
    exact List.mem_takeWhile_imp hc
  · intro c hc
    exact List.mem_rtakeWhile_imp hc

/-- Trimming does not change a text that neither begins nor ends with a blank character. -/
theorem trim_eq_self {text : List Char} (hhead : ∀ c ∈ text.head?, isBlank c = false)
    (hlast : ∀ c ∈ text.getLast?, isBlank c = false) : trim text = text := by
  have hstart : text.dropWhile isBlank = text := by
    cases text with
    | nil => rfl
    | cons c rest => exact List.dropWhile_cons_of_neg (by simp [hhead c rfl])
  rw [trim_eq, hstart, List.rdropWhile_eq_self_iff]
  intro hne
  rw [hlast (text.getLast hne) (List.getLast?_eq_some_getLast hne)]
  exact Bool.false_ne_true

/-- What trimming leaves does not begin with a blank character. -/
theorem isBlank_of_head?_trim {text : List Char} {c : Char} (h : (trim text).head? = some c) :
    isBlank c = false := by
  have hprefix : trim text <+: text.dropWhile isBlank := by
    rw [trim_eq]
    exact List.rdropWhile_prefix isBlank _
  obtain ⟨rest, hrest⟩ := hprefix
  have hnot := List.head?_dropWhile_not isBlank text
  rw [← hrest, List.head?_append, h] at hnot
  exact hnot

/-- What trimming leaves does not end with a blank character. -/
theorem isBlank_of_getLast?_trim {text : List Char} {c : Char}
    (h : (trim text).getLast? = some c) : isBlank c = false := by
  rw [trim_eq] at h
  obtain ⟨hne, rfl⟩ := List.mem_getLast?_eq_getLast h
  simpa using List.rdropWhile_last_not isBlank _ hne

/-- Trimming twice is trimming once. -/
@[simp] theorem trim_trim (text : List Char) : trim (trim text) = trim text :=
  trim_eq_self (fun _ => isBlank_of_head?_trim) fun _ => isBlank_of_getLast?_trim

/-- Trimming takes away blank characters around a text, whatever it leaves of the text. -/
theorem trim_padded {left text right : List Char} (hleft : ∀ c ∈ left, isBlank c = true)
    (hright : ∀ c ∈ right, isBlank c = true) : trim (left ++ text ++ right) = trim text := by
  have hnone : right.dropWhile isBlank = [] := List.dropWhile_eq_nil_iff.mpr hright
  rw [trim_eq, trim_eq, List.append_assoc, List.dropWhile_append_of_pos hleft,
    List.dropWhile_append]
  split
  · next hempty => rw [hnone, List.isEmpty_iff.mp hempty]
  · have hreverse : ∀ c ∈ right.reverse, isBlank c = true := fun c hc =>
      hright c (List.mem_reverse.mp hc)
    rw [List.rdropWhile, List.reverse_append, List.dropWhile_append_of_pos hreverse]
    rfl

/-- Trimming leaves nothing of blank characters. -/
theorem trim_eq_nil {text : List Char} (h : ∀ c ∈ text, isBlank c = true) : trim text = [] := by
  rw [trim_eq, List.dropWhile_eq_nil_iff.mpr h]
  rfl

section

variable {sep : Char}

/-- Trimming a text at the front of another one stops at a character that is not blank. -/
theorem dropWhile_append_cons (hsep : isBlank sep = false) (first rest : List Char) :
    (first ++ sep :: rest).dropWhile isBlank = first.dropWhile isBlank ++ sep :: rest := by
  rw [List.dropWhile_append]
  split
  · next hempty => rw [List.isEmpty_iff.mp hempty, List.dropWhile_cons_of_neg (by simp [hsep])]; rfl
  · rfl

/-- Trimming a text at the end of another one stops at a character that is not blank. -/
theorem rdropWhile_append_cons (hsep : isBlank sep = false) (first rest : List Char) :
    (first ++ sep :: rest).rdropWhile isBlank = first ++ sep :: rest.rdropWhile isBlank := by
  rw [List.rdropWhile, List.reverse_append, List.reverse_cons, List.append_assoc,
    List.singleton_append, dropWhile_append_cons hsep, List.reverse_append, List.reverse_cons,
    List.reverse_reverse, List.append_assoc]
  rfl

/-- Joined texts that are trimmed at the end are joined texts, of which the last one is trimmed. -/
theorem exists_rdropWhile_intercalate (hsep : isBlank sep = false) (texts : List (List Char)) :
    ∃ found, ([sep].intercalate texts).rdropWhile isBlank = [sep].intercalate found ∧
      found.map trim = texts.map trim := by
  induction texts with
  | nil => exact ⟨[], rfl, rfl⟩
  | cons first rest ih =>
    cases rest with
    | nil =>
      refine ⟨[first.rdropWhile isBlank], by simp, congrArg (· :: []) ?_⟩
      have htext : [] ++ first.rdropWhile isBlank ++ first.rtakeWhile isBlank = first :=
        List.rdropWhile_append_rtakeWhile ..
      conv_rhs => rw [← htext]
      exact (trim_padded (fun _ hc => by cases hc) fun _ hc => List.mem_rtakeWhile_imp hc).symm
    | cons second others =>
      obtain ⟨found, hfound, hmap⟩ := ih
      cases found with
      | nil => cases hmap
      | cons head tail =>
        refine ⟨first :: head :: tail, ?_, congrArg (trim first :: ·) hmap⟩
        rw [List.intercalate_cons_cons, List.append_assoc, List.singleton_append,
          rdropWhile_append_cons hsep, hfound, List.intercalate_cons_cons, List.append_assoc,
          List.singleton_append]

/-- Joined texts that are trimmed are joined texts that trimming leaves the same of. -/
theorem exists_trim_intercalate (hsep : isBlank sep = false) (texts : List (List Char)) :
    ∃ found, trim ([sep].intercalate texts) = [sep].intercalate found ∧
      found.map trim = texts.map trim := by
  have hstart : ∃ found, ([sep].intercalate texts).dropWhile isBlank = [sep].intercalate found ∧
      found.map trim = texts.map trim := by
    cases texts with
    | nil => exact ⟨[], rfl, rfl⟩
    | cons first rest =>
      have htrim : trim (first.dropWhile isBlank) = trim first := by
        rw [trim_eq, trim_eq, List.dropWhile_idempotent]
      refine ⟨first.dropWhile isBlank :: rest, ?_, congrArg (· :: rest.map trim) htrim⟩
      cases rest with
      | nil => simp
      | cons second others =>
        rw [List.intercalate_cons_cons, List.append_assoc, List.singleton_append,
          dropWhile_append_cons hsep, List.intercalate_cons_cons, List.append_assoc,
          List.singleton_append]
  obtain ⟨started, hstarted, hmap⟩ := hstart
  obtain ⟨found, hfound, hmap'⟩ := exists_rdropWhile_intercalate hsep started
  exact ⟨found, by rw [trim_eq, hstarted, hfound], hmap'.trans hmap⟩

end

/-- A text that neither begins nor ends with a blank character, and has some other one. -/
structure Tight (text : List Char) : Prop where
  /-- The first character is not blank. -/
  first : ∃ c, text.head? = some c ∧ isBlank c = false
  /-- The last character is not blank. -/
  last : ∃ c, text.getLast? = some c ∧ isBlank c = false

namespace Tight

variable {first second : List Char}

/-- A tight text has some character. -/
theorem ne_nil (h : Tight first) : first ≠ [] := by
  rintro rfl
  obtain ⟨c, hc, -⟩ := h.first
  cases hc

/-- Trimming does not change a tight text. -/
theorem trim_eq (h : Tight first) : trim first = first := by
  obtain ⟨c, hc, hfirst⟩ := h.first
  obtain ⟨d, hd, hlast⟩ := h.last
  refine trim_eq_self (fun e he => ?_) fun e he => ?_
  · rw [hc] at he
    exact Option.some.inj he ▸ hfirst
  · rw [hd] at he
    exact Option.some.inj he ▸ hlast

/-- A text is tight that begins with a tight one and ends with a tight one. -/
theorem append (hfirst : Tight first) (hsecond : Tight second) (between : List Char) :
    Tight (first ++ between ++ second) := by
  obtain ⟨c, hc, hblank⟩ := hfirst.first
  obtain ⟨d, hd, hblank'⟩ := hsecond.last
  refine ⟨⟨c, ?_, hblank⟩, ⟨d, ?_, hblank'⟩⟩
  · rw [List.append_assoc, List.head?_append, hc]
    rfl
  · rw [List.getLast?_append, hd]
    rfl

/-- A character that is not blank is a tight text. -/
theorem singleton {c : Char} (h : isBlank c = false) : Tight [c] :=
  ⟨⟨c, rfl, h⟩, ⟨c, rfl, h⟩⟩

/-- A text is tight between two characters that are not blank. -/
theorem enclosed {opening closing : Char} (hopening : isBlank opening = false)
    (hclosing : isBlank closing = false) (inner : List Char) :
    Tight (opening :: (inner ++ [closing])) :=
  append (singleton hopening) (singleton hclosing) inner

/-- A text without blank characters is tight. -/
theorem of_forall (hne : first ≠ []) (h : ∀ c ∈ first, isBlank c = false) : Tight first :=
  ⟨⟨_, List.head?_eq_some_head hne, h _ (List.head_mem hne)⟩,
    ⟨_, List.getLast?_eq_some_getLast hne, h _ (List.getLast_mem hne)⟩⟩

/-- Tight texts that are joined are tight. -/
theorem intercalate {sep : List Char} {texts : List (List Char)} (hne : texts ≠ [])
    (h : ∀ text ∈ texts, Tight text) : Tight (sep.intercalate texts) := by
  induction texts with
  | nil => exact absurd rfl hne
  | cons first rest ih =>
    obtain ⟨hfirst, hrest⟩ := List.forall_mem_cons.mp h
    cases rest with
    | nil =>
      rw [List.intercalate_singleton]
      exact hfirst
    | cons second others =>
      rw [List.intercalate_cons_cons]
      exact hfirst.append (ih (List.cons_ne_nil _ _) hrest) sep

end Tight

end ApiDrift.Text
