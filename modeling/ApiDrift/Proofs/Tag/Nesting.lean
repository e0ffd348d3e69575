import ApiDrift.Proofs.Tag.Pieces
import ApiDrift.Proofs.Text.Trim

/-!
# Texts that a scan gets through

What stands between two quotes is escaped when every quote in it is behind a backslash. A text is
nested when its quotes are closed and every bracket outside of them is closed by one of its own
kind. A scan returns from both to the depth that it had before, below which it does not get, and is
not cut on its way: from a nested text at no depth above zero, and at zero from one whose delimiters
stand between quotes or brackets.
-/

namespace ApiDrift.Tag

/-- A text between quotes, made of characters that are neither a quote nor a backslash, and of
backslashes with the character behind each. -/
inductive Escaped : List Char → Prop where
  /-- No character. -/
  | nil : Escaped []
  /-- One more character, which is neither a quote nor a backslash. -/
  | plain {c : Char} {rest : List Char} (hquote : c ≠ '"') (hbackslash : c ≠ '\\')
      (hrest : Escaped rest) : Escaped (c :: rest)
  /-- One more backslash and the character behind it. -/
  | escape {c : Char} {rest : List Char} (hrest : Escaped rest) : Escaped ('\\' :: c :: rest)

/-- The brackets of a kind. -/
inductive Brackets : Char → Char → Prop where
  /-- The brackets of a list. -/
  | square : Brackets '[' ']'
  /-- The brackets of an object. -/
  | curly : Brackets '{' '}'

/-- The characters that a scan outside quotes does not just pass over. -/
def marks : List Char := ['"', '[', ']', '{', '}']

/-- The characters at which texts are cut. -/
def delimiters : List Char := [',', '=']

/-- A blank character plays no part in a scan. -/
theorem notMem_of_isBlank {c : Char} (h : Text.isBlank c = true) : c ∉ marks ++ delimiters := by
  have hnot : (marks ++ delimiters).all (fun c => !Text.isBlank c) = true := by decide
  intro hmem
  have hfalse := List.all_eq_true.mp hnot c hmem
  rw [h] at hfalse
  cases hfalse

/-- A text with closed quotes and properly nested brackets, which is flat when it has no delimiter
outside of them. -/
inductive Nested : (flat : Bool) → List Char → Prop where
  /-- No character. -/
  | nil {flat : Bool} : Nested flat []
  /-- One more character that is no quote and no bracket. -/
  | plain {flat : Bool} {c : Char} {rest : List Char} (hmark : c ∉ marks)
      (hflat : flat = true → c ∉ delimiters) (hrest : Nested flat rest) : Nested flat (c :: rest)
  /-- One more text between quotes. -/
  | quoted {flat : Bool} {inner rest : List Char} (hinner : Escaped inner)
      (hrest : Nested flat rest) : Nested flat ('"' :: (inner ++ '"' :: rest))
  /-- One more text between brackets of one kind. -/
  | bracketed {flat : Bool} {opening closing : Char} {inner rest : List Char}
      (hkind : Brackets opening closing) (hinner : Nested false inner)
      (hrest : Nested flat rest) : Nested flat (opening :: (inner ++ closing :: rest))

/-- A scan returns from a text to the depth that it had before and does not get below it, and the text
is not cut at the least depth or above it. -/
structure Inert (least : Int) (delimiter : Char) (text : List Char) : Prop where
  /-- The scan returns. -/
  run : ∀ depth : Int, Scan.run ⟨depth, .outside⟩ text = ⟨depth, .outside⟩
  /-- The text is not cut. -/
  passes : ∀ depth : Int, least ≤ depth → Scan.passes delimiter ⟨depth, .outside⟩ text = true
  /-- The scan does not get below where it was. -/
  above : ∀ depth : Int, Scan.Throughout (depth ≤ ·) ⟨depth, .outside⟩ text

/-- A scan between quotes is not in the state in which it started. -/
theorem Scan.ne_start_of_quoting {depth : Int} {quoting : Quoting} (h : quoting ≠ .outside) :
    (⟨depth, quoting⟩ : Scan) ≠ start := by
  intro heq
  exact h (congrArg Scan.quoting heq)

/-- A scan at another depth than zero is not in the state in which it started. -/
theorem Scan.ne_start_of_depth {depth : Int} {quoting : Quoting} (h : depth ≠ 0) :
    (⟨depth, quoting⟩ : Scan) ≠ start := by
  intro heq
  exact h (congrArg Scan.depth heq)

/-- A scan passes over a character outside quotes that is no quote and no bracket. -/
theorem Scan.step_of_notMem_marks {depth : Int} {c : Char} (h : c ∉ marks) :
    (⟨depth, .outside⟩ : Scan).step c = ⟨depth, .outside⟩ := by
  simp only [marks, List.mem_cons, List.not_mem_nil, or_false, not_or] at h
  simp [step, h]

/-- An opening bracket takes a scan one deeper, and the closing bracket of its kind back. -/
theorem Scan.step_brackets {depth : Int} {opening closing : Char}
    (h : Brackets opening closing) :
    (⟨depth, .outside⟩ : Scan).step opening = ⟨depth + 1, .outside⟩ ∧
      (⟨depth, .outside⟩ : Scan).step closing = ⟨depth - 1, .outside⟩ := by
  cases h <;> exact ⟨rfl, rfl⟩

/-- A scan stays between quotes throughout an escaped text, and is not cut there. -/
theorem Escaped.scan {inner : List Char} (h : Escaped inner) (depth : Int) (delimiter : Char) :
    Scan.run ⟨depth, .inside⟩ inner = ⟨depth, .inside⟩ ∧
      Scan.passes delimiter ⟨depth, .inside⟩ inner = true := by
  have hinside : (⟨depth, .inside⟩ : Scan) ≠ .start := Scan.ne_start_of_quoting (by decide)
  have hescaped : (⟨depth, .escaped⟩ : Scan) ≠ .start := Scan.ne_start_of_quoting (by decide)
  induction h with
  | nil => exact ⟨rfl, rfl⟩
  | @plain c rest hquote hbackslash hrest ih =>
    have hstep : (⟨depth, .inside⟩ : Scan).step c = ⟨depth, .inside⟩ := by
      simp [Scan.step, hquote, hbackslash]
    rw [Scan.run_cons, Scan.passes_cons, hstep]
    exact ⟨ih.1, fun hcut => hinside hcut.2, ih.2⟩
  | @escape c rest hrest ih =>
    rw [Scan.run_cons, Scan.run_cons, Scan.passes_cons, Scan.passes_cons]
    exact ⟨ih.1, fun hcut => hinside hcut.2, fun hcut => hescaped hcut.2, ih.2⟩

/-- A scan does not get below its depth in an escaped text. -/
theorem Escaped.throughout {inner : List Char} (h : Escaped inner) (depth : Int) :
    Scan.Throughout (depth ≤ ·) ⟨depth, .inside⟩ inner := by
  induction h with
  | nil => exact Int.le_refl depth
  | @plain c rest hquote hbackslash hrest ih =>
    have hstep : (⟨depth, .inside⟩ : Scan).step c = ⟨depth, .inside⟩ := by
      simp [Scan.step, hquote, hbackslash]
    exact ⟨Int.le_refl depth, by rwa [hstep]⟩
  | escape hrest ih => exact ⟨Int.le_refl depth, Int.le_refl depth, ih⟩

namespace Inert

variable {least : Int} {delimiter : Char}

/-- No character is to be passed. -/
theorem nil : Inert least delimiter [] := ⟨fun _ => rfl, fun _ _ => rfl, Int.le_refl⟩

/-- Texts behind one another are passed when each of them is. -/
theorem append {first second : List Char} (hfirst : Inert least delimiter first)
    (hsecond : Inert least delimiter second) : Inert least delimiter (first ++ second) where
  run depth := by rw [Scan.run_append, hfirst.run, hsecond.run]
  passes depth hdepth := by
    rw [Scan.passes_append, hfirst.run]
    exact ⟨hfirst.passes depth hdepth, hsecond.passes depth hdepth⟩
  above depth := by
    rw [Scan.throughout_append, hfirst.run]
    exact ⟨hfirst.above depth, hsecond.above depth⟩

/-- What is not cut at some depth is not cut above it. -/
theorem mono {more : Int} {text : List Char} (h : Inert least delimiter text)
    (hle : least ≤ more) : Inert more delimiter text where
  run := h.run
  passes depth hdepth := h.passes depth (Int.le_trans hle hdepth)
  above := h.above

/-- A text that is not cut at depth zero may be a piece. -/
theorem isPiece {text : List Char} (h : Inert 0 delimiter text) : IsPiece delimiter text where
  uncut := h.passes 0 (Int.le_refl 0)
  balanced := h.run 0

/-- A character that is no quote and no bracket is passed above depth zero, and also there unless
it is the delimiter. -/
theorem singleton {c : Char} (hmark : c ∉ marks) (hcut : c ≠ delimiter ∨ 0 < least) :
    Inert least delimiter [c] where
  run depth := Scan.step_of_notMem_marks hmark
  passes depth hdepth := by
    refine Scan.passes_cons.mpr ⟨fun ⟨hdelimiter, hstart⟩ => ?_, rfl⟩
    rcases hcut with hne | hpos
    · exact hne hdelimiter
    · exact Scan.ne_start_of_depth (by omega) hstart
  above depth := by
    refine ⟨Int.le_refl depth, ?_⟩
    rw [Scan.step_of_notMem_marks hmark]
    exact Int.le_refl depth

/-- Characters that are no quotes, no brackets and not the delimiter are passed. -/
theorem of_forall {text : List Char} (h : ∀ c ∈ text, c ∉ marks ∧ c ≠ delimiter) :
    Inert least delimiter text := by
  induction text with
  | nil => exact nil
  | cons c rest ih =>
    obtain ⟨⟨hmark, hne⟩, hrest⟩ := List.forall_mem_cons.mp h
    exact (singleton hmark (.inl hne)).append (ih hrest)

/-- Characters that play no part in a scan are passed. -/
theorem of_notMem {text : List Char} (h : ∀ c ∈ text, c ∉ marks ++ delimiters)
    (hdelimiter : delimiter ∈ delimiters) : Inert least delimiter text := by
  refine of_forall fun c hc => ⟨fun hmark => h c hc (List.mem_append_left _ hmark), ?_⟩
  rintro rfl
  exact h c hc (List.mem_append_right _ hdelimiter)

/-- A text between quotes is passed. -/
theorem quoted {inner : List Char} (h : Escaped inner) (hdelimiter : delimiter ∈ delimiters) :
    Inert least delimiter ('"' :: (inner ++ ['"'])) where
  run depth := by
    have hopen : (⟨depth, .outside⟩ : Scan).step '"' = ⟨depth, .inside⟩ := rfl
    rw [Scan.run_cons, hopen, Scan.run_append, (h.scan depth delimiter).1]
    rfl
  passes depth hdepth := by
    have hopen : (⟨depth, .outside⟩ : Scan).step '"' = ⟨depth, .inside⟩ := rfl
    have hinside : (⟨depth, .inside⟩ : Scan) ≠ .start := Scan.ne_start_of_quoting (by decide)
    rw [Scan.passes_cons, hopen, Scan.passes_append, (h.scan depth delimiter).1]
    refine ⟨?_, (h.scan depth delimiter).2, ?_⟩
    · rintro ⟨rfl, -⟩
      exact absurd hdelimiter (by decide)
    · exact Scan.passes_cons.mpr ⟨fun hcut => hinside hcut.2, rfl⟩
  above depth := by
    have hopen : (⟨depth, .outside⟩ : Scan).step '"' = ⟨depth, .inside⟩ := rfl
    refine ⟨Int.le_refl depth, ?_⟩
    rw [hopen, Scan.throughout_append, (h.scan depth delimiter).1]
    exact ⟨h.throughout depth, Int.le_refl depth, Int.le_refl depth⟩

/-- A text between brackets is passed that is not cut above depth zero. -/
theorem bracketed {opening closing : Char} {inner : List Char} (hkind : Brackets opening closing)
    (h : Inert 1 delimiter inner) (hdelimiter : delimiter ∈ delimiters) (hleast : 0 ≤ least) :
    Inert least delimiter (opening :: (inner ++ [closing])) where
  run depth := by
    rw [Scan.run_cons, (Scan.step_brackets hkind).1, Scan.run_append, h.run, Scan.run_cons,
      (Scan.step_brackets hkind).2, Int.add_sub_cancel, Scan.run_nil]
  passes depth hdepth := by
    have hdeeper : (⟨depth + 1, .outside⟩ : Scan) ≠ .start := Scan.ne_start_of_depth (by omega)
    rw [Scan.passes_cons, (Scan.step_brackets hkind).1, Scan.passes_append, h.run]
    refine ⟨?_, h.passes (depth + 1) (by omega), ?_⟩
    · rintro ⟨rfl, -⟩
      cases hkind <;> exact absurd hdelimiter (by decide)
    · exact Scan.passes_cons.mpr ⟨fun hcut => hdeeper hcut.2, rfl⟩
  above depth := by
    have hdeeper : depth ≤ depth + 1 := Int.le_add_one (Int.le_refl depth)
    refine ⟨Int.le_refl depth, ?_⟩
    rw [(Scan.step_brackets hkind).1, Scan.throughout_append, h.run]
    refine ⟨(h.above (depth + 1)).imp fun _ hle => Int.le_trans hdeeper hle, hdeeper, ?_⟩
    rw [(Scan.step_brackets hkind).2, Int.add_sub_cancel]
    exact Int.le_refl depth

/-- Texts that are joined by a delimiter are passed above depth zero. -/
theorem intercalate {separator : Char} {texts : List (List Char)} (hmark : separator ∉ marks)
    (h : ∀ text ∈ texts, Inert 1 delimiter text) :
    Inert 1 delimiter ([separator].intercalate texts) := by
  induction texts with
  | nil => exact nil
  | cons first rest ih =>
    obtain ⟨hfirst, hrest⟩ := List.forall_mem_cons.mp h
    cases rest with
    | nil =>
      rw [List.intercalate_singleton]
      exact hfirst
    | cons second others =>
      rw [List.intercalate_cons_cons]
      exact (hfirst.append (singleton hmark (.inr Int.one_pos))).append (ih hrest)

/-- Blank characters around a text are passed as the text is. -/
theorem of_trim {text : List Char} (h : Inert least delimiter (Text.trim text))
    (hdelimiter : delimiter ∈ delimiters) : Inert least delimiter text := by
  obtain ⟨left, right, htext, hleft, hright⟩ := Text.exists_blank_around text
  rw [htext]
  exact ((of_notMem (fun c hc => notMem_of_isBlank (hleft c hc)) hdelimiter).append h).append
    (of_notMem (fun c hc => notMem_of_isBlank (hright c hc)) hdelimiter)

end Inert

/-- A nested text is passed above depth zero, and also there if it is flat. -/
theorem Nested.inert {flat : Bool} {text : List Char} (h : Nested flat text) {delimiter : Char}
    (hdelimiter : delimiter ∈ delimiters) : Inert (if flat then 0 else 1) delimiter text := by
  induction h with
  | nil => exact .nil
  | @plain flat c rest hmark hflat hrest ih =>
    have hcut : c ≠ delimiter ∨ (0 : Int) < if flat then 0 else 1 := by
      cases flat with
      | false => exact .inr Int.one_pos
      | true =>
        refine .inl ?_
        rintro rfl
        exact hflat rfl hdelimiter
    exact (Inert.singleton hmark hcut).append ih
  | @quoted flat inner rest hinner hrest ih =>
    have hquoted : Inert (if flat then 0 else 1) delimiter ('"' :: (inner ++ ['"'])) :=
      .quoted hinner hdelimiter
    simpa using hquoted.append ih
  | @bracketed flat opening closing inner rest hkind hinner hrest ihinner ih =>
    have hbracketed : Inert (if flat then 0 else 1) delimiter (opening :: (inner ++ [closing])) :=
      .bracketed hkind ihinner hdelimiter (by cases flat <;> decide)
    simpa using hbracketed.append ih

/-- Nested texts behind one another are nested. -/
theorem Nested.append {flat : Bool} {first second : List Char} (hfirst : Nested flat first)
    (hsecond : Nested flat second) : Nested flat (first ++ second) := by
  induction hfirst with
  | nil => exact hsecond
  | plain hmark hflat hrest ih => exact .plain hmark hflat (ih hsecond)
  | @quoted flat inner rest hinner hrest ih =>
    rw [List.cons_append, List.append_assoc]
    exact .quoted hinner (ih hsecond)
  | @bracketed flat opening closing inner rest hkind hinner hrest _ ih =>
    rw [List.cons_append, List.append_assoc]
    exact .bracketed hkind hinner (ih hsecond)

/-- Characters that play no part in a scan are nested. -/
theorem Nested.of_notMem {flat : Bool} {text : List Char}
    (h : ∀ c ∈ text, c ∉ marks ++ delimiters) : Nested flat text := by
  induction text with
  | nil => exact .nil
  | cons c rest ih =>
    obtain ⟨hc, hrest⟩ := List.forall_mem_cons.mp h
    rw [List.mem_append, not_or] at hc
    exact .plain hc.1 (fun _ => hc.2) (ih hrest)

/-- Blank characters around a nested text are nested with it. -/
theorem Nested.of_trim {flat : Bool} {text : List Char} (h : Nested flat (Text.trim text)) :
    Nested flat text := by
  obtain ⟨left, right, htext, hleft, hright⟩ := Text.exists_blank_around text
  rw [htext]
  exact ((of_notMem fun c hc => notMem_of_isBlank (hleft c hc)).append h).append
    (of_notMem fun c hc => notMem_of_isBlank (hright c hc))

/-- An opening bracket at the front of a nested text is closed by one of its own kind. -/
theorem Nested.closing_mem {flat : Bool} {opening closing : Char} {rest : List Char}
    (h : Nested flat (opening :: rest)) (hkind : Brackets opening closing) : closing ∈ rest := by
  cases h with
  | plain hmark =>
    have hopening : opening ∈ marks := by cases hkind <;> decide
    exact absurd hopening hmark
  | quoted => cases hkind
  | @bracketed _ _ own inner after hown =>
    have hsame : own = closing := by cases hkind <;> cases hown <;> rfl
    rw [hsame]
    exact List.mem_append_right inner List.mem_cons_self

end ApiDrift.Tag
