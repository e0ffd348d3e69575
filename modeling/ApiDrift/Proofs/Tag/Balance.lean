import ApiDrift.Proofs.Tag.Counting
import Mathlib.Data.List.Infix

/-!
# Which texts have segments

Outside the quotes of a text some brackets open and some close. The depth of a scan is the number of
the former less that of the latter, and never more than the number of characters read, so its word
can count every text with fewer than `2 ^ 31` characters. A text that the word can count has segments
exactly when it ends outside quotes and closes as many brackets as it opens. In a balanced text,
moreover, no bracket closes before one opens. The scan looks at its depth at the end and at
delimiters only, so it does not see that: texts with a prefix that closes more brackets than it
opens have segments as well, although they are not balanced.
-/

namespace ApiDrift.Tag

open Checked (FitsSigned signedLimit)

/-- The characters outside quotes of a text that begins between quotes or outside of them. Between
quotes a backslash takes the next character with it. -/
def outsideFrom : (quoted : Bool) → List Char → List Char
  | _, [] => []
  | false, c :: rest =>
    if c = '"' then outsideFrom true rest else c :: outsideFrom false rest
  | true, '\\' :: _ :: rest => outsideFrom true rest
  | true, c :: rest => outsideFrom (c != '"') rest

/-- Whether a text that begins between quotes or outside of them ends outside. -/
def endsOutsideFrom : (quoted : Bool) → List Char → Bool
  | quoted, [] => !quoted
  | false, c :: rest => endsOutsideFrom (c == '"') rest
  | true, '\\' :: _ :: rest => endsOutsideFrom true rest
  | true, c :: rest => endsOutsideFrom (c != '"') rest

/-- Whether a character is an opening bracket. -/
def opens (c : Char) : Bool :=
  c == '[' || c == '{'

/-- Whether a character is a closing bracket. -/
def closes (c : Char) : Bool :=
  c == ']' || c == '}'

/-- How many brackets open in a text outside its quotes. -/
def openings (text : List Char) : Nat :=
  (outsideFrom false text).countP opens

/-- How many brackets close in a text outside its quotes. -/
def closings (text : List Char) : Nat :=
  (outsideFrom false text).countP closes

/-- A text whose quotes are closed, whose brackets outside of them close as often as they open, and
in which no bracket closes before one opens. -/
structure Balanced (text : List Char) : Prop where
  /-- The text ends outside quotes. -/
  closed : endsOutsideFrom false text = true
  /-- As many brackets close as open. -/
  equal : closings text = openings text
  /-- Up to no place do more brackets close than open. -/
  ordered : ∀ before, before <+: text → closings before ≤ openings before

/-- A signed word of 32 bits holds how many more brackets open than close in each beginning of a
text, outside its quotes. -/
def Countable (text : List Char) : Prop :=
  ∀ before, before <+: text →
    openings before < closings before + signedLimit ∧
      closings before ≤ openings before + signedLimit

/-- The brackets of some characters that open less those that close. -/
def surplus (outside : List Char) : Int :=
  outside.countP opens - outside.countP closes

/-- The brackets of one more character count with the others. -/
theorem surplus_cons (c : Char) (outside : List Char) :
    surplus (c :: outside) = surplus [c] + surplus outside := by
  simp only [surplus, List.countP_cons, List.countP_nil]
  omega

/-- A bracket outside quotes changes the depth by one, and any other character that is no quote
leaves it. -/
theorem Scan.step_outside {depth : Int} {c : Char} (hquote : c ≠ '"') :
    (⟨depth, .outside⟩ : Scan).step c = ⟨depth + surplus [c], .outside⟩ := by
  by_cases hopens : c = '[' ∨ c = '{'
  · rcases hopens with rfl | rfl <;> simp [step, surplus, opens, closes]
  · by_cases hcloses : c = ']' ∨ c = '}'
    · rcases hcloses with rfl | rfl <;> simp [step, surplus, opens, closes] <;> rfl
    · simp [step, surplus, opens, closes, hquote, hopens, hcloses]

/-- Between quotes a scan stays there at a character that is no quote and no backslash. -/
theorem Scan.step_inside {depth : Int} {c : Char} (hquote : c ≠ '"') (hbackslash : c ≠ '\\') :
    (⟨depth, .inside⟩ : Scan).step c = ⟨depth, .inside⟩ := by
  simp [step, hquote, hbackslash]

/-- The scan of a text changes its depth by the brackets outside quotes, and ends outside quotes
where the text does. -/
theorem Scan.run_eq (quoted : Bool) (text : List Char) (depth : Int) :
    ∃ quoting, (quoting = .outside ↔ endsOutsideFrom quoted text = true) ∧
      Scan.run ⟨depth, if quoted then .inside else .outside⟩ text =
        ⟨depth + surplus (outsideFrom quoted text), quoting⟩ := by
  induction quoted, text using outsideFrom.induct generalizing depth with
  | case1 quoted => cases quoted <;> simp [outsideFrom, endsOutsideFrom, surplus]
  | case2 rest ih => exact ih depth
  | case3 c rest hquote ih =>
    obtain ⟨quoting, hends, hrun⟩ := ih (depth + surplus [c])
    refine ⟨quoting, ?_, ?_⟩
    · rw [hends, endsOutsideFrom, beq_eq_false_iff_ne.mpr hquote]
    · rw [run_cons, outsideFrom, if_neg hquote, surplus_cons, ← Int.add_assoc, ← hrun]
      exact congrArg (Scan.run · rest) (step_outside hquote)
  | case4 _ rest ih => exact ih depth
  | case5 c rest hpair ih =>
    rw [outsideFrom.eq_4 c rest hpair, endsOutsideFrom.eq_4 c rest hpair, run_cons]
    by_cases hbackslash : c = '\\'
    · subst hbackslash
      cases rest with
      | nil => exact ⟨.escaped, by decide, by simp [step, outsideFrom, surplus]⟩
      | cons head tail => exact (hpair head tail rfl rfl).elim
    · by_cases hquote : c = '"'
      · subst hquote
        exact ih depth
      · rw [bne_iff_ne.mpr hquote] at ih ⊢
        obtain ⟨quoting, hends, hrun⟩ := ih depth
        refine ⟨quoting, hends, ?_⟩
        rw [← hrun]
        exact congrArg (Scan.run · rest) (step_inside hquote hbackslash)

/-- One more character changes the depth by one at most. -/
theorem Scan.natAbs_depth_step_le (s : Scan) (c : Char) :
    (s.step c).depth.natAbs ≤ s.depth.natAbs + 1 := by
  unfold step
  split
  · exact Nat.le_succ _
  · split
    · exact Nat.le_succ _
    · split <;> exact Nat.le_succ _
  · split
    · exact Nat.le_succ _
    · split
      · exact Int.natAbs_add_le s.depth 1
      · split
        · exact Int.natAbs_sub_le s.depth 1
        · exact Nat.le_succ _

/-- No depth of a scan is further from zero than characters were read. -/
theorem Scan.natAbs_depth_run_le (s : Scan) (text : List Char) :
    (s.run text).depth.natAbs ≤ s.depth.natAbs + text.length := by
  induction text generalizing s with
  | nil => exact Nat.le_refl _
  | cons c rest ih =>
    have hstep := s.natAbs_depth_step_le c
    have hrest := ih (s.step c)
    rw [run_cons, List.length_cons]
    omega

/-- A scan is where it started when it is outside quotes at depth zero. -/
theorem Scan.eq_start_iff {s : Scan} : s = start ↔ s.quoting = .outside ∧ s.depth = 0 := by
  obtain ⟨depth, quoting⟩ := s
  rw [start, Scan.mk.injEq, and_comm]

/-- The depth behind a text is the number of brackets that open less the number of those that
close. -/
theorem Scan.depth_run_start (text : List Char) :
    (Scan.start.run text).depth = openings text - closings text := by
  obtain ⟨quoting, -, hrun⟩ := Scan.run_eq false text 0
  exact (congrArg Scan.depth hrun).trans (Int.zero_add _)

/-- A text ends outside quotes exactly when its scan does. -/
theorem Scan.quoting_run_start (text : List Char) :
    (Scan.start.run text).quoting = .outside ↔ endsOutsideFrom false text = true := by
  obtain ⟨quoting, hends, hrun⟩ := Scan.run_eq false text 0
  rw [← hends]
  exact Eq.congr_left (congrArg Scan.quoting hrun)

section

variable {delimiter : Char} {text : List Char}

/-- The word can count a text exactly when all depths of its scan fit. -/
theorem countable_iff : Countable text ↔ Scan.start.Throughout FitsSigned text := by
  rw [Scan.throughout_iff, Countable]
  refine forall₂_congr fun before _ => ?_
  rw [Scan.depth_run_start, FitsSigned]
  omega

/-- The word can count every text with fewer characters than its greatest number. -/
theorem countable_of_length_lt (h : text.length < signedLimit) : Countable text := by
  refine countable_iff.mpr (Scan.throughout_iff.mpr fun before hbefore => ?_)
  have hle := Scan.start.natAbs_depth_run_le before
  have hstart : Scan.start.depth.natAbs = 0 := rfl
  have hlength := hbefore.length_le
  rw [FitsSigned]
  omega

/-- A text has segments without a bound exactly when it ends outside quotes and closes as many
brackets as it opens. -/
theorem isSome_segments?_iff_closings (hmark : delimiter ∉ marks) :
    (segments? delimiter text).isSome = true ↔
      endsOutsideFrom false text = true ∧ closings text = openings text := by
  rw [isSome_segments?_iff hmark, Scan.eq_start_iff, Scan.quoting_run_start, Scan.depth_run_start]
  refine and_congr_right fun _ => ?_
  omega

/-- A text has segments with a reduced depth exactly when it ends outside quotes and the numbers of
brackets that open and close are the same up to a multiple of the size of the word. -/
theorem exists_countedSegments_wraps (hmark : delimiter ∉ marks) (text : List Char) :
    ∃ segments, countedSegments .wraps delimiter text = .ok segments ∧
      (segments.isSome = true ↔ endsOutsideFrom false text = true ∧
        (UInt32.size : Int) ∣ openings text - closings text) := by
  have hsome := @map_isSome_countedSegments delimiter text hmark .wraps
  have hrun : Scan.start.countAll .wraps text = .ok (Scan.start.run text).wrapped :=
    Scan.start.countAll_wrapped text
  rw [hrun] at hsome
  obtain ⟨segments, hsegments, hbalanced⟩ := Checked.map_eq_ok_iff.mp hsome
  refine ⟨segments, hsegments, ?_⟩
  rw [hbalanced, ← Scan.depth_run_start, ← Scan.quoting_run_start, Scan.isBalanced_iff,
    Scan.eq_start_iff]
  exact and_congr_right fun _ => (@Int.dvd_iff_bmod_eq_zero UInt32.size _).symm

end

/-- A text that the word can count, such as any with fewer than `2 ^ 31` characters, has segments
exactly when it ends outside quotes and closes as many brackets as it opens. It is balanced exactly
when, besides, it never closes a bracket before one opens, which its segments do not tell. For any
other text the word overflows: either that goes wrong, or the numbers of brackets are compared up to a
multiple of the size of the word. -/
theorem countedSegments_exact {delimiter : Char} (hdelimiter : delimiter ∈ delimiters)
    (text : List Char) :
    (text.length < signedLimit → Countable text) ∧
    (Countable text → ∀ overflow, ∃ segments,
      countedSegments overflow delimiter text = .ok segments ∧
      (segments.isSome = true ↔
        endsOutsideFrom false text = true ∧ closings text = openings text) ∧
      (Balanced text ↔ segments.isSome = true ∧
        ∀ before, before <+: text → closings before ≤ openings before)) ∧
    (¬Countable text → countedSegments .fails delimiter text = .error .overflow) ∧
    ∃ segments, countedSegments .wraps delimiter text = .ok segments ∧
      (segments.isSome = true ↔ endsOutsideFrom false text = true ∧
        (UInt32.size : Int) ∣ openings text - closings text) := by
  have hmark := notMem_marks_of_mem_delimiters hdelimiter
  refine ⟨countable_of_length_lt, fun hcountable overflow => ?_, fun hcountable => ?_,
    exists_countedSegments_wraps hmark text⟩
  · have hsegments := @isSome_segments?_iff_closings delimiter text hmark
    refine ⟨_, countedSegments_of_throughout hmark (countable_iff.mp hcountable) overflow,
      hsegments, fun h => ⟨hsegments.mpr ⟨h.closed, h.equal⟩, h.ordered⟩, ?_⟩
    rintro ⟨hsome, hordered⟩
    obtain ⟨hclosed, hequal⟩ := hsegments.mp hsome
    exact ⟨hclosed, hequal, hordered⟩
  · exact countedSegments_fails hmark (mt countable_iff.mpr hcountable)

/-- In a text of opening brackets alone all of them open and none closes. -/
theorem counts_replicate (count : Nat) :
    openings (List.replicate count '[') = count ∧ closings (List.replicate count '[') = 0 := by
  have houtside : outsideFrom false (List.replicate count '[') = List.replicate count '[' := by
    induction count with
    | zero => rfl
    | succ count ih => rw [List.replicate_succ, outsideFrom, if_neg (by decide), ih]
  rw [openings, closings, houtside, List.countP_replicate, List.countP_replicate]
  exact ⟨rfl, rfl⟩

/-- Brackets between quotes do not count, and neither does a quote behind a backslash. Of a text of
`2 ^ 31` opening brackets the word overflows. -/
theorem countedSegments_exact_quoted :
    ',' ∈ delimiters ∧
      (∃ segments, countedSegments .fails ',' "[\"]\\\"[\"],\"[\"".toList = .ok segments ∧
        segments.isSome = true ∧ Balanced "[\"]\\\"[\"],\"[\"".toList) ∧
      countedSegments .fails ',' (List.replicate signedLimit '[') = .error .overflow := by
  refine ⟨by decide, ?_, ?_⟩
  · obtain ⟨hlength, hcounted, -⟩ :=
      countedSegments_exact (show ',' ∈ delimiters by decide) "[\"]\\\"[\"],\"[\"".toList
    obtain ⟨segments, hsegments, hsome, hbalanced⟩ := hcounted (hlength (by decide)) .fails
    have hfound := hsome.mpr (by decide)
    have hordered : ∀ before ∈ ("[\"]\\\"[\"],\"[\"".toList).inits,
        closings before ≤ openings before := by decide
    exact ⟨segments, hsegments, hfound, hbalanced.mpr ⟨hfound, fun before hbefore =>
      hordered before ((List.mem_inits before _).mpr hbefore)⟩⟩
  · obtain ⟨-, -, hoverflow, -⟩ :=
      countedSegments_exact (show ',' ∈ delimiters by decide) (List.replicate signedLimit '[')
    refine hoverflow fun hcountable => ?_
    have hlt := (hcountable _ List.prefix_rfl).1
    rw [(counts_replicate _).1, (counts_replicate _).2, Nat.zero_add] at hlt
    exact Nat.lt_irrefl _ hlt

/-- A list that ends before it has begun and one that begins and does not end have a segment
together, at either delimiter, and are not balanced. -/
theorem countedSegments_and_not_balanced :
    (∀ delimiter ∈ delimiters, countedSegments .fails delimiter "\"a\"],[\"b\"".toList =
      .ok (some ["\"a\"],[\"b\"".toList])) ∧
      ¬Balanced "\"a\"],[\"b\"".toList := by
  refine ⟨List.forall_mem_cons.mpr ⟨rfl, List.forall_mem_singleton.mpr rfl⟩, fun h => ?_⟩
  exact absurd (h.ordered "\"a\"]".toList (by decide)) (by decide)

end ApiDrift.Tag
