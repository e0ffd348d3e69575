import ApiDrift.Proofs.Tag.Segments
import ApiDrift.Tag.Counted

/-!
# Scans whose depth has 32 bits

A scan whose depth stands in a word is the scan without a bound as long as every depth fits the
word, and so the segments of a text are the same. The first depth that does not fit makes the scan go
wrong. Where it is reduced to the word instead, the scan ends in the state of the one without a bound,
up to a multiple of the size of the word.
-/

namespace ApiDrift.Tag

open Checked (FitsSigned)

namespace Scan

/-- The state behind a text, whose depths are put into their word. -/
def countAll (overflow : Overflow) (s : Scan) : (text : List Char) → Except Misstep Scan
  | [] => .ok s
  | c :: rest => (s.count overflow c).bind fun next => next.countAll overflow rest

/-- A state with its depth reduced to the word. -/
def wrapped (s : Scan) : Scan :=
  ⟨s.depth.bmod UInt32.size, s.quoting⟩

section

variable {s : Scan} {c : Char} {text : List Char}

/-- One more character is counted as it is scanned when the depth behind it fits. -/
theorem count_of_fits (h : FitsSigned (s.step c).depth) (overflow : Overflow) :
    s.count overflow c = .ok (s.step c) := by
  rw [count, Checked.signed_of_fits h]
  rfl

/-- The first depth that does not fit goes wrong. -/
theorem countAll_fails (hfits : FitsSigned s.depth) (h : ¬s.Throughout FitsSigned text) :
    s.countAll .fails text = .error .overflow := by
  induction text generalizing s with
  | nil => exact absurd hfits h
  | cons c rest ih =>
    by_cases hstep : FitsSigned (s.step c).depth
    · rw [countAll, count_of_fits hstep]
      exact ih hstep fun hrest => h ⟨hfits, hrest⟩
    · rw [countAll, count, Checked.signed, if_neg hstep]
      rfl

/-- How a character changes the depth does not depend on the depth. -/
theorem step_add (s : Scan) (more : Int) (c : Char) :
    (⟨s.depth + more, s.quoting⟩ : Scan).step c =
      ⟨(s.step c).depth + more, (s.step c).quoting⟩ := by
  obtain ⟨depth, quoting⟩ := s
  cases quoting with
  | escaped => rfl
  | inside =>
    simp only [step]
    split
    · rfl
    · split <;> rfl
  | outside =>
    simp only [step]
    split
    · rfl
    · split
      · rw [Int.add_right_comm]
      · split
        · rw [Int.sub_eq_add_neg, Int.add_right_comm, ← Int.sub_eq_add_neg]
        · rfl

/-- A number is put into the word as it is reduced to it. -/
theorem signed_wraps (n : Int) : Checked.signed .wraps n = .ok (n.bmod UInt32.size) := by
  unfold Checked.signed
  split
  · next hfits =>
    obtain ⟨hleast, hlt⟩ := hfits
    have hsize : UInt32.size = 2 * Checked.signedLimit := rfl
    rw [Int.bmod_eq_of_le_mul_two (by omega) (by omega)]
  · rfl

/-- One more character of a state with a reduced depth. -/
theorem count_wrapped (s : Scan) (c : Char) :
    s.wrapped.count .wraps c = .ok (s.step c).wrapped := by
  have hsum (depth next : Int) : depth + (next - depth) = next := by omega
  have hstate : s.wrapped = ⟨s.depth + (s.depth.bmod UInt32.size - s.depth), s.quoting⟩ := by
    rw [wrapped, hsum]
  have hdepth : ((s.step c).depth + (s.depth.bmod UInt32.size - s.depth)).bmod UInt32.size =
      (s.step c).depth.bmod UInt32.size :=
    calc ((s.step c).depth + (s.depth.bmod UInt32.size - s.depth)).bmod UInt32.size
      _ = (s.depth.bmod UInt32.size + ((s.step c).depth - s.depth)).bmod UInt32.size := by
        congr 1
        omega
      _ = (s.depth + ((s.step c).depth - s.depth)).bmod UInt32.size := Int.bmod_add_bmod
      _ = (s.step c).depth.bmod UInt32.size := by rw [hsum]
  rw [count, hstate, step_add, signed_wraps, hdepth]
  rfl

/-- A text behind a state with a reduced depth leads to one. -/
theorem countAll_wrapped (s : Scan) (text : List Char) :
    s.wrapped.countAll .wraps text = .ok (s.run text).wrapped := by
  induction text generalizing s with
  | nil => rfl
  | cons c rest ih =>
    rw [countAll, count_wrapped]
    exact ih (s.step c)

end

end Scan

section

variable {delimiter : Char} {s : Scan} {current text : List Char} {done : List (List Char)}

/-- The start is where a scan stands behind a cut. -/
theorem Scan.count_start (hmark : delimiter ∉ marks) (overflow : Overflow) :
    Scan.start.count overflow delimiter = .ok .start := by
  have hstep : Scan.start.step delimiter = .start := step_of_notMem_marks hmark
  have hfits : FitsSigned (Scan.start.step delimiter).depth := by
    rw [hstep]
    decide
  rw [count_of_fits hfits, hstep]

/-- What is left of a text has pieces exactly when the state behind it is balanced. -/
theorem map_isSome_countedCut (hmark : delimiter ∉ marks) (overflow : Overflow) :
    (countedCut overflow delimiter s current done text).map Option.isSome =
      (s.countAll overflow text).map Scan.isBalanced := by
  induction text generalizing s current done with
  | nil =>
    rw [countedCut, Scan.countAll]
    cases hbalanced : s.isBalanced <;> simp [Except.map, hbalanced]
  | cons c rest ih =>
    rw [countedCut, Scan.countAll]
    split
    · next hcut =>
      obtain ⟨rfl, rfl⟩ := Scan.cutsAt_iff.mp hcut
      rw [Scan.count_start hmark]
      exact ih
    · cases s.count overflow c with
      | error misstep => rfl
      | ok next => exact ih

/-- A text has segments exactly when the state behind it is balanced. -/
theorem map_isSome_countedSegments (hmark : delimiter ∉ marks) (overflow : Overflow) :
    (countedSegments overflow delimiter text).map Option.isSome =
      (Scan.start.countAll overflow text).map Scan.isBalanced := by
  rw [← @map_isSome_countedCut delimiter .start [] text [] hmark overflow, countedSegments]
  cases countedCut overflow delimiter .start [] [] text with
  | error misstep => rfl
  | ok pieces => cases pieces <;> rfl

/-- What is left of a text is cut as without a bound when all depths fit. -/
theorem countedCut_of_throughout (hmark : delimiter ∉ marks) (h : s.Throughout FitsSigned text)
    (overflow : Overflow) :
    countedCut overflow delimiter s current done text =
      .ok (cutFrom delimiter s current done text) := by
  induction text generalizing s current done with
  | nil => rfl
  | cons c rest ih =>
    rw [countedCut, cutFrom]
    split
    · next hcut =>
      obtain ⟨rfl, rfl⟩ := Scan.cutsAt_iff.mp hcut
      have hstep : Scan.start.step c = .start := Scan.step_of_notMem_marks hmark
      exact ih (hstep ▸ h.2)
    · rw [Scan.count_of_fits h.2.here]
      exact ih h.2

/-- The segments of a text are the same as without a bound when all depths fit. -/
theorem countedSegments_of_throughout (hmark : delimiter ∉ marks)
    (h : Scan.start.Throughout FitsSigned text) (overflow : Overflow) :
    countedSegments overflow delimiter text = .ok (segments? delimiter text) := by
  rw [countedSegments, countedCut_of_throughout hmark h]
  rfl

/-- A text with a depth that does not fit has no segments. -/
theorem countedSegments_fails (hmark : delimiter ∉ marks)
    (h : ¬Scan.start.Throughout FitsSigned text) :
    countedSegments .fails delimiter text = .error .overflow := by
  have hsome := @map_isSome_countedSegments delimiter text hmark .fails
  rw [Scan.countAll_fails (by decide) h] at hsome
  cases hsegments : countedSegments .fails delimiter text with
  | error misstep =>
    rw [hsegments] at hsome
    exact congrArg Except.error (Except.error.inj hsome)
  | ok segments =>
    rw [hsegments] at hsome
    cases hsome

end

end ApiDrift.Tag
