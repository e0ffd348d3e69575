import ApiDrift.Tag.Segments

/-!
# The pieces of a text

A text is cut exactly where a delimiter stands outside quotes at depth zero. There the scan is in
the state in which it started, so every piece is scanned from the start and leads back to it without
a cut, and texts of that kind are the pieces of the text that they are joined to.
-/

namespace ApiDrift.Tag

/-- The state behind a text. -/
def Scan.run (s : Scan) (text : List Char) : Scan :=
  text.foldl Scan.step s

/-- Whether a text is scanned without a cut. -/
def Scan.passes (delimiter : Char) (s : Scan) : List Char → Bool
  | [] => true
  | c :: rest => !s.cutsAt delimiter c && passes delimiter (s.step c) rest

/-- The depths of a scan, in front of a text and behind each of its characters, have a property. -/
def Scan.Throughout (P : Int → Prop) (s : Scan) : List Char → Prop
  | [] => P s.depth
  | c :: rest => P s.depth ∧ Throughout P (s.step c) rest

namespace Scan

/-- A scan may end only in the state in which it started. -/
theorem isBalanced_iff {s : Scan} : s.isBalanced = true ↔ s = start := by
  cases s
  simp [isBalanced, start]

/-- A cut happens at the delimiter in the state before a text. -/
theorem cutsAt_iff {s : Scan} {delimiter c : Char} :
    s.cutsAt delimiter c = true ↔ c = delimiter ∧ s = start := by
  rw [cutsAt, Bool.and_eq_true, isBalanced_iff, beq_iff_eq]

@[simp] theorem run_nil (s : Scan) : s.run [] = s := rfl

@[simp] theorem run_cons (s : Scan) (c : Char) (rest : List Char) :
    s.run (c :: rest) = (s.step c).run rest := rfl

/-- A text is scanned behind what stands before it. -/
theorem run_append (s : Scan) (first second : List Char) :
    s.run (first ++ second) = (s.run first).run second :=
  List.foldl_append

/-- One more character is passed that is no cut. -/
theorem passes_cons {delimiter : Char} {s : Scan} {c : Char} {rest : List Char} :
    s.passes delimiter (c :: rest) = true ↔
      ¬(c = delimiter ∧ s = start) ∧ (s.step c).passes delimiter rest = true := by
  rw [passes, Bool.and_eq_true, Bool.not_eq_true', Bool.eq_false_iff, ne_eq, cutsAt_iff]

/-- Texts behind one another are passed when each of them is. -/
theorem passes_append {delimiter : Char} {s : Scan} {first second : List Char} :
    s.passes delimiter (first ++ second) = true ↔
      s.passes delimiter first = true ∧ (s.run first).passes delimiter second = true := by
  induction first generalizing s with
  | nil => simp [passes]
  | cons c rest ih => rw [List.cons_append, passes_cons, ih, passes_cons, run_cons, and_assoc]

/-- The depth in front of a text is one of the scan. -/
theorem Throughout.here {P : Int → Prop} {s : Scan} {text : List Char}
    (h : s.Throughout P text) : P s.depth := by
  cases text with
  | nil => exact h
  | cons c rest => exact h.1

/-- The depths of a scan have a property when they have it in front of a place and behind it. -/
theorem throughout_append {P : Int → Prop} {s : Scan} {first second : List Char} :
    s.Throughout P (first ++ second) ↔
      s.Throughout P first ∧ (s.run first).Throughout P second := by
  induction first generalizing s with
  | nil => exact (and_iff_right_of_imp Throughout.here).symm
  | cons c rest ih => rw [List.cons_append, Throughout, ih, Throughout, run_cons, and_assoc]

/-- The depths of a scan are those behind the beginnings of the text. -/
theorem throughout_iff {P : Int → Prop} {s : Scan} {text : List Char} :
    s.Throughout P text ↔ ∀ before, before <+: text → P (s.run before).depth := by
  constructor
  · rintro h before ⟨after, rfl⟩
    exact (throughout_append.mp h).2.here
  · intro h
    induction text generalizing s with
    | nil => exact h [] List.prefix_rfl
    | cons c rest ih =>
      refine ⟨h [] List.nil_prefix, ih fun before hbefore => ?_⟩
      exact h (c :: before) ((List.prefix_cons_inj c).mpr hbefore)

/-- A weaker property of the depths. -/
theorem Throughout.imp {P Q : Int → Prop} {s : Scan} {text : List Char}
    (h : s.Throughout P text) (himp : ∀ depth, P depth → Q depth) : s.Throughout Q text :=
  throughout_iff.mpr fun before hbefore => himp _ (throughout_iff.mp h before hbefore)

end Scan

/-- A text that may be a piece: its scan leads back to the start without a cut. -/
structure IsPiece (delimiter : Char) (text : List Char) : Prop where
  /-- No delimiter cuts the text. -/
  uncut : Scan.start.passes delimiter text = true
  /-- The scan leads back to the start. -/
  balanced : Scan.start.run text = Scan.start

/-- From a state on, a text is the rest of a piece in progress and further pieces. -/
structure CutsInto (delimiter : Char) (s : Scan) (text head : List Char)
    (tail : List (List Char)) : Prop where
  /-- The text joins the pieces. -/
  joined : text = [delimiter].intercalate (head :: tail)
  /-- No delimiter cuts the rest of the piece in progress. -/
  uncut : s.passes delimiter head = true
  /-- The scan of the rest of the piece leads to the start. -/
  balanced : s.run head = .start
  /-- All others are pieces. -/
  pieces : ∀ piece ∈ tail, IsPiece delimiter piece

section

variable {delimiter c : Char} {s : Scan} {text rest head : List Char} {tail : List (List Char)}

/-- No text is left of a piece that ends where the scan stands. -/
theorem cutsInto_nil_iff : CutsInto delimiter s [] head tail ↔ head = [] ∧ tail = [] ∧ s = .start := by
  constructor
  · rintro ⟨htext, -, hrun, -⟩
    cases tail with
    | nil =>
      rw [List.intercalate_singleton] at htext
      subst htext
      exact ⟨rfl, rfl, hrun⟩
    | cons piece others =>
      rw [List.intercalate_cons_cons] at htext
      simp at htext
  · rintro ⟨rfl, rfl, rfl⟩
    exact ⟨rfl, rfl, rfl, by simp⟩

/-- A cut ends the piece in progress, and the next one begins behind it. -/
theorem cutsInto_cons_of_cut (hcut : c = delimiter ∧ s = .start) :
    CutsInto delimiter s (c :: rest) head tail ↔
      ∃ piece others, head = [] ∧ tail = piece :: others ∧
        CutsInto delimiter .start rest piece others := by
  obtain ⟨rfl, rfl⟩ := hcut
  constructor
  · rintro ⟨htext, huncut, -, htail⟩
    cases head with
    | nil =>
      cases tail with
      | nil => simp at htext
      | cons piece others =>
        obtain ⟨hpiece, hothers⟩ := List.forall_mem_cons.mp htail
        refine ⟨piece, others, rfl, rfl, ?_, hpiece.uncut, hpiece.balanced, hothers⟩
        simpa using htext
    | cons d head =>
      rw [List.intercalate_cons_cons_left] at htext
      obtain ⟨rfl, -⟩ := List.cons.inj htext
      exact absurd ⟨rfl, rfl⟩ (Scan.passes_cons.mp huncut).1
  · rintro ⟨piece, others, rfl, rfl, rfl, huncut, hrun, hothers⟩
    exact ⟨by simp, rfl, rfl, List.forall_mem_cons.mpr ⟨⟨huncut, hrun⟩, hothers⟩⟩

/-- Any other character belongs to the piece in progress. -/
theorem cutsInto_cons_of_not_cut (hcut : ¬(c = delimiter ∧ s = .start)) :
    CutsInto delimiter s (c :: rest) head tail ↔
      ∃ more, head = c :: more ∧ CutsInto delimiter (s.step c) rest more tail := by
  constructor
  · rintro ⟨htext, huncut, hrun, htail⟩
    cases head with
    | nil =>
      cases tail with
      | nil => simp at htext
      | cons piece others =>
        rw [List.intercalate_cons_cons] at htext
        obtain ⟨rfl, -⟩ := List.cons.inj htext
        exact absurd ⟨rfl, hrun⟩ hcut
    | cons d more =>
      rw [List.intercalate_cons_cons_left] at htext
      obtain ⟨rfl, rfl⟩ := List.cons.inj htext
      exact ⟨more, rfl, rfl, (Scan.passes_cons.mp huncut).2, hrun, htail⟩
  · rintro ⟨more, rfl, rfl, huncut, hrun, htail⟩
    exact ⟨by simp, Scan.passes_cons.mpr ⟨hcut, huncut⟩, hrun, htail⟩

end

/-- What is cut off behind a part that was scanned: the rest of the piece in progress and further
pieces. -/
theorem cutFrom_eq_some_iff {delimiter : Char} {s : Scan} {current : List Char}
    {done pieces : List (List Char)} {text : List Char} :
    cutFrom delimiter s current done text = some pieces ↔
      ∃ head tail, pieces = done.reverse ++ (current.reverse ++ head) :: tail ∧
        CutsInto delimiter s text head tail := by
  induction text generalizing s current done with
  | nil =>
    rw [cutFrom]
    constructor
    · intro h
      split at h
      · next hs =>
        refine ⟨[], [], ?_, cutsInto_nil_iff.mpr ⟨rfl, rfl, Scan.isBalanced_iff.mp hs⟩⟩
        simpa using (Option.some.inj h).symm
      · cases h
    · rintro ⟨head, tail, rfl, hcuts⟩
      obtain ⟨rfl, rfl, rfl⟩ := cutsInto_nil_iff.mp hcuts
      rw [if_pos (Scan.isBalanced_iff.mpr rfl), List.append_nil, List.reverse_cons]
  | cons c rest ih =>
    rw [cutFrom]
    split
    · next hcut =>
      have hcut := Scan.cutsAt_iff.mp hcut
      rw [ih, hcut.2]
      constructor
      · rintro ⟨head, tail, rfl, hcuts⟩
        refine ⟨[], head :: tail, by simp, (cutsInto_cons_of_cut ⟨hcut.1, rfl⟩).mpr ?_⟩
        exact ⟨head, tail, rfl, rfl, hcuts⟩
      · rintro ⟨head, tail, rfl, hcuts⟩
        obtain ⟨piece, others, rfl, rfl, hnext⟩ := (cutsInto_cons_of_cut ⟨hcut.1, rfl⟩).mp hcuts
        exact ⟨piece, others, by simp, hnext⟩
    · next hcut =>
      have hcut : ¬(c = delimiter ∧ s = .start) := fun h => hcut (Scan.cutsAt_iff.mpr h)
      rw [ih]
      constructor
      · rintro ⟨head, tail, rfl, hcuts⟩
        exact ⟨c :: head, tail, by simp, (cutsInto_cons_of_not_cut hcut).mpr ⟨head, rfl, hcuts⟩⟩
      · rintro ⟨head, tail, rfl, hcuts⟩
        obtain ⟨more, rfl, hnext⟩ := (cutsInto_cons_of_not_cut hcut).mp hcuts
        exact ⟨more, tail, by simp, hnext⟩

/-- A text has the given pieces exactly when it is what they are joined to by the delimiter and
each of them may be a piece. -/
theorem pieces?_eq_some_iff {delimiter : Char} {text : List Char} {pieces : List (List Char)} :
    pieces? delimiter text = some pieces ↔
      pieces ≠ [] ∧ text = [delimiter].intercalate pieces ∧
        ∀ piece ∈ pieces, IsPiece delimiter piece := by
  rw [pieces?, cutFrom_eq_some_iff]
  constructor
  · rintro ⟨head, tail, rfl, rfl, huncut, hrun, htail⟩
    refine ⟨by simp, rfl, ?_⟩
    exact List.forall_mem_cons.mpr ⟨⟨huncut, hrun⟩, htail⟩
  · rintro ⟨hne, rfl, hpieces⟩
    cases pieces with
    | nil => exact absurd rfl hne
    | cons head tail =>
      obtain ⟨hhead, htail⟩ := List.forall_mem_cons.mp hpieces
      exact ⟨head, tail, rfl, rfl, hhead.uncut, hhead.balanced, htail⟩

end ApiDrift.Tag
