import ApiDrift.Proofs.Tag.Nesting
import ApiDrift.Proofs.Tag.Parts
import ApiDrift.Proofs.Text.Cut

/-!
# The segments of a text

A text has segments exactly when its scan leads back to the start, whatever the delimiter. The
segments are the trimmed pieces between those delimiters at which the scan stands outside quotes at
depth zero, and the pieces together with these delimiters are the whole text. What trimming takes
away from a piece stands outside its quotes, so the scan of a segment leads back to the start as
well: a segment is its own only segment, and it has segments at the other delimiter. For that reason
a pair of an object is refused for its number of parts and for nothing else.
-/

namespace ApiDrift.Tag

/-- Two texts stand on the two sides of a cut: the pieces in front of the cut join to the one, and
the pieces behind it to the other. -/
def CutBetween (delimiter : Char) (pieces : List (List Char)) (before after : List Char) : Prop :=
  ∃ front back, front ≠ [] ∧ back ≠ [] ∧ pieces = front ++ back ∧
    before = [delimiter].intercalate front ∧ after = [delimiter].intercalate back

/-- No delimiter plays a part in a scan. -/
theorem notMem_marks_of_mem_delimiters {delimiter : Char} (h : delimiter ∈ delimiters) :
    delimiter ∉ marks := by
  have hall : delimiters.all (fun c => !marks.contains c) = true := by decide
  simpa using List.all_eq_true.mp hall delimiter h

section

variable {delimiter : Char} {text before after : List Char} {pieces segments : List (List Char)}

/-- What is left of a text is cut exactly when its scan leads back to the start. -/
theorem isSome_cutFrom_iff (hmark : delimiter ∉ marks) {s : Scan} {current : List Char}
    {done : List (List Char)} :
    (cutFrom delimiter s current done text).isSome = true ↔ s.run text = .start := by
  induction text generalizing s current done with
  | nil => simp [cutFrom, Scan.isBalanced_iff]
  | cons c rest ih =>
    rw [cutFrom, Scan.run_cons]
    split
    · next hcut =>
      obtain ⟨rfl, rfl⟩ := Scan.cutsAt_iff.mp hcut
      have hstep : Scan.start.step c = .start := Scan.step_of_notMem_marks hmark
      rw [ih, hstep]
    · exact ih

/-- A text has pieces exactly when its scan leads back to the start. -/
theorem isSome_pieces?_iff (hmark : delimiter ∉ marks) :
    (pieces? delimiter text).isSome = true ↔ Scan.start.run text = .start :=
  isSome_cutFrom_iff hmark

/-- A text has segments exactly when its scan leads back to the start. -/
theorem isSome_segments?_iff (hmark : delimiter ∉ marks) :
    (segments? delimiter text).isSome = true ↔ Scan.start.run text = .start := by
  rw [segments?, Option.isSome_map, isSome_pieces?_iff hmark]

/-- The scan of joined pieces leads back to the start. -/
theorem run_intercalate (hmark : delimiter ∉ marks) (h : ∀ piece ∈ pieces, IsPiece delimiter piece) :
    Scan.start.run ([delimiter].intercalate pieces) = .start := by
  by_cases hne : pieces = []
  · rw [hne]
    rfl
  · rw [← isSome_pieces?_iff hmark, pieces?_eq_some_iff.mpr ⟨hne, rfl, h⟩]
    rfl

/-- The cuts of a text are the delimiters at which its scan stands outside quotes at depth zero.
Both sides of such a place lead back to the start, so each has its own pieces. -/
theorem cutBetween_iff (hmark : delimiter ∉ marks) (h : pieces? delimiter text = some pieces)
    (htext : text = before ++ delimiter :: after) :
    CutBetween delimiter pieces before after ↔ Scan.start.run before = .start := by
  obtain ⟨-, -, hpieces⟩ := pieces?_eq_some_iff.mp h
  constructor
  · rintro ⟨front, back, -, -, rfl, rfl, -⟩
    exact run_intercalate hmark fun piece hpiece => hpieces piece (List.mem_append_left _ hpiece)
  · intro hbefore
    have hstep : Scan.start.step delimiter = .start := Scan.step_of_notMem_marks hmark
    have hafter : Scan.start.run after = .start := by
      have htotal := (isSome_pieces?_iff hmark).mp (Option.isSome_of_eq_some h)
      rwa [htext, Scan.run_append, hbefore, Scan.run_cons, hstep] at htotal
    obtain ⟨front, hfront⟩ := Option.isSome_iff_exists.mp ((isSome_pieces?_iff hmark).mpr hbefore)
    obtain ⟨back, hback⟩ := Option.isSome_iff_exists.mp ((isSome_pieces?_iff hmark).mpr hafter)
    obtain ⟨hfrontne, hbeforetext, hfrontpieces⟩ := pieces?_eq_some_iff.mp hfront
    obtain ⟨hbackne, haftertext, hbackpieces⟩ := pieces?_eq_some_iff.mp hback
    refine ⟨front, back, hfrontne, hbackne, ?_, hbeforetext, haftertext⟩
    have hboth : pieces? delimiter text = some (front ++ back) := by
      refine pieces?_eq_some_iff.mpr ⟨List.append_ne_nil_of_left_ne_nil hfrontne back, ?_, ?_⟩
      · rw [Text.intercalate_append hfrontne hbackne, ← hbeforetext, ← haftertext, htext]
      · exact List.forall_mem_append.mpr ⟨hfrontpieces, hbackpieces⟩
    exact Option.some.inj (h.symm.trans hboth)

/-- Between quotes a scan leaves them at a quote only. -/
theorem Scan.quoting_step_inside {depth : Int} {c : Char} (hquote : c ≠ '"') :
    ((⟨depth, .inside⟩ : Scan).step c).quoting ≠ .outside := by
  by_cases hbackslash : c = '\\' <;> simp [step, hquote, hbackslash]

/-- Only from the start do blank characters lead to the start. -/
theorem Scan.eq_start_of_run_blank {s : Scan} (hblank : ∀ c ∈ text, Text.isBlank c = true)
    (h : s.run text = .start) : s = .start := by
  induction text generalizing s with
  | nil => exact h
  | cons c rest ih =>
    obtain ⟨hc, hrest⟩ := List.forall_mem_cons.mp hblank
    have hmark : c ∉ marks := fun hmem => notMem_of_isBlank hc (List.mem_append_left _ hmem)
    have hquote : c ≠ '"' := by
      rintro rfl
      exact hmark (by decide)
    have hstep := ih hrest h
    obtain ⟨depth, quoting⟩ := s
    cases quoting with
    | outside => rwa [step_of_notMem_marks hmark] at hstep
    | escaped => exact absurd hstep (ne_start_of_quoting (by decide))
    | inside => exact absurd (congrArg quoting hstep) (quoting_step_inside hquote)

/-- Blank characters lead from the start to the start. -/
theorem Scan.run_start_of_blank (hblank : ∀ c ∈ text, Text.isBlank c = true) :
    Scan.start.run text = .start := by
  have hinert : Inert 0 ',' text :=
    .of_notMem (fun c hc => notMem_of_isBlank (hblank c hc)) (by decide)
  exact hinert.run 0

/-- What trimming leaves of a piece may be a piece. -/
theorem IsPiece.trim {piece : List Char} (h : IsPiece delimiter piece) :
    IsPiece delimiter (Text.trim piece) := by
  obtain ⟨left, right, hpiece, hleft, hright⟩ := Text.exists_blank_around piece
  have hstart := Scan.run_start_of_blank hleft
  obtain ⟨huncut, hbalanced⟩ := h
  rw [hpiece, List.append_assoc, Scan.passes_append, hstart, Scan.passes_append] at huncut
  rw [hpiece, List.append_assoc, Scan.run_append, hstart, Scan.run_append] at hbalanced
  exact ⟨huncut.2.1, Scan.eq_start_of_run_blank hright hbalanced⟩

/-- A segment may be a piece. -/
theorem isPiece_of_mem_segments (h : segments? delimiter text = some segments) {segment : List Char}
    (hsegment : segment ∈ segments) : IsPiece delimiter segment ∧ Text.trim segment = segment := by
  obtain ⟨pieces, hpieces, rfl⟩ := Option.map_eq_some_iff.mp h
  obtain ⟨piece, hpiece, rfl⟩ := List.mem_map.mp hsegment
  exact ⟨((pieces?_eq_some_iff.mp hpieces).2.2 piece hpiece).trim, Text.trim_trim piece⟩

/-- A segment is its own only segment. -/
theorem segments?_of_mem_segments (h : segments? delimiter text = some segments)
    {segment : List Char} (hsegment : segment ∈ segments) :
    segments? delimiter segment = some [segment] := by
  obtain ⟨hpiece, htrim⟩ := isPiece_of_mem_segments h hsegment
  have hpieces : pieces? delimiter segment = some [segment] :=
    pieces?_eq_some_iff.mpr ⟨List.cons_ne_nil _ _, (List.intercalate_singleton ..).symm,
      List.forall_mem_singleton.mpr hpiece⟩
  rw [segments?, hpieces, Option.map_some, List.map_singleton, htrim]

/-- A segment has segments at each delimiter. -/
theorem exists_segments?_of_mem_segments (h : segments? delimiter text = some segments)
    {segment : List Char} (hsegment : segment ∈ segments) {other : Char}
    (hother : other ∈ delimiters) : ∃ parts, segments? other segment = some parts := by
  obtain ⟨hpiece, -⟩ := isPiece_of_mem_segments h hsegment
  exact Option.isSome_iff_exists.mp
    ((isSome_segments?_iff (notMem_marks_of_mem_delimiters hother)).mpr hpiece.balanced)

end

/-- A pair has no value exactly when it does not have two parts. -/
theorem pairValue?_eq_none_iff {pair : List Char} {parts : List (List Char)}
    (h : segments? '=' pair = some parts) : pairValue? pair = none ↔ parts.length ≠ 2 := by
  rw [pairValue?, h]
  match parts with
  | [] | [_] | [_, _] | _ :: _ :: _ :: _ => simp

/-- A partial function is not defined on all of a list exactly when it is not on some element. -/
theorem mapM_eq_none_iff {α β : Type} {f : α → Option β} {xs : List α} :
    xs.mapM f = none ↔ ∃ x ∈ xs, f x = none := by
  induction xs with
  | nil => simp
  | cons x rest ih =>
    rw [List.mapM_cons, List.exists_mem_cons_iff, ← ih]
    cases f x with
    | none => simp
    | some y => cases rest.mapM f <;> simp

/-- An object with pairs is refused exactly when the number of parts of some pair is not two. -/
theorem expand?_object_eq_none_iff {queue : Queue} {inner : List Char} {pairs : List (List Char)}
    (hne : Text.trim inner ≠ []) (h : segments? ',' (Text.trim inner) = some pairs) :
    queue.expand? ('{' :: (inner ++ ['}'])) = none ↔
      ∃ pair ∈ pairs, ∃ parts, segments? '=' pair = some parts ∧ parts.length ≠ 2 := by
  rw [Queue.expand?_eq, Option.map_eq_none_iff, partsOfTrimmed?_object, objectElements?,
    if_neg (by simpa using hne), h, Option.bind_some, mapM_eq_none_iff]
  refine exists_congr fun pair => and_congr_right fun hpair => ?_
  obtain ⟨parts, hparts⟩ : ∃ parts, segments? '=' pair = some parts :=
    exists_segments?_of_mem_segments h hpair (by decide)
  rw [pairValue?_eq_none_iff hparts, hparts]
  simp

/-- The segments of a text are its trimmed pieces, and the pieces join to the whole text at the
delimiters outside quotes at depth zero. Each segment is its own only segment and has segments at
both delimiters, so that an object is refused for the number of parts of a pair and for nothing
else about its pairs. -/
theorem segments?_exact {delimiter : Char} (hdelimiter : delimiter ∈ delimiters)
    {text : List Char} {segments : List (List Char)}
    (h : segments? delimiter text = some segments) :
    (∃ pieces, pieces ≠ [] ∧ text = [delimiter].intercalate pieces ∧
      segments = pieces.map Text.trim ∧
      ∀ before after, text = before ++ delimiter :: after →
        (CutBetween delimiter pieces before after ↔ Scan.start.run before = ⟨0, .outside⟩)) ∧
    (∀ segment ∈ segments, segments? delimiter segment = some [segment] ∧
      ∀ other ∈ delimiters, ∃ parts, segments? other segment = some parts) ∧
    ∀ (queue : Queue) (inner : List Char) (pairs : List (List Char)), Text.trim inner ≠ [] →
      segments? ',' (Text.trim inner) = some pairs →
      (queue.expand? ('{' :: (inner ++ ['}'])) = none ↔
        ∃ pair ∈ pairs, ∃ parts, segments? '=' pair = some parts ∧ parts.length ≠ 2) := by
  refine ⟨?_, fun segment hsegment => ⟨segments?_of_mem_segments h hsegment, ?_⟩, ?_⟩
  · obtain ⟨pieces, hpieces, rfl⟩ := Option.map_eq_some_iff.mp h
    obtain ⟨hne, htext, -⟩ := pieces?_eq_some_iff.mp hpieces
    exact ⟨pieces, hne, htext, rfl, fun _ _ hsplit =>
      cutBetween_iff (notMem_marks_of_mem_delimiters hdelimiter) hpieces hsplit⟩
  · exact fun _ hother => exists_segments?_of_mem_segments h hsegment hother
  · exact fun _ _ _ hne hpairs => expand?_object_eq_none_iff hne hpairs

/-- Delimiters between quotes or brackets do not cut a text, and a name without an equals sign makes
an object be refused. -/
theorem segments?_exact_pairs :
    ',' ∈ delimiters ∧
    segments? ',' "\"k,1\"= [1,2] , b=2".toList =
      some ["\"k,1\"= [1,2]".toList, "b=2".toList] ∧
    (∃ pieces, pieces.map Text.trim = ["\"k,1\"= [1,2]".toList, "b=2".toList] ∧
      CutBetween ',' pieces "\"k,1\"= [1,2] ".toList " b=2".toList) ∧
    segments? ',' "b=2".toList = some ["b=2".toList] ∧
    Text.trim "a , b=2".toList ≠ [] ∧
    segments? ',' (Text.trim "a , b=2".toList) = some ["a".toList, "b=2".toList] ∧
    (Queue.single []).expand? ('{' :: ("a , b=2".toList ++ ['}'])) = none := by
  have hsegments : segments? ',' "\"k,1\"= [1,2] , b=2".toList =
      some ["\"k,1\"= [1,2]".toList, "b=2".toList] := by decide +kernel
  have hpairs : segments? ',' (Text.trim "a , b=2".toList) = some ["a".toList, "b=2".toList] := by
    decide +kernel
  have hne : Text.trim "a , b=2".toList ≠ [] := by decide +kernel
  obtain ⟨⟨pieces, -, -, hmap, hcuts⟩, hagain, hobject⟩ :=
    segments?_exact (show ',' ∈ delimiters by decide) hsegments
  have hcut := (hcuts "\"k,1\"= [1,2] ".toList " b=2".toList (by decide)).mpr (by decide)
  have hrefused := (hobject (.single []) "a , b=2".toList _ hne hpairs).mpr
    ⟨"a".toList, by decide, ["a".toList], by decide +kernel, by decide⟩
  exact ⟨by decide, hsegments, ⟨pieces, hmap.symm, hcut⟩, (hagain "b=2".toList (by decide)).1, hne,
    hpairs, hrefused⟩

end ApiDrift.Tag
