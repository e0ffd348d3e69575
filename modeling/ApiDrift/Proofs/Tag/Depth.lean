import ApiDrift.Proofs.Tag.Balance
import ApiDrift.Proofs.Tag.Exactness

/-!
# Literals whose depth has 32 bits

The check of a literal scans the contents of its lists and objects. As long as the depths of these
scans fit their word, it comes to the verdict of the check whose depth has no bound. That is so of
every text with fewer than `2 ^ 31` characters, and of every value of the grammar in which no more
than `2 ^ 31` brackets are open at a time: the scan of a content begins behind the opening bracket.
A list of the grammar with one more open bracket goes wrong in the first turn.
-/

namespace ApiDrift.Tag

open Checked (FitsSigned signedLimit)

/-- Nowhere in a text are more brackets open, outside quotes, than some number. -/
def NestsWithin (bound : Nat) (text : List Char) : Prop :=
  ∀ before, before <+: text → openings before ≤ closings before + bound

/-- The scan of the content of an element, should it be a list or an object, fits its word. -/
def Measured (element : List Char) : Prop :=
  ∀ opening closing inner, Brackets opening closing →
    enclosed? opening closing element = some inner →
      Scan.start.Throughout FitsSigned (Text.trim inner)

/-! ### The depths of parts -/

section

variable {P : Int → Prop} {text : List Char}

/-- The depths of a scan that starts deeper. -/
theorem Scan.throughout_add_iff {s : Scan} {more : Int} :
    Scan.Throughout P ⟨s.depth + more, s.quoting⟩ text ↔
      s.Throughout (fun depth => P (depth + more)) text := by
  induction text generalizing s with
  | nil => exact Iff.rfl
  | cons c rest ih =>
    rw [Throughout, Throughout, step_add]
    exact and_congr_right fun _ => ih

/-- A blank character does not change the depth, wherever it stands. -/
theorem Scan.depth_step_of_isBlank {c : Char} (h : Text.isBlank c = true) (s : Scan) :
    (s.step c).depth = s.depth := by
  have hmark : c ∉ marks := fun hmem => notMem_of_isBlank h (List.mem_append_left _ hmem)
  obtain ⟨depth, quoting⟩ := s
  cases quoting with
  | outside => rw [step_of_notMem_marks hmark]
  | escaped => rfl
  | inside =>
    by_cases hbackslash : c = '\\'
    · subst hbackslash
      rfl
    · have hquote : c ≠ '"' := by
        rintro rfl
        exact hmark (by decide)
      rw [step_inside hquote hbackslash]

/-- Throughout blank characters the depth is the one in front of them. -/
theorem Scan.throughout_of_blank {s : Scan} (h : ∀ c ∈ text, Text.isBlank c = true)
    (hdepth : P s.depth) : s.Throughout P text := by
  induction text generalizing s with
  | nil => exact hdepth
  | cons c rest ih =>
    obtain ⟨hc, hrest⟩ := List.forall_mem_cons.mp h
    exact ⟨hdepth, ih hrest (depth_step_of_isBlank hc s ▸ hdepth)⟩

/-- Blank characters around a text do not change the depths of its scan. -/
theorem throughout_trim_iff :
    Scan.start.Throughout P (Text.trim text) ↔ Scan.start.Throughout P text := by
  obtain ⟨left, right, htext, hleft, hright⟩ := Text.exists_blank_around text
  calc Scan.start.Throughout P (Text.trim text)
    _ ↔ Scan.start.Throughout P (left ++ Text.trim text ++ right) := by
      rw [List.append_assoc, Scan.throughout_append, Scan.run_start_of_blank hleft,
        Scan.throughout_append]
      constructor
      · intro h
        have hend := Scan.throughout_iff.mp h _ List.prefix_rfl
        exact ⟨Scan.throughout_of_blank hleft h.here, h, Scan.throughout_of_blank hright hend⟩
      · exact fun h => h.2.1
    _ ↔ Scan.start.Throughout P text := by rw [← htext]

/-- The depths of pieces are depths of the text that they join to. -/
theorem throughout_of_mem_pieces {delimiter : Char} (hmark : delimiter ∉ marks)
    {pieces : List (List Char)} (hpieces : ∀ piece ∈ pieces, IsPiece delimiter piece)
    (h : Scan.start.Throughout P ([delimiter].intercalate pieces)) :
    ∀ piece ∈ pieces, Scan.start.Throughout P piece := by
  induction pieces with
  | nil => exact List.forall_mem_nil _
  | cons first rest ih =>
    obtain ⟨hfirst, hrest⟩ := List.forall_mem_cons.mp hpieces
    cases rest with
    | nil =>
      rw [List.intercalate_singleton] at h
      exact List.forall_mem_singleton.mpr h
    | cons second others =>
      have hstep : Scan.start.step delimiter = .start := Scan.step_of_notMem_marks hmark
      rw [List.intercalate_cons_cons, List.append_assoc, Scan.throughout_append,
        hfirst.balanced, List.singleton_append, Scan.Throughout, hstep] at h
      exact List.forall_mem_cons.mpr ⟨h.1, ih hrest h.2.2⟩

/-- The depths of segments are depths of their text. -/
theorem throughout_of_mem_segments {delimiter : Char} (hdelimiter : delimiter ∈ delimiters)
    {segments : List (List Char)} (hsegments : segments? delimiter text = some segments)
    (h : Scan.start.Throughout P text) :
    ∀ segment ∈ segments, Scan.start.Throughout P segment := by
  obtain ⟨pieces, hpieces, rfl⟩ := Option.map_eq_some_iff.mp hsegments
  obtain ⟨-, rfl, hall⟩ := pieces?_eq_some_iff.mp hpieces
  have hmark := notMem_marks_of_mem_delimiters hdelimiter
  refine List.forall_mem_map.mpr fun piece hpiece => throughout_trim_iff.mpr ?_
  exact throughout_of_mem_pieces hmark hall h piece hpiece

/-- The depths of the value of a pair are depths of the pair. -/
theorem throughout_of_pairValue? {pair value : List Char} (hvalue : pairValue? pair = some value)
    (h : Scan.start.Throughout P pair) : Scan.start.Throughout P value := by
  unfold pairValue? at hvalue
  split at hvalue
  · next key found hsegments =>
    obtain rfl := Option.some.inj hvalue
    exact throughout_of_mem_segments (by decide) hsegments h found (by simp)
  · cases hvalue

/-- The depths of the values of pairs are depths of the pairs. -/
theorem throughout_of_pairValues {pairs values : List (List Char)}
    (hvalues : pairs.mapM pairValue? = some values)
    (h : ∀ pair ∈ pairs, Scan.start.Throughout P pair) :
    ∀ value ∈ values, Scan.start.Throughout P value := by
  rw [mapM_eq_some_iff] at hvalues
  induction hvalues with
  | nil => exact List.forall_mem_nil _
  | cons hvalue _ ih =>
    obtain ⟨hfirst, hrest⟩ := List.forall_mem_cons.mp h
    exact List.forall_mem_cons.mpr ⟨throughout_of_pairValue? hvalue hfirst, ih hrest⟩

/-- The depths of the elements of a list are depths of its content. -/
theorem throughout_of_listElements? {parts : List (List Char)}
    (hparts : listElements? text = some parts) (h : Scan.start.Throughout P text) :
    ∀ part ∈ parts, Scan.start.Throughout P part := by
  unfold listElements? at hparts
  split at hparts
  · obtain rfl := Option.some.inj hparts
    exact List.forall_mem_nil _
  · exact throughout_of_mem_segments (by decide) hparts h

/-- The depths of the values of an object are depths of its content. -/
theorem throughout_of_objectElements? {parts : List (List Char)}
    (hparts : objectElements? text = some parts) (h : Scan.start.Throughout P text) :
    ∀ part ∈ parts, Scan.start.Throughout P part := by
  unfold objectElements? at hparts
  split at hparts
  · obtain rfl := Option.some.inj hparts
    exact List.forall_mem_nil _
  · obtain ⟨pairs, hpairs, hvalues⟩ := Option.bind_eq_some_iff.mp hparts
    exact throughout_of_pairValues hvalues (throughout_of_mem_segments (by decide) hpairs h)

/-- Between brackets a scan is one deeper. -/
theorem throughout_brackets_iff {opening closing : Char} {inner : List Char}
    (hkind : Brackets opening closing)
    (hrun : Scan.start.run (opening :: (inner ++ [closing])) = .start) :
    Scan.start.Throughout P (opening :: (inner ++ [closing])) ↔
      P 0 ∧ Scan.start.Throughout (fun depth => P (depth + 1)) inner := by
  have hopen : Scan.start.step opening = ⟨0 + 1, .outside⟩ := (Scan.step_brackets hkind).1
  rw [Scan.run_cons, Scan.run_append] at hrun
  rw [Scan.Throughout, Scan.throughout_append, hopen, ← Scan.throughout_add_iff]
  refine and_congr_right fun hzero => and_iff_left_of_imp fun hinner => ?_
  refine ⟨Scan.throughout_iff.mp hinner _ List.prefix_rfl, ?_⟩
  rw [hopen] at hrun
  exact (congrArg (P ·.depth) hrun).mpr hzero

end

/-! ### Checks that agree -/

section

variable {overflow : Overflow}

/-- The value of a pair whose depths fit. -/
theorem countedValue_of_throughout {pair : List Char}
    (h : Scan.start.Throughout FitsSigned pair) :
    countedValue overflow pair = .ok (pairValue? pair) := by
  rw [countedValue, countedSegments_of_throughout (by decide) h]
  rfl

/-- The values of pairs whose depths fit. -/
theorem Queue.countedValues_of_throughout {queue : Queue} {pairs : List (List Char)}
    (h : ∀ pair ∈ pairs, Scan.start.Throughout FitsSigned pair) :
    queue.countedValues overflow pairs = .ok (queue.extendValues? pairs) := by
  induction pairs generalizing queue with
  | nil => rfl
  | cons pair rest ih =>
    obtain ⟨hpair, hrest⟩ := List.forall_mem_cons.mp h
    rw [countedValues, countedValue_of_throughout hpair, extendValues?]
    cases pairValue? pair with
    | none => rfl
    | some value => exact ih hrest

/-- A measured element comes into the queue as without a bound. -/
theorem Queue.countedExpand_of_measured {element : List Char} (h : Measured element)
    (queue : Queue) : queue.countedExpand overflow element = .ok (queue.expand? element) := by
  unfold countedExpand expand?
  split
  · cases hinner : enclosed? '[' ']' element with
    | none => rfl
    | some inner =>
      simp only [Option.bind_some]
      split
      · rfl
      · rw [countedSegments_of_throughout (by decide) (h _ _ inner .square hinner)]
        rfl
  · split
    · cases hinner : enclosed? '{' '}' element with
      | none => rfl
      | some inner =>
        have hfits := h _ _ inner .curly hinner
        simp only [Option.bind_some]
        split
        · rfl
        · rw [countedSegments_of_throughout (by decide) hfits]
          cases hpairs : segments? ',' (Text.trim inner) with
          | none => rfl
          | some pairs =>
            exact countedValues_of_throughout (throughout_of_mem_segments (by decide) hpairs hfits)
    · rfl

/-- A turn on measured elements is the one without a bound. -/
theorem Queue.countedTurn_of_measured {queue : Queue}
    (h : ∀ element ∈ queue.elements, Measured (Text.trim element)) :
    queue.countedTurn overflow = .ok queue.turn := by
  unfold countedTurn turn
  cases hpop : queue.pop? with
  | none => rfl
  | some popped =>
    obtain ⟨item, rest⟩ := popped
    dsimp only
    split
    · rfl
    · rw [elements_of_pop? hpop] at h
      rw [countedExpand_of_measured (h item List.mem_cons_self)]
      cases rest.expand? (Text.trim item) <;> rfl

/-- A check comes to the verdict without a bound when all elements that it meets are measured. -/
theorem Queue.countedAccepts_of_measured {P : List Char → Prop}
    (hmeasured : ∀ element, P element → Measured (Text.trim element))
    (hparts : ∀ element parts, P element → parts? element = some parts → ∀ part ∈ parts, P part)
    {queue : Queue} (h : ∀ element ∈ queue.elements, P element) :
    queue.countedAccepts overflow = .ok queue.accepts := by
  have hturn (queue : Queue) (h : ∀ element ∈ queue.elements, P element) :
      queue.countedTurn overflow = .ok queue.turn :=
    countedTurn_of_measured fun element helement => hmeasured element (h element helement)
  induction queue using Queue.accepts.induct with
  | case1 queue verdict hends =>
    rw [accepts_of_ends hends, countedAccepts_of_ends (hends ▸ hturn queue h)]
  | case2 queue next hnext ih =>
    obtain ⟨element, rest, parts, helements, hfound, hnextelements⟩ := exists_of_turn hnext
    obtain ⟨helement, hrest⟩ := List.forall_mem_cons.mp (helements ▸ h)
    rw [accepts_of_goesOn hnext, countedAccepts_of_goesOn (hnext ▸ hturn queue h)]
    refine ih ?_
    rw [hnextelements]
    exact List.forall_mem_append.mpr ⟨hrest, hparts element parts helement hfound⟩

/-- A text is checked as without a bound when all elements that the check meets are measured. -/
theorem checkList_of_measured {P : List Char → Prop} {text : List Char}
    (hmeasured : ∀ element, P element → Measured (Text.trim element))
    (hparts : ∀ element parts, P element → parts? element = some parts → ∀ part ∈ parts, P part)
    (h : P (Text.trim text)) : checkList overflow text = .ok (isList text) := by
  have hqueue : (Queue.single (Text.trim text)).countedAccepts overflow = .ok _ :=
    Queue.countedAccepts_of_measured hmeasured hparts (List.forall_mem_singleton.mpr h)
  rw [checkList, isList, hqueue]
  split
  · next hsome => rw [hsome, Bool.true_and]
  · next hsome => rw [Bool.eq_false_iff.mpr hsome, Bool.false_and]

end

/-- A text with fewer characters than the greatest number of the word is checked as without a
bound. -/
theorem checkList_of_length_lt {text : List Char} (h : text.length < signedLimit)
    (overflow : Overflow) : checkList overflow text = .ok (isList text) := by
  refine checkList_of_measured (P := fun element => element.length < signedLimit) ?_ ?_ ?_
  · intro element helement opening closing inner _ hinner
    have hsublist := (sublist_trim inner).trans
      (((List.sublist_cons_self ..).trans (sublist_enclosed hinner)).trans (sublist_trim element))
    have hlt := Nat.lt_of_le_of_lt hsublist.length_le helement
    exact countable_iff.mp (countable_of_length_lt hlt)
  · intro element parts helement hparts part hpart
    have hlt := totalLength_parts_lt hparts
    have hle := (List.sublist_flatten_of_mem hpart).length_le
    exact Nat.lt_of_le_of_lt hle (Nat.lt_trans hlt helement)
  · exact Nat.lt_of_le_of_lt (sublist_trim text).length_le h

/-! ### Values of the grammar -/

/-- As many brackets are open at a time as the scan of a text gets deep. -/
theorem nestsWithin_iff {bound : Nat} {text : List Char} :
    NestsWithin bound text ↔ Scan.start.Throughout (· ≤ (bound : Int)) text := by
  rw [Scan.throughout_iff, NestsWithin]
  refine forall₂_congr fun before _ => ?_
  rw [Scan.depth_run_start]
  omega

/-- Blank characters around a text open no brackets. -/
theorem nestsWithin_trim_iff {bound : Nat} {text : List Char} :
    NestsWithin bound (Text.trim text) ↔ NestsWithin bound text := by
  rw [nestsWithin_iff, throughout_trim_iff, ← nestsWithin_iff]

/-- No more than `2 ^ 31` brackets are open at a time in a list or an object exactly when the scan of
its content fits its word. -/
theorem Value.nestsWithin_iff {opening closing : Char} {content : List Char}
    (hkind : Brackets opening closing) (h : Value (opening :: (content ++ [closing]))) :
    NestsWithin signedLimit (opening :: (content ++ [closing])) ↔
      Scan.start.Throughout FitsSigned (Text.trim content) := by
  have hinert : Inert 0 ',' (opening :: (content ++ [closing])) := h.inert (by decide)
  obtain ⟨-, habove⟩ := (throughout_brackets_iff hkind (hinert.run 0)).mp (hinert.above 0)
  rw [Tag.nestsWithin_iff, throughout_brackets_iff hkind (hinert.run 0), throughout_trim_iff]
  constructor
  · rintro ⟨-, hbelow⟩
    have hpos : 0 < signedLimit := by decide
    refine Scan.throughout_iff.mpr fun before hbefore => ?_
    have hleast := Scan.throughout_iff.mp habove before hbefore
    have hmost := Scan.throughout_iff.mp hbelow before hbefore
    rw [FitsSigned]
    omega
  · intro hfits
    refine ⟨by decide, hfits.imp fun depth hdepth => ?_⟩
    rw [FitsSigned] at hdepth
    omega

/-- In the parts of a value no more brackets are open at a time than in the value. -/
theorem Value.nestsWithin_of_parts {element : List Char} {parts : List (List Char)}
    (h : Value (Text.trim element)) (hnests : NestsWithin signedLimit (Text.trim element))
    (hparts : parts? element = some parts) :
    ∀ part ∈ parts, NestsWithin signedLimit (Text.trim part) := by
  have hpart {part : List Char} (hfits : Scan.start.Throughout FitsSigned part) :
      NestsWithin signedLimit (Text.trim part) := by
    refine Tag.nestsWithin_iff.mpr (throughout_trim_iff.mpr (hfits.imp fun depth hdepth => ?_))
    exact Int.le_of_lt hdepth.2
  rcases partsOfTrimmed?_cases hparts with
    ⟨content, hcontent, hfound⟩ | ⟨content, hcontent, hfound⟩ | ⟨-, rfl⟩
  · rw [hcontent] at h hnests
    have hfits := (h.nestsWithin_iff .square).mp hnests
    exact fun part hmem => hpart (throughout_of_listElements? hfound hfits part hmem)
  · rw [hcontent] at h hnests
    have hfits := (h.nestsWithin_iff .curly).mp hnests
    exact fun part hmem => hpart (throughout_of_objectElements? hfound hfits part hmem)
  · exact List.forall_mem_nil _

/-- A list of the grammar is accepted when no more than `2 ^ 31` brackets are open at a time. -/
theorem checkList_of_nestsWithin {text : List Char} (h : ListLiteral (Text.trim text))
    (hnests : NestsWithin signedLimit (Text.trim text)) (overflow : Overflow) :
    checkList overflow text = .ok true := by
  have hlist : isList text = true := ((listLiteral_trim_iff text).mp h).1
  rw [← hlist]
  refine checkList_of_measured (P := fun element =>
    Value (Text.trim element) ∧ NestsWithin signedLimit (Text.trim element)) ?_ ?_ ?_
  · rintro element ⟨hvalue, helement⟩ opening closing inner hkind hinner
    rw [enclosed?_eq_some_iff.mp hinner] at hvalue helement
    exact (hvalue.nestsWithin_iff hkind).mp helement
  · rintro element parts ⟨hvalue, helement⟩ hparts part hpart
    obtain ⟨found, hfound, -, hvalues⟩ := hvalue.exists_parts
    obtain rfl := Option.some.inj (hfound.symm.trans hparts)
    exact ⟨hvalues part hpart, hvalue.nestsWithin_of_parts helement hparts part hpart⟩
  · rw [Text.trim_trim]
    exact ⟨h.1, hnests⟩

/-- The first turn goes wrong on a list when the scan of its content does not fit its word. -/
theorem countedTurn_fails {content : List Char}
    (h : ¬Scan.start.Throughout FitsSigned (Text.trim content)) :
    (Queue.single ('[' :: (content ++ [']']))).countedTurn .fails = .error .overflow := by
  have htrim : Text.trim ('[' :: (content ++ [']'])) = '[' :: (content ++ [']']) :=
    (Text.Tight.enclosed (by decide) (by decide) content).trim_eq
  have hne : Text.trim content ≠ [] := by
    intro hnil
    exact h (hnil ▸ (by decide : FitsSigned 0))
  have hexpand (queue : Queue) :
      queue.countedExpand .fails ('[' :: (content ++ [']'])) = .error .overflow := by
    rw [Queue.countedExpand, if_pos List.head?_cons, enclosed?_eq_some_iff.mpr rfl]
    dsimp only
    rw [if_neg (by simpa using hne), countedSegments_fails (by decide) h]
    rfl
  rw [Queue.countedTurn, Queue.single, Queue.pop?]
  dsimp only
  rw [htrim, if_neg (by simp), hexpand]
  rfl

/-- The check of a list of the grammar goes wrong when more than `2 ^ 31` brackets are open at a
time. -/
theorem checkList_of_not_nestsWithin {text : List Char} (h : ListLiteral (Text.trim text))
    (hnests : ¬NestsWithin signedLimit (Text.trim text)) :
    checkList .fails text = .error .overflow := by
  obtain ⟨content, hcontent⟩ := h.exists_content
  have hvalue : Value ('[' :: (content ++ [']'])) := hcontent ▸ h.1
  rw [hcontent] at hnests
  have hturn := countedTurn_fails (mt (hvalue.nestsWithin_iff .square).mpr hnests)
  rw [checkList, hcontent, enclosed?_eq_some_iff.mpr rfl]
  exact Queue.countedAccepts_of_error hturn

end ApiDrift.Tag
